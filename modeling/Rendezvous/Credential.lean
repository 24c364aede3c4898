import Rendezvous.Text.Hex
import Rendezvous.Sha256

/-!
# Credentials

Passwords are hashed twice. A client sends `digestPassword pwd` and never the password itself;
the relay keeps `saltedDigest digest salt` and compares with it. Lengths are counted in bytes.
-/

namespace Rendezvous.Credential

/-- The shortest peer id that may be registered. -/
def minIdLength : Nat := 10

/-- The shortest client digest that is accepted. -/
def minDigestLength : Nat := 32

/-- The shortest salt that is accepted. -/
def minSaltLength : Nat := 4

/-- What a client sends in place of a password: lowercase hexadecimal SHA-256. -/
def digestPassword (pwd : String) : String := Hex.encode (Sha256.digest (Utf8.encode pwd))

/-- What the relay keeps: the digest of the client digest, a colon and the salt. -/
def saltedDigest (pwdDigest salt : String) : String :=
  Hex.encode (Sha256.digest (Utf8.encode pwdDigest ++ Utf8.encode ":" ++ Utf8.encode salt))

/-- Whether a client digest matches a kept one. -/
def verifies (pwdDigest salt stored : String) : Bool := saltedDigest pwdDigest salt == stored

/-- Whether a digest and its salt are long enough to be kept. -/
def isAcceptable (pwdDigest salt : String) : Bool :=
  minDigestLength ≤ pwdDigest.utf8ByteSize && minSaltLength ≤ salt.utf8ByteSize

theorem verifies_iff (pwdDigest salt stored : String) :
    verifies pwdDigest salt stored = true ↔ saltedDigest pwdDigest salt = stored := by
  simp [verifies]

end Rendezvous.Credential
