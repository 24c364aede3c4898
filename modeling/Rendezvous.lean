import Rendezvous.Token
import Rendezvous.Host
import Rendezvous.Stun.Clocked
import Rendezvous.Main
import Rendezvous.Proofs.Forwarding
import Rendezvous.Proofs.Refusals
import Rendezvous.Proofs.Bodies
import Rendezvous.Proofs.Sizes
import Rendezvous.Proofs.Oversize
import Rendezvous.Proofs.Changes
import Rendezvous.Proofs.WellFormed
import Rendezvous.Proofs.Listings
import Rendezvous.Proofs.Decimals
import Rendezvous.Proofs.Layouts
import Rendezvous.Proofs.Snapshots
import Rendezvous.Proofs.History
import Rendezvous.Proofs.Memberships
import Rendezvous.Proofs.Persistence
import Rendezvous.Proofs.Serving
import Rendezvous.Proofs.Streams
import Rendezvous.Proofs.Replies
import Rendezvous.Proofs.Correlation
import Rendezvous.Proofs.Exchange
import Rendezvous.Proofs.Requests
import Rendezvous.Proofs.Queues
import Rendezvous.Proofs.Calls
import Rendezvous.Proofs.Identities
import Rendezvous.Proofs.Sitting
import Rendezvous.Proofs.Sessions
import Rendezvous.Proofs.Checking
import Rendezvous.Proofs.Silence
import Rendezvous.Proofs.Packets
import Rendezvous.Proofs.Answers
import Rendezvous.Proofs.Agreement
import Rendezvous.Proofs.Reports
import Rendezvous.Proofs.Meeting
import Rendezvous.Proofs.Roles
import Rendezvous.Proofs.Handling
import Rendezvous.Proofs.Malformed
import Rendezvous.Proofs.Registrations
import Rendezvous.Proofs.Redactions
import Rendezvous.Proofs.Passwords
import Rendezvous.Proofs.Confidentiality
import Rendezvous.Proofs.Reconnections
import Rendezvous.Proofs.Ordering
import Rendezvous.Proofs.Announcements
import Rendezvous.Proofs.HalfOpen
import Rendezvous.Proofs.Readers
import Rendezvous.Proofs.Targets
import Rendezvous.Proofs.Logins
import Rendezvous.Proofs.Lifetimes
import Rendezvous.Proofs.Waiting
import Rendezvous.Proofs.Attributes
import Rendezvous.Proofs.Datagrams
import Rendezvous.Proofs.Alignment
import Rendezvous.Proofs.Paths
import Rendezvous.Proofs.Interruptions
import Rendezvous.Proofs.Spellings
import Rendezvous.Proofs.Skipping
import Rendezvous.Proofs.Names
import Rendezvous.Proofs.Arrangements
import Rendezvous.Proofs.Compatibility
