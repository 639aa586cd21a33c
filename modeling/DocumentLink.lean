import DocumentLink.Address.Internet
import DocumentLink.Authentication.Script
import DocumentLink.Configuration
import DocumentLink.Json.Reader
import DocumentLink.Session.Authentication
import DocumentLink.Session.Cluster
import DocumentLink.Session.Connections
import DocumentLink.Session.ServerSet
import DocumentLink.Session.Watch
import DocumentLink.Proofs.Suspension
import DocumentLink.Proofs.Frame
import DocumentLink.Proofs.Modes
import DocumentLink.Proofs.Conversation
import DocumentLink.Proofs.Opening
import DocumentLink.Proofs.Commands
import DocumentLink.Proofs.Gate
import DocumentLink.Proofs.Wire
import DocumentLink.Proofs.Contest
import DocumentLink.Proofs.Lifecycle
import DocumentLink.Proofs.Likeness
import DocumentLink.Proofs.Counterparts
import DocumentLink.Proofs.Speculation
import DocumentLink.Proofs.Reuse
import DocumentLink.Proofs.Passwords
import DocumentLink.Proofs.Telling
import DocumentLink.Proofs.Blame
import DocumentLink.Proofs.Ledger
import DocumentLink.Proofs.Moves
import DocumentLink.Proofs.Switchboard
import DocumentLink.Proofs.Unread
import DocumentLink.Proofs.Learning
import DocumentLink.Proofs.Hosts
import DocumentLink.Proofs.Lookups
import DocumentLink.Proofs.Roster
import DocumentLink.Proofs.Polling
import DocumentLink.Proofs.Forgetting
import DocumentLink.Proofs.Dialogue
import DocumentLink.Proofs.Monitoring
import DocumentLink.Proofs.Founding
import DocumentLink.Proofs.Namesakes
import DocumentLink.Proofs.Passage
import DocumentLink.Proofs.Fleet
import DocumentLink.Proofs.Reconciliation
import DocumentLink.Proofs.Exactness
import DocumentLink.Proofs.Refusals
import DocumentLink.Proofs.Labels
import DocumentLink.Proofs.SmallLetters
import DocumentLink.Proofs.AddressText
import DocumentLink.Proofs.Rereading
import DocumentLink.Proofs.Trimming
import DocumentLink.Proofs.Sextets
import DocumentLink.Proofs.Payloads
import DocumentLink.Proofs.SettingCalls
import DocumentLink.Proofs.Preparation
import DocumentLink.Proofs.Copies
import DocumentLink.Proofs.Readings
