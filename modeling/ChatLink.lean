import ChatLink.Frame.Record
import ChatLink.Proofs.Anatomy
import ChatLink.Proofs.Bound
import ChatLink.Proofs.Correlation
import ChatLink.Proofs.Delivery
import ChatLink.Proofs.Exchange
import ChatLink.Proofs.Journal
import ChatLink.Proofs.Layout
import ChatLink.Proofs.Loop
import ChatLink.Proofs.Reception
import ChatLink.Proofs.Recipients
import ChatLink.Proofs.Rewriting
import ChatLink.Proofs.RoundTrip
import ChatLink.Proofs.Rounding
import ChatLink.Proofs.Scan
import ChatLink.Proofs.Segments
import ChatLink.Proofs.Socket
import ChatLink.Proofs.Truncation
import ChatLink.Proofs.Utf8
import ChatLink.Proofs.WellFormed
import ChatLink.Proofs.Written
import ChatLink.Secret
import ChatLink.Settings.Attributes
import ChatLink.Startup
import ChatLink.Proofs.Ownership
import ChatLink.Proofs.Failures
import ChatLink.Proofs.Interruption
import ChatLink.Proofs.Stopping
import ChatLink.Proofs.Tables
import ChatLink.Proofs.Fatality
import ChatLink.Proofs.Admission
import ChatLink.Proofs.Setup
import ChatLink.Proofs.Standing
import ChatLink.Proofs.Loading
import ChatLink.Proofs.Lexing
import ChatLink.Proofs.Nesting
import ChatLink.Proofs.Folders
import ChatLink.Proofs.Saving
import ChatLink.Proofs.Encoding
import ChatLink.Proofs.Sending
import ChatLink.Proofs.Audience
import ChatLink.Proofs.Launch
import ChatLink.Proofs.Drafts
import ChatLink.Proofs.Leniency
import ChatLink.Proofs.Choosing
import ChatLink.Proofs.Precedence
import ChatLink.Proofs.Copying
import ChatLink.Proofs.InPlace
import ChatLink.Proofs.Secrets
import ChatLink.Proofs.Nearest
import ChatLink.Proofs.Milliseconds
import ChatLink.Proofs.Quads
import ChatLink.Proofs.Gaps
import ChatLink.Proofs.Spellings
import ChatLink.Proofs.Boundary
import ChatLink.Proofs.Offsets
