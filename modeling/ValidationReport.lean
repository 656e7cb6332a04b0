import ValidationReport.Assembly
import ValidationReport.Base64
import ValidationReport.Calendar
import ValidationReport.Certificates
import ValidationReport.Conclusion
import ValidationReport.Conclusion.Writer
import ValidationReport.Container
import ValidationReport.DataFiles
import ValidationReport.Der.Content
import ValidationReport.Der.Element
import ValidationReport.Endpoint
import ValidationReport.Endpoint.Form
import ValidationReport.Endpoint.Part
import ValidationReport.Endpoint.Target
import ValidationReport.Evidence
import ValidationReport.Facts
import ValidationReport.Facts.Reader
import ValidationReport.Facts.Writer
import ValidationReport.Failure
import ValidationReport.Format
import ValidationReport.Indication
import ValidationReport.Json.Basic
import ValidationReport.Json.Printer
import ValidationReport.Json.Reader
import ValidationReport.Json.Reported
import ValidationReport.Json.Token
import ValidationReport.Moment
import ValidationReport.Moment.Reader
import ValidationReport.Number.Binary64
import ValidationReport.Number.Shortest
import ValidationReport.Policy
import ValidationReport.Proofs.Assembly
import ValidationReport.Proofs.Calendar
import ValidationReport.Proofs.Coherence
import ValidationReport.Proofs.Failure
import ValidationReport.Proofs.Isolation
import ValidationReport.Proofs.Outcome
import ValidationReport.Proofs.Processing
import ValidationReport.Proofs.Text
import ValidationReport.Proofs.Verdict
import ValidationReport.Protocol
import ValidationReport.Refusal
import ValidationReport.Scope
import ValidationReport.Service
import ValidationReport.Settings
import ValidationReport.Sha256
import ValidationReport.Text.Basic
import ValidationReport.Text.Blank
import ValidationReport.Text.Capitals
import ValidationReport.Text.Markup
import ValidationReport.Text.Percent
import ValidationReport.Text.Utf8
import ValidationReport.X509.Algorithm
import ValidationReport.X509.Certificate
import ValidationReport.X509.Name
import ValidationReport.X509.Response
import ValidationReport.Proofs.Answers
import ValidationReport.Proofs.Strictness
import ValidationReport.Proofs.IsoText
import ValidationReport.Proofs.Unreadable
import ValidationReport.Proofs.NormalForm
import ValidationReport.Proofs.Spelling
import ValidationReport.Proofs.Mirror
import ValidationReport.Proofs.Influence
import ValidationReport.Proofs.Sizes
import ValidationReport.Proofs.Utf8
import ValidationReport.Proofs.Percent
import ValidationReport.Proofs.Scopes
import ValidationReport.Proofs.Markup
import ValidationReport.Proofs.Protocol
import ValidationReport.Proofs.Keys
import ValidationReport.Proofs.Reported
import ValidationReport.Proofs.WellFormed
import ValidationReport.Proofs.Sendable
import ValidationReport.Proofs.Arrival
import ValidationReport.Proofs.Agreement
import ValidationReport.Proofs.Messages
import ValidationReport.Proofs.Base64
import ValidationReport.Proofs.Damage
import ValidationReport.Proofs.Transport
import ValidationReport.Proofs.Reread
import ValidationReport.Proofs.Armour
import ValidationReport.Proofs.Listing
import ValidationReport.Proofs.FirstEvidence
import ValidationReport.Proofs.Levels
import ValidationReport.Proofs.UtcText
import ValidationReport.Proofs.Encoding
import ValidationReport.Proofs.Fields
import ValidationReport.Proofs.Subject
import ValidationReport.Proofs.Nonce
import ValidationReport.Proofs.Transcripts
import ValidationReport.Proofs.DataFiles
import ValidationReport.Proofs.Sessions
import ValidationReport.Proofs.DefaultPolicy
import ValidationReport.Proofs.Rounds
