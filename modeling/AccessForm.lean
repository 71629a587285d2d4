import AccessForm.Document.Markup
import AccessForm.Form.History
import AccessForm.Form.Latch
import AccessForm.Form.Panel
import AccessForm.Form.Widget
import AccessForm.Settings.Json
import AccessForm.Site.Dispatch
import AccessForm.Site.Exception
import AccessForm.Site.Page
import AccessForm.Table.Json
import AccessForm.Proofs.Derivation
import AccessForm.Proofs.Panel
import AccessForm.Proofs.Participation
import AccessForm.Proofs.Offer
import AccessForm.Proofs.TypedText
import AccessForm.Proofs.Frame
import AccessForm.Proofs.Guarding
import AccessForm.Proofs.Missing
import AccessForm.Proofs.Classes
import AccessForm.Proofs.Evolution
import AccessForm.Proofs.Lookup
import AccessForm.Proofs.Naming
import AccessForm.Proofs.Binding
import AccessForm.Proofs.Session
import AccessForm.Proofs.Rebinding
import AccessForm.Proofs.Identity
import AccessForm.Proofs.Hosting
import AccessForm.Proofs.Locking
import AccessForm.Proofs.Refusal
import AccessForm.Proofs.Interchange
import AccessForm.Proofs.Attributes
import AccessForm.Proofs.Operations
import AccessForm.Proofs.Registry
import AccessForm.Proofs.Lockstep
import AccessForm.Proofs.Household
import AccessForm.Proofs.Mirror
import AccessForm.Proofs.Locality
import AccessForm.Proofs.Outline
import AccessForm.Proofs.Composition
import AccessForm.Proofs.Comparison
import AccessForm.Proofs.Paging
import AccessForm.Proofs.Seclusion
import AccessForm.Proofs.Revisiting
import AccessForm.Proofs.Independence
import AccessForm.Proofs.Priming
import AccessForm.Proofs.Choice
import AccessForm.Proofs.Stepwise
import AccessForm.Proofs.Depiction
import AccessForm.Proofs.Transcript
import AccessForm.Proofs.Hearing
import AccessForm.Proofs.Tracking
import AccessForm.Proofs.Repetition
import AccessForm.Proofs.Retention
import AccessForm.Proofs.Prefilled
import AccessForm.Proofs.Streams
import AccessForm.Proofs.Spelling
import AccessForm.Proofs.Writing
import AccessForm.Proofs.Octets
import AccessForm.Proofs.Splicing
import AccessForm.Proofs.TableText
import AccessForm.Proofs.Validation
import AccessForm.Proofs.Reselection
import AccessForm.Proofs.Attendance
import AccessForm.Proofs.Selecting
import AccessForm.Proofs.Publishing
import AccessForm.Proofs.SettingsText
import AccessForm.Proofs.Shorthand
import AccessForm.Proofs.Latching
import AccessForm.Proofs.Submission
