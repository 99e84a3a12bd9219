import ComponentSpec.Compile
import ComponentSpec.Render.Definition
import ComponentSpec.Render.Registry
import ComponentSpec.Proofs.Outcome
import ComponentSpec.Proofs.Expansion
import ComponentSpec.Proofs.Registry
import ComponentSpec.Proofs.Assembly
import ComponentSpec.Proofs.Sharing
import ComponentSpec.Proofs.Building
import ComponentSpec.Proofs.Reference
import ComponentSpec.Proofs.Phases
import ComponentSpec.Proofs.Closure
import ComponentSpec.Proofs.Failure
import ComponentSpec.Proofs.Resolution
import ComponentSpec.Proofs.Order
import ComponentSpec.Proofs.Reserved
import ComponentSpec.Proofs.Checking
import ComponentSpec.Proofs.Events
import ComponentSpec.Proofs.Trace
import ComponentSpec.Proofs.Copying
import ComponentSpec.Proofs.Extension
import ComponentSpec.Proofs.Matching
import ComponentSpec.Proofs.PlainPattern
import ComponentSpec.Proofs.Text
import ComponentSpec.Proofs.TypeToken
import ComponentSpec.Proofs.TypeGrammar
import ComponentSpec.Proofs.RoundTrip
import ComponentSpec.Proofs.Shortest
import ComponentSpec.Proofs.NumberText
import ComponentSpec.Proofs.Canonical
import ComponentSpec.Proofs.JsonText
import ComponentSpec.Proofs.Serialization
import ComponentSpec.Proofs.Violation
import ComponentSpec.Proofs.Agreement
import ComponentSpec.Proofs.Classes
import ComponentSpec.Proofs.Lexing
import ComponentSpec.Proofs.Crossing
import ComponentSpec.Proofs.Enclosing
import ComponentSpec.Proofs.OpenGroups
import ComponentSpec.Proofs.WholeName
import ComponentSpec.Proofs.BreakingOut
import ComponentSpec.Proofs.Subscribing
import ComponentSpec.Proofs.Comparison
import ComponentSpec.Proofs.Following
import ComponentSpec.Proofs.Forms
import ComponentSpec.Proofs.Untagging
import ComponentSpec.Proofs.DistinctKeys
import ComponentSpec.Proofs.Edits
import ComponentSpec.Proofs.Rearranging
import ComponentSpec.Proofs.Outgoing
import ComponentSpec.Proofs.Arrangement
import ComponentSpec.Proofs.Subscribers
import ComponentSpec.Proofs.PropertyEntry
