import ScriptBind.Canon.Json
import ScriptBind.Crossing.Emitted
import ScriptBind.Declaration.Json
import ScriptBind.Library.Call
import ScriptBind.Library.Exchange
import ScriptBind.Library.Manifest
import ScriptBind.Main
import ScriptBind.TypeExpr.Equality
import ScriptBind.TypeExpr.Json
import ScriptBind.TypeGraph.Json
import ScriptBind.Value.Equality
import ScriptBind.Value.Json
import ScriptBind.Proofs.Binding.Boxed
import ScriptBind.Proofs.Binding.Exports
import ScriptBind.Proofs.Binding.Manifest
import ScriptBind.Proofs.Canon.Failures
import ScriptBind.Proofs.Crossing.Generated
import ScriptBind.Proofs.Crossing.Termination
import ScriptBind.Proofs.Crossing.ZeroCrossing
import ScriptBind.Proofs.Crossing.ZeroEnds
import ScriptBind.Proofs.Crossing.RoundTrip
import ScriptBind.Proofs.Crossing.Soundness
import ScriptBind.Proofs.Declaration.References
import ScriptBind.Proofs.Declaration.Rereading
import ScriptBind.Proofs.TypeExpr.RoundTrip
import ScriptBind.Proofs.Channel.Conservation
import ScriptBind.Proofs.Channel.Closings
import ScriptBind.Proofs.Channel.Counterparts
import ScriptBind.Proofs.Channel.Queues
import ScriptBind.Proofs.Library.Interfaces
import ScriptBind.Proofs.TypeGraph.Calls
import ScriptBind.Proofs.Binding.Labels
import ScriptBind.Proofs.Binding.Order
import ScriptBind.Proofs.Binding.Limitations
import ScriptBind.Proofs.Binding.Identifiers
import ScriptBind.Proofs.Binding.Lines
import ScriptBind.Proofs.Binding.Ends
import ScriptBind.Proofs.Canon.Consistent
import ScriptBind.Proofs.Crossing.Aliases
import ScriptBind.Proofs.Crossing.Described
import ScriptBind.Proofs.Library.Loaded
