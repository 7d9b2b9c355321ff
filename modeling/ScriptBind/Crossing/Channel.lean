import ScriptBind.Crossing.Compound

/-!
# ScriptBind.Crossing.Channel

How channels cross. The channel on the other side is found by the element shape and the direction
of the channel type, and made when there is none, so a channel that crosses again meets the same
one as long as their bridge is up.

* `chanToScript`, `chanFromScript` - channels.
-/

namespace ScriptBind

open CrossM (fail update)

def chanToScript (typeName : String) (element : ShapeId) (direction : ChanDir) : ToScript
  | .chan none => return .none
  | .chan (some native) => return .channel (← update (·.scriptSide element direction native))
  | v => fail (nativeMismatch typeName v)

def chanFromScript (typeName : String) (element : ShapeId) (direction : ChanDir) : FromScript
  | .none => return .chan none
  | .int n => if n = 0 then return .chan none else fail (.invalidNil typeName n)
  | .channel script => return .chan (some (← update (·.nativeSide element direction script)))
  | .native h =>
    if h.typeName = typeName then return h.value else fail (scriptMismatch typeName (.native h))
  | v => fail (scriptMismatch typeName v)

end ScriptBind
