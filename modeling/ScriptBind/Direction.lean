/-!
# ScriptBind.Direction

The two directions in which a value crosses between native code and a script, and the three
directions of a channel type.

* `Direction` - of a converter.
* `ChanDir` - of a channel, seen from whoever holds it.
-/

namespace ScriptBind

inductive Direction where
  | toScript
  | fromScript
deriving DecidableEq, Repr

namespace Direction

def reverse : Direction → Direction
  | .toScript => .fromScript
  | .fromScript => .toScript

/-- How the identifiers of converters begin. -/
def stem : Direction → String
  | .toScript => "to_script"
  | .fromScript => "from_script"

def text : Direction → String
  | .toScript => "to-script"
  | .fromScript => "from-script"

def ofText? : String → Option Direction
  | "to-script" => some .toScript
  | "from-script" => some .fromScript
  | _ => none

theorem ofText?_text (d : Direction) : ofText? d.text = some d := by cases d <;> rfl

theorem reverse_reverse (d : Direction) : d.reverse.reverse = d := by cases d <;> rfl

end Direction

inductive ChanDir where
  | both
  | sendOnly
  | recvOnly
deriving DecidableEq, Repr

namespace ChanDir

/-- Whether native values flow to the script. -/
def forwardsToScript : ChanDir → Bool
  | .sendOnly => false
  | _ => true

/-- Whether values sent by the script flow to native code. -/
def forwardsToNative : ChanDir → Bool
  | .recvOnly => false
  | _ => true

/-- The short word in identifiers. -/
def label : ChanDir → String
  | .both => "both"
  | .sendOnly => "send"
  | .recvOnly => "recv"

def text : ChanDir → String
  | .both => "both"
  | .sendOnly => "send-only"
  | .recvOnly => "recv-only"

def ofText? : String → Option ChanDir
  | "both" => some .both
  | "send-only" => some .sendOnly
  | "recv-only" => some .recvOnly
  | _ => none

theorem ofText?_text (d : ChanDir) : ofText? d.text = some d := by cases d <;> rfl

/-- How a channel type of this direction begins in type notation. -/
def keyword : ChanDir → String
  | .both => "chan "
  | .sendOnly => "chan<- "
  | .recvOnly => "<-chan "

end ChanDir

end ScriptBind
