import ScriptBind.Channel.Basic

/-!
# ScriptBind.Channel.Bridge

A bridge connects a native channel with the channel of a script. Its worker takes a value at one
end, converts it and puts it down at the other end. When either end closes, the worker drains what
is left there, closes the other end, and stops.

* `Worker` - where the work stands.
* `Ends` - the two channels; `Ends.takeNative` and the other moves are what the worker does to them.
* `Bridge` - the registered pairing of two channels with its worker.
* `BridgeState` - what a table of bridges tells of a channel.
-/

namespace ScriptBind

/-- What the worker carries. It is converted already. -/
inductive Load where
  | none
  | toScript (value : Value)
  | toNative (value : NativeValue)

inductive Mode where
  | forwarding
  /-- The native end closed; what was sent there is being drained. -/
  | drainingNative
  /-- The script closed its end; what it sent is being drained. -/
  | drainingScript
  /-- Both ends are closed. -/
  | stopped
  /-- A conversion goes on without end. -/
  | stuck
deriving DecidableEq, Repr

structure Worker where
  mode : Mode
  load : Load

namespace Worker

def start : Worker := ⟨.forwarding, .none⟩

def isFree (w : Worker) : Bool :=
  match w.load with
  | .none => true
  | _ => false

/-- Whether the worker is about to read the native end. -/
def readsNative (w : Worker) (direction : ChanDir) : Bool :=
  w.isFree && direction.forwardsToScript && (w.mode = .forwarding || w.mode = .drainingNative)

/-- Whether the worker is about to read what the script sends. -/
def readsScript (w : Worker) : Bool :=
  w.isFree && (w.mode = .forwarding || w.mode = .drainingScript)

end Worker

structure Ends where
  native : Chan NativeValue
  script : ScriptChan

namespace Ends

/-! ### The moves of a worker, each of which is missing when it is not ready -/

def takeNative (e : Ends) (w : Worker) (direction : ChanDir) : Option (NativeValue × Ends) :=
  if w.readsNative direction then
    match e.native.takeSent with
    | some (v, c) => some (v, { e with native := c })
    | none => none
  else none

def takeScript (e : Ends) (w : Worker) : Option (Value × Ends) :=
  if w.readsScript then
    match e.script.outgoing.takeSent with
    | some (v, c) => some (v, { e with script.outgoing := c })
    | none => none
  else none

/-- A load for a channel that closed meanwhile is dropped. -/
def put (e : Ends) (w : Worker) : Option (Ends × Worker) :=
  match w.load with
  | .none => none
  | .toScript v =>
    match e.script.incoming.send v with
    | .accepted c => some ({ e with script.incoming := c }, { w with load := .none })
    | .refused _ => some (e, { w with load := .none })
    | .blocked => none
  | .toNative v =>
    match e.native.deliver v with
    | .accepted c => some ({ e with native := c }, { w with load := .none })
    | .refused _ => some (e, { w with load := .none })
    | .blocked => none

/-- The worker sees that an end has closed. -/
def noticeClose (e : Ends) (w : Worker) : Option Worker :=
  if w.isFree && w.mode = .forwarding then
    if e.native.closed then some { w with mode := .drainingNative }
    else if e.script.outgoing.closed then some { w with mode := .drainingScript }
    else none
  else none

def closeScript (e : Ends) : Ends :=
  { e with script := ⟨e.script.incoming.close.2, e.script.outgoing.close.2⟩ }

def closeNative (e : Ends) : Ends :=
  { e with native := e.native.close.2, script.incoming := e.script.incoming.close.2 }

/-- All is drained: the other end closes too. -/
def finish (e : Ends) (w : Worker) (direction : ChanDir) : Option (Ends × Worker) :=
  if !w.isFree then none
  else
    match w.mode with
    | .drainingNative =>
      match e.takeNative w direction with
      | some _ => none
      | none => some (e.closeScript, ⟨.stopped, .none⟩)
    | .drainingScript =>
      match e.takeScript w with
      | some _ => none
      | none => some (e.closeNative, ⟨.stopped, .none⟩)
    | _ => none

end Ends

/-- A channel of either side, which have separate supplies of identities. -/
inductive ChanKey where
  | native (id : Nat)
  | script (id : Nat)
deriving DecidableEq, Repr

/-- Bridges are kept apart by the shape of the values and the direction of the channel type. -/
structure Bridge where
  element : ShapeId
  direction : ChanDir
  native : Nat
  script : Nat
  worker : Worker

namespace Bridge

def serves (b : Bridge) (element : ShapeId) (direction : ChanDir) : Bool :=
  b.element = element && b.direction = direction

/-- A bridge is found by either of its channels. -/
def keys (b : Bridge) : List ChanKey := [.native b.native, .script b.script]

end Bridge

inductive BridgeState where
  | absent
  | active
  /-- The worker has stopped, and its bridge is about to go. -/
  | terminated
deriving DecidableEq, Repr

end ScriptBind
