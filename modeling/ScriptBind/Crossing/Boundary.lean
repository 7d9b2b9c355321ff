import ScriptBind.Channel.Bridge
import ScriptBind.Crossing.Error

/-!
# ScriptBind.Crossing.Boundary

What conversions and calls share: the supply of identities, the channels on both sides, the
bridges between them, and the errors that have no caller to return to.

* `Boundary` - the shared state.
* `CrossM` - a computation that uses it and can fail. It can also be without end, when a shape
  refers to itself without getting any deeper into the value.
-/

namespace ScriptBind

structure Boundary where
  nextId : Nat
  /-- By identity. -/
  natives : Array (Chan NativeValue)
  /-- By identity. -/
  scripts : Array ScriptChan
  /-- The live ones, oldest first. -/
  bridges : List Bridge
  /-- Oldest first. -/
  reports : List ConversionError

namespace Boundary

def empty : Boundary := ⟨0, #[], #[], [], []⟩

instance : Inhabited Boundary := ⟨empty⟩

def newNative (b : Boundary) (capacity : Option Nat) : Nat × Boundary :=
  (b.natives.size, { b with natives := b.natives.push (.new capacity) })

def newScript (b : Boundary) : Nat × Boundary :=
  (b.scripts.size, { b with scripts := b.scripts.push .new })

def setNative (b : Boundary) (id : Nat) (c : Chan NativeValue) : Boundary :=
  { b with natives := b.natives.setIfInBounds id c }

def setScript (b : Boundary) (id : Nat) (c : ScriptChan) : Boundary :=
  { b with scripts := b.scripts.setIfInBounds id c }

def report (b : Boundary) (e : ConversionError) : Boundary :=
  { b with reports := b.reports ++ [e] }

def addBridge (b : Boundary) (element : ShapeId) (direction : ChanDir) (native script : Nat) :
    Boundary :=
  { b with bridges := b.bridges ++ [⟨element, direction, native, script, .start⟩] }

def bridgesOf (b : Boundary) (element : ShapeId) (direction : ChanDir) : List Bridge :=
  b.bridges.filter (·.serves element direction)

/-- The channels by which the bridges of a table are found. -/
def keysOf (b : Boundary) (element : ShapeId) (direction : ChanDir) : List ChanKey :=
  (b.bridgesOf element direction).flatMap (·.keys)

def countOf (b : Boundary) (element : ShapeId) (direction : ChanDir) : Nat :=
  (b.keysOf element direction).length / 2

def stateOf (b : Boundary) (element : ShapeId) (direction : ChanDir) (key : ChanKey) :
    BridgeState :=
  match (b.bridgesOf element direction).find? (·.keys.contains key) with
  | none => .absent
  | some bridge => if bridge.worker.mode = .stopped then .terminated else .active

/-- The script channel that goes with a native one, which is made when there is none. -/
def scriptSide (b : Boundary) (element : ShapeId) (direction : ChanDir) (native : Nat) :
    Nat × Boundary :=
  match (b.bridgesOf element direction).find? (·.native = native) with
  | some bridge => (bridge.script, b)
  | none =>
    let (script, b) := b.newScript
    (script, b.addBridge element direction native script)

/-- The native channel that goes with a script channel, which is made when there is none. -/
def nativeSide (b : Boundary) (element : ShapeId) (direction : ChanDir) (script : Nat) :
    Nat × Boundary :=
  match (b.bridgesOf element direction).find? (·.script = script) with
  | some bridge => (bridge.native, b)
  | none =>
    let (native, b) := b.newNative none
    (native, b.addBridge element direction native script)

end Boundary

inductive Stop where
  | failed (error : ConversionError)
  | endless
deriving DecidableEq, Repr

abbrev CrossM (α : Type) := ExceptT Stop (StateM Boundary) α

namespace CrossM

variable {α β : Type}

def fail (e : ConversionError) : CrossM α := fun b => (.error (.failed e), b)

def endless : CrossM α := fun b => (.error .endless, b)

/-- A change of the shared state that has an answer. -/
def update (f : Boundary → α × Boundary) : CrossM α := fun b => (.ok (f b).1, (f b).2)

def freshId : CrossM Nat := update fun b => (b.nextId, { b with nextId := b.nextId + 1 })

def mapError (f : ConversionError → ConversionError) (m : CrossM α) : CrossM α := fun b =>
  match m b with
  | (.error (.failed e), b) => (.error (.failed (f e)), b)
  | other => other

/-- An error tells the field in which it happened. -/
def within (field : String) (m : CrossM α) : CrossM α := m.mapError (.inField field)

/-- Convert one item after the other, starting to count at `position`. -/
def each (convert : α → CrossM β) (position : Nat) : List α → CrossM (List β)
  | [] => return []
  | item :: rest => do
    let converted ← within ("[" ++ toString position ++ "]") (convert item)
    return converted :: (← each convert (position + 1) rest)

end CrossM

/-- A context with one slot replaced is another context. -/
def Context.replaced (c : Context) (name : String) (value : Value) : CrossM Context := do
  return ⟨← CrossM.freshId, Context.replaceSlot name value c.slots⟩

end ScriptBind
