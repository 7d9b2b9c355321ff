import ScriptBind.Json.Basic
import ScriptBind.Text.Hex
import ScriptBind.Value.Basic

/-!
# ScriptBind.Value.Json

Values as JSON values. Identities are replaced by labels, which are numbered by class in the order
in which they first come up.

* `Labels` - the identities that have come up.
* `Value.toJson`, `NativeValue.toJson`.
-/

namespace ScriptBind

open Json (nat orNull record)

inductive IdClass where
  | scriptFn
  | context
  | handle
  | nativeFunc
  | object
  | scriptChan
  | nativeChan
deriving DecidableEq, Repr

def IdClass.stem : IdClass → String
  | .scriptFn => "sf"
  | .context => "ctx"
  | .handle => "h"
  | .nativeFunc => "nf"
  | .object => "obj"
  | .scriptChan => "sc"
  | .nativeChan => "nc"

/-- In the order in which they came up. -/
structure Labels where
  seen : List (IdClass × Nat)
deriving DecidableEq, Repr

namespace Labels

def empty : Labels := ⟨[]⟩

def idsOf (labels : Labels) (kind : IdClass) : List Nat :=
  labels.seen.filterMap fun (k, id) => if k = kind then some id else none

def add (labels : Labels) (kind : IdClass) (id : Nat) : Labels :=
  if (kind, id) ∈ labels.seen then labels else ⟨labels.seen ++ [(kind, id)]⟩

end Labels

abbrev LabelM (α : Type) := StateM Labels α

/-- The label of an identity, with the next number if it is new. -/
def labelJson (kind : IdClass) (id : Nat) : LabelM Json := fun labels =>
  (.string (kind.stem ++ toString ((labels.idsOf kind).idxOf id)), labels.add kind id)

/-- All NaNs are alike; any other number is given by its bits. -/
def Double.toJson (x : Double) : Json :=
  let digits := (Text.hex x.bits.toNat).toList
  let text := if x.isNaN then "nan" else String.ofList (digits.leftpad 16 '0')
  record [("f", .string text)]

def ScriptFn.toJson (f : ScriptFn) : LabelM Json := do
  return .array [.string f.name, nat f.arity, ← labelJson .scriptFn f.id]

def NativeFunc.toJson (f : NativeFunc) : LabelM Json := do
  let id ← labelJson .nativeFunc f.id
  match f.origin with
  | some origin => return .array [.string f.name, id, ← origin.toJson]
  | none => return .array [.string f.name, id, .null]

def Builtin.toJson (b : Builtin) : LabelM Json := do
  return .array [.string b.name, nat b.arity, ← b.func.toJson]

mutual

def Value.toJson : Value → LabelM Json
  | .none => return .null
  | .bool b => return .bool b
  | .int n => return .int n.toInt
  | .float x => return x.toJson
  | .string s => return .string s
  | .list items => return .array (← valuesJson items)
  | .dict entries => return record [("dict", .array (← slotsJson entries))]
  | .record typeName fields =>
    return record [("record", .array [.string typeName, .array (← slotsJson fields)])]
  | .function f => return record [("fn", ← f.toJson)]
  | .builtin b => return record [("builtin", ← b.toJson)]
  | .context c => return record [("context", ← c.toJson)]
  | .channel id => return record [("channel", ← labelJson .scriptChan id)]
  | .native h => return record [("native", ← h.toJson)]
  | .error message => return record [("err", .string message)]

def valuesJson : List Value → LabelM (List Json)
  | [] => return []
  | v :: rest => return (← v.toJson) :: (← valuesJson rest)

def slotsJson : List Slot → LabelM (List Json)
  | [] => return []
  | ⟨name, v⟩ :: rest => return .array [.string name, ← v.toJson] :: (← slotsJson rest)

def Context.toJson : Context → LabelM Json
  | ⟨id, slots⟩ => return .array [← labelJson .context id, .array (← slotsJson slots)]

def Handle.toJson : Handle → LabelM Json
  | ⟨id, typeName, v⟩ => return .array [.string typeName, ← labelJson .handle id, ← v.toJson]

def NativeValue.toJson : NativeValue → LabelM Json
  | .bool b => return record [("bool", .bool b)]
  | .int n => return record [("int", .int n.toInt)]
  | .uint n => return record [("uint", nat n.toNat)]
  | .float x => return x.toJson
  | .string s => return record [("string", .string s)]
  | .slice items => return record [("slice", .array (← nativesJson items))]
  | .array items => return record [("array", .array (← nativesJson items))]
  | .map entries => return record [("map", .array (← entriesJson entries))]
  | .struct values => return record [("struct", .array (← nativesJson values))]
  | .pointer none => return record [("pointer", .null)]
  | .pointer (some target) => return record [("pointer", ← target.toJson)]
  | .func none => return record [("func", .null)]
  | .func (some f) => return record [("func", ← f.toJson)]
  | .chan none => return record [("chan", .null)]
  | .chan (some id) => return record [("chan", ← labelJson .nativeChan id)]
  | .interface none => return record [("iface", .null)]
  | .interface (some object) => return record [("iface", ← object.toJson)]
  | .error message => return record [("error", orNull .string message)]
  | .dynamic v => return record [("dynamic", ← v.toJson)]
  | .boxed h => return record [("boxed", ← h.toJson)]

def nativesJson : List NativeValue → LabelM (List Json)
  | [] => return []
  | v :: rest => return (← v.toJson) :: (← nativesJson rest)

def entriesJson : List Entry → LabelM (List Json)
  | [] => return []
  | ⟨key, v⟩ :: rest => return .array [.string key, ← v.toJson] :: (← entriesJson rest)

def Object.toJson : Object → LabelM Json
  | .library id typeName =>
    return .array [.string typeName, ← labelJson .object id, .null]
  | .synthesized id interface context _ => do
    let id ← labelJson .object id
    return .array [.string interface, id, record [("context", ← context.toJson)]]

end

end ScriptBind
