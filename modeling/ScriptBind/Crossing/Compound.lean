import ScriptBind.Crossing.Scalar

/-!
# ScriptBind.Crossing.Compound

How values with parts cross. Each function is told how to convert the parts, and an error in a
part tells where the part is.

* `sliceToScript`, `arrayToScript`, `mapToScript`, `pointerToScript`, `recordToScript`.
* `sliceFromScript` and so on - the other way. A handle of the type itself gives what it holds.
* `boxedToScript`, `boxedFromScript` - values that scripts cannot look into.
-/

namespace ScriptBind

open CrossM (each within fail)

/-- Conversions of the parts of a value, in each direction. -/
abbrev ToScript := NativeValue → CrossM Value
abbrev FromScript := Value → CrossM NativeValue

/-- What a handle of this type holds. -/
def passThrough? (typeName : String) : Value → Option NativeValue
  | .native h => if h.typeName = typeName then some h.value else none
  | _ => none

def passOr (typeName : String) (convert : FromScript) (v : Value) : CrossM NativeValue :=
  match passThrough? typeName v with
  | some native => return native
  | none => convert v

/-! ### Slices and arrays -/

def sliceToScript (typeName : String) (element : ToScript) : ToScript
  | .slice items => return .list (← each element 0 items)
  | v => fail (nativeMismatch typeName v)

def sliceFromScript (typeName : String) (element : FromScript) : FromScript :=
  passOr typeName fun
    | .list items => return .slice (← each element 0 items)
    | .none => return .slice []
    | v => fail (scriptMismatch typeName v)

def arrayToScript (typeName : String) (length : Nat) (element : ToScript) : ToScript
  | .array items =>
    if items.length = length then return .list (← each element 0 items)
    else fail (.lengthMismatch typeName length items.length)
  | v => fail (nativeMismatch typeName v)

def arrayFromScript (typeName : String) (length : Nat) (element : FromScript) : FromScript :=
  passOr typeName fun
    | .list items =>
      if items.length = length then return .array (← each element 0 items)
      else fail (.lengthMismatch typeName length items.length)
    | v => fail (scriptMismatch typeName v)

/-! ### Maps -/

def entriesToScript (value : ToScript) : List Entry → CrossM (List Slot)
  | [] => return []
  | ⟨key, v⟩ :: rest => do
    let converted ← within key (value v)
    return ⟨key, converted⟩ :: (← entriesToScript value rest)

def entriesFromScript (value : FromScript) : List Slot → CrossM (List Entry)
  | [] => return []
  | ⟨key, v⟩ :: rest => do
    let converted ← within key (value v)
    return ⟨key, converted⟩ :: (← entriesFromScript value rest)

def mapToScript (typeName : String) (value : ToScript) : ToScript
  | .map entries => return .dict (← entriesToScript value entries)
  | v => fail (nativeMismatch typeName v)

def mapFromScript (typeName : String) (value : FromScript) : FromScript :=
  passOr typeName fun
    | .dict entries => return .map (← entriesFromScript value entries)
    | .none => return .map []
    | v => fail (scriptMismatch typeName v)

/-! ### Pointers -/

/-- What a pointer points to crosses in its place. -/
def pointerToScript (typeName : String) (element : ToScript) : ToScript
  | .pointer none => return .none
  | .pointer (some target) => element target
  | v => fail (nativeMismatch typeName v)

/-- Zero is a nil pointer, and no other integer is a pointer. -/
def pointerFromScript (typeName : String) (element : FromScript) : FromScript :=
  passOr typeName fun
    | .none => return .pointer none
    | .int n =>
      if n = 0 then return .pointer none else fail (.invalidNil typeName n)
    | v => return .pointer (some (← element v))

/-! ### Structs -/

def fieldsToScript : List (String × ToScript) → List NativeValue → CrossM (List Slot)
  | (name, convert) :: fields, v :: values => do
    let converted ← within name (convert v)
    return ⟨name, converted⟩ :: (← fieldsToScript fields values)
  | _, _ => return []

def recordToScript (typeName : String) (fields : List (String × ToScript)) : ToScript
  | .struct values =>
    if values.length = fields.length then
      return .record typeName (← fieldsToScript fields values)
    else fail (.lengthMismatch typeName fields.length values.length)
  | v => fail (nativeMismatch typeName v)

def fieldsFromScript (typeName : String) (slots : List Slot) :
    List (String × FromScript) → CrossM (List NativeValue)
  | [] => return []
  | (name, convert) :: fields =>
    match slot? name slots with
    | none => fail (.missingField typeName name)
    | some v => do
      let converted ← within name (convert v)
      return converted :: (← fieldsFromScript typeName slots fields)

/-- A dict will do for a record. Fields that the struct does not have are ignored. -/
def recordFromScript (typeName : String) (fields : List (String × FromScript)) : FromScript :=
  passOr typeName fun
    | .record _ slots => return .struct (← fieldsFromScript typeName slots fields)
    | .dict slots => return .struct (← fieldsFromScript typeName slots fields)
    | v => fail (scriptMismatch typeName v)

/-! ### Boxed values -/

def boxedToScript (typeName : String) : ToScript
  | .boxed h => return .native h
  | v => newHandle typeName v

def boxedFromScript (typeName : String) : FromScript
  | .native h =>
    if h.typeName = typeName then return .boxed h
    else fail (scriptMismatch typeName (.native h))
  | v => fail (scriptMismatch typeName v)

end ScriptBind
