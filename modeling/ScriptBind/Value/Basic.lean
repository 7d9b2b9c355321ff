import ScriptBind.Number.Double
import ScriptBind.Shape.Basic
import ScriptBind.Text.Quoted

/-!
# ScriptBind.Value.Basic

Values on both sides: what a script holds and what native code holds. Either side can hold values
of the other as they are, so the two types are defined together. Functions, contexts, handles,
objects and channels have an identity, which is a number.

* `Value` - a value of a script.
* `NativeValue` - a value of native code.
* `Value.describe`, `NativeValue.kindName` - how error messages call them.
-/

namespace ScriptBind

/-- A function written in a script. Only the interpreter of the script knows what it does. -/
structure ScriptFn where
  id : Nat
  name : String
  arity : Nat
deriving DecidableEq, Repr

inductive NativeCode where
  /-- Only the native library knows what it does. -/
  | library
  /-- It calls a function of a script and converts its arguments and results. -/
  | wrapper (signature : FuncShape) (target : ScriptFn)
deriving DecidableEq, Repr

structure NativeFunc where
  id : Nat
  name : String
  code : NativeCode
deriving DecidableEq, Repr

namespace NativeFunc

/-- The function of a script that is called in the end. -/
def origin (f : NativeFunc) : Option ScriptFn :=
  match f.code with
  | .library => none
  | .wrapper _ target => some target

end NativeFunc

/-- A native function as a script sees it. -/
structure Builtin where
  name : String
  func : NativeFunc
  signature : FuncShape
deriving DecidableEq, Repr

def Builtin.arity (b : Builtin) : Nat := b.signature.arity

mutual

inductive Value where
  | none
  | bool (value : Bool)
  | int (value : Int64)
  | float (value : Double)
  | string (value : String)
  | list (items : List Value)
  /-- In the order of the keys, each of which stands once. -/
  | dict (entries : List Slot)
  | record (typeName : String) (fields : List Slot)
  | function (function : ScriptFn)
  | builtin (builtin : Builtin)
  | context (context : Context)
  | channel (id : Nat)
  /-- A native value that crossed without conversion. -/
  | native (handle : Handle)
  | error (message : String)

structure Slot where
  name : String
  value : Value

/-- An object of a script. -/
structure Context where
  id : Nat
  slots : List Slot

structure Handle where
  id : Nat
  typeName : String
  value : NativeValue

inductive NativeValue where
  | bool (value : Bool)
  | int (value : Int64)
  | uint (value : UInt64)
  | float (value : Double)
  | string (value : String)
  | slice (items : List NativeValue)
  | array (items : List NativeValue)
  /-- In the order of the keys, each of which stands once. -/
  | map (entries : List Entry)
  /-- The values of the fields, in the order of the fields. -/
  | struct (values : List NativeValue)
  | pointer (target : Option NativeValue)
  | func (function : Option NativeFunc)
  | chan (id : Option Nat)
  | interface (object : Option Object)
  | error (message : Option String)
  /-- A value of a script in a place that takes any value. -/
  | dynamic (value : Value)
  /-- A value that scripts cannot look into. -/
  | boxed (handle : Handle)

structure Entry where
  key : String
  value : NativeValue

/-- What implements an interface. -/
inductive Object where
  | library (id : Nat) (typeName : String)
  /-- The methods call functions of the context. They stand in the order of their names. -/
  | synthesized (id : Nat) (interface : String) (context : Context)
      (methods : List (String × NativeFunc))

end

instance : Inhabited Value := ⟨.none⟩
instance : Inhabited NativeValue := ⟨.bool false⟩

/-! ### Parts -/

/-- The first slot of a name. -/
def slot? (name : String) : List Slot → Option Value
  | [] => none
  | ⟨n, v⟩ :: rest => if n = name then some v else slot? name rest

namespace Context

def get? (c : Context) (name : String) : Option Value := slot? name c.slots

def replaceSlot (name : String) (value : Value) : List Slot → List Slot
  | [] => [⟨name, value⟩]
  | ⟨n, v⟩ :: rest => if n = name then ⟨n, value⟩ :: rest else ⟨n, v⟩ :: replaceSlot name value rest

end Context

namespace Object

def id : Object → Nat
  | .library id _ => id
  | .synthesized id _ _ _ => id

def typeName : Object → String
  | .library _ typeName => typeName
  | .synthesized _ interface _ _ => interface

/-- What the object was made from in the script. Objects of the library give the answer that objects
give by default, which is nothing. -/
def scriptValue? : Object → Option Value
  | .library _ _ => none
  | .synthesized _ _ context _ => some (.context context)

end Object

namespace Slot

/-- A later value takes the place of an earlier one. -/
def insert (name : String) (value : Value) : List Slot → List Slot
  | [] => [⟨name, value⟩]
  | ⟨n, v⟩ :: rest =>
    if name < n then ⟨name, value⟩ :: ⟨n, v⟩ :: rest
    else if name = n then ⟨name, value⟩ :: rest
    else ⟨n, v⟩ :: insert name value rest

end Slot

namespace Entry

/-- A later value takes the place of an earlier one. -/
def insert (key : String) (value : NativeValue) : List Entry → List Entry
  | [] => [⟨key, value⟩]
  | ⟨k, v⟩ :: rest =>
    if key < k then ⟨key, value⟩ :: ⟨k, v⟩ :: rest
    else if key = k then ⟨key, value⟩ :: rest
    else ⟨k, v⟩ :: insert key value rest

end Entry

/-! ### Names -/

namespace Value

def typeName : Value → String
  | .none => "none"
  | .bool _ => "bool"
  | .int _ => "int"
  | .float _ => "float"
  | .string _ => "string"
  | .list _ => "list"
  | .dict _ => "dict"
  | .record _ _ => "record"
  | .function _ => "function"
  | .builtin _ => "builtin"
  | .context _ => "context"
  | .channel _ => "channel"
  | .native _ => "native"
  | .error _ => "error"

def describe : Value → String
  | .record typeName _ => "record " ++ typeName
  | .native h => "native " ++ h.typeName
  | .function f => "function " ++ f.name ++ "/" ++ toString f.arity
  | other => other.typeName

def isNone : Value → Bool
  | .none => true
  | _ => false

end Value

namespace NativeValue

def kindName : NativeValue → String
  | .bool _ => "bool"
  | .int _ => "int"
  | .uint _ => "uint"
  | .float _ => "float"
  | .string _ => "string"
  | .slice _ => "slice"
  | .array _ => "array"
  | .map _ => "map"
  | .struct _ => "struct"
  | .pointer _ => "pointer"
  | .func _ => "func"
  | .chan _ => "chan"
  | .interface _ => "interface"
  | .error _ => "error"
  | .dynamic _ => "dynamic"
  | .boxed _ => "boxed"

def isNil : NativeValue → Bool
  | .pointer none => true
  | .func none => true
  | .chan none => true
  | .interface none => true
  | .error none => true
  | _ => false

end NativeValue

/-! ### Notation for messages -/

namespace ScriptFn

def text (f : ScriptFn) : String := "ScriptFunction(" ++ f.name ++ "/" ++ toString f.arity ++ ")"

end ScriptFn

namespace NativeFunc

def text (f : NativeFunc) : String :=
  match f.origin with
  | some origin => "NativeFunc(" ++ f.name ++ " wrapping " ++ origin.text ++ ")"
  | none => "NativeFunc(" ++ f.name ++ ")"

end NativeFunc

namespace Object

def methodNames : Object → List String
  | .library _ _ => []
  | .synthesized _ _ _ methods => methods.map (·.1)

def text (o : Object) : String :=
  "SynthesizedObject \x7b interface: " ++ Text.quoted o.typeName ++ ", methods: [" ++
    ", ".intercalate (o.methodNames.map Text.quoted) ++ "] \x7d"

end Object

namespace Builtin

def text (b : Builtin) : String := "Builtin(" ++ b.name ++ "/" ++ toString b.arity ++ ")"

end Builtin

end ScriptBind
