import ScriptBind.Direction

/-!
# ScriptBind.TypeExpr.Basic

Type expressions as they are written in declarations. Names are not resolved here.

* `TypeExpr` - an expression; `FuncExpr` - what follows the word `func` in one.
* `predeclared` - the names that need no declaration.
-/

namespace ScriptBind

mutual

inductive TypeExpr where
  | name (name : String) (args : List TypeExpr)
  | slice (element : TypeExpr)
  | array (length : Nat) (element : TypeExpr)
  | map (key value : TypeExpr)
  | pointer (element : TypeExpr)
  | func (signature : FuncExpr)
  | chan (direction : ChanDir) (element : TypeExpr)
  | struct (fields : List FieldExpr)
  | interface (methods : List MethodExpr)

/-- A variadic function holds its last parameter `...T` as a slice of `T`. The constraints of type
parameters are not kept. -/
structure FuncExpr where
  typeParams : List String
  params : List ParamExpr
  results : List ParamExpr
  variadic : Bool

structure ParamExpr where
  name : Option String
  type : TypeExpr

structure FieldExpr where
  name : String
  type : TypeExpr

structure MethodExpr where
  name : String
  func : FuncExpr

end

instance : Inhabited TypeExpr := ⟨.struct []⟩

def predeclared : List String :=
  ["bool", "int", "int8", "int16", "int32", "int64", "uint", "uint8", "uint16", "uint32",
   "uint64", "uintptr", "byte", "rune", "float32", "float64", "complex64", "complex128",
   "string", "error", "any", "unsafe.Pointer"]

/-- The words that start a type of their own and so cannot name a parameter. -/
def typeKeywords : List String := ["map", "chan", "func", "struct", "interface"]

end ScriptBind
