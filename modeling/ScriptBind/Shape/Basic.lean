import ScriptBind.Direction
import ScriptBind.Number.Format

/-!
# ScriptBind.Shape.Basic

A shape is the conversion rule of one type. Shapes refer to each other by position in a table, so
the rule of a recursive type is finite.

* `Scalar` - the types that are converted in place.
* `ShapeKind` - a rule; `Shape` - a rule with the name of its type.
* `ShapeTable` - all shapes of a library.
-/

namespace ScriptBind

abbrev ShapeId := Nat

inductive Scalar where
  | bool
  | int (width : Nat) (signedness : Signedness)
  | float (precision : Precision)
  | string
  /-- Any script value passes as it is. -/
  | any
  /-- The built-in type of errors. -/
  | error
deriving DecidableEq, Repr

def Scalar.label : Scalar → String
  | .bool => "bool"
  | .int _ _ => "int"
  | .float _ => "float"
  | .string => "string"
  | .any => "any"
  | .error => "error"

structure FuncShape where
  params : List ShapeId
  results : List ShapeId
  /-- The last parameter is a slice that collects the remaining arguments. -/
  variadic : Bool
deriving DecidableEq, Repr

def FuncShape.arity (f : FuncShape) : Nat := f.params.length

structure MethodShape where
  name : String
  func : FuncShape
deriving DecidableEq, Repr

structure FieldShape where
  name : String
  shape : ShapeId
deriving DecidableEq, Repr

inductive ShapeKind where
  | scalar (scalar : Scalar)
  | slice (element : ShapeId)
  | array (length : Nat) (element : ShapeId)
  /-- The keys are strings. -/
  | map (value : ShapeId)
  | pointer (element : ShapeId)
  | func (func : FuncShape)
  | chan (direction : ChanDir) (element : ShapeId)
  | interface (methods : List MethodShape)
  /-- A struct, converted field by field. -/
  | record (fields : List FieldShape)
  /-- A value that scripts hold in a box and cannot look into. -/
  | boxed (reason : String)
deriving DecidableEq, Repr

namespace ShapeKind

/-- Whether values are converted in place, without a converter of their own. -/
def isInline : ShapeKind → Bool
  | .scalar _ => true
  | _ => false

def isBoxed : ShapeKind → Bool
  | .boxed _ => true
  | _ => false

def label : ShapeKind → String
  | .scalar s => s.label
  | .slice _ => "slice"
  | .array _ _ => "array"
  | .map _ => "map"
  | .pointer _ => "pointer"
  | .func _ => "func"
  | .chan _ _ => "chan"
  | .interface _ => "interface"
  | .record _ => "record"
  | .boxed _ => "opaque"

end ShapeKind

/-- The stored position is that of the shape in its table, unless the table was read from a text
that says otherwise. -/
structure Shape where
  id : ShapeId
  name : String
  kind : ShapeKind
deriving DecidableEq, Repr

structure ShapeTable where
  shapes : Array Shape
deriving DecidableEq, Repr

namespace ShapeTable

def empty : ShapeTable := ⟨#[]⟩

instance : Inhabited ShapeTable := ⟨empty⟩

def size (t : ShapeTable) : Nat := t.shapes.size

def get? (t : ShapeTable) (id : ShapeId) : Option Shape := t.shapes[id]?

/-- A new shape has its position as its id. -/
def push (t : ShapeTable) (name : String) (kind : ShapeKind) : ShapeTable :=
  ⟨t.shapes.push ⟨t.shapes.size, name, kind⟩⟩

def ofList (shapes : List (String × ShapeKind)) : ShapeTable :=
  shapes.foldl (fun t (name, kind) => t.push name kind) empty

/-- The first shape of this name. -/
def find? (t : ShapeTable) (name : String) : Option Shape := t.shapes.toList.find? (·.name = name)

end ShapeTable

end ScriptBind
