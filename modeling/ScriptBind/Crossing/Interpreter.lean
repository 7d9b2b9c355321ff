import ScriptBind.Crossing.Channel
import ScriptBind.Crossing.Func
import ScriptBind.Crossing.TypeNames
import ScriptBind.Value.Measure

/-!
# ScriptBind.Crossing.Interpreter

Conversion by shape: the rule of a value is looked up in a table of shapes, and so are the rules
of its parts.

* `convertTo`, `convertFrom` - conversions, with a bound on the number of nested rules.
* `zeroOf?` - the value that native code has where nothing was assigned.
* `Library` - a table of shapes with the names of its structs.
* `Library.toScript`, `Library.fromScript`, `Library.zeroValue?` - the same without a bound, and
  with errors that are explained.
-/

namespace ScriptBind

open CrossM (fail endless)

/-- One rule, given how to convert the parts. -/
def Shape.toScript (shape : Shape) (convert : ShapeId → ToScript) : ToScript :=
  match shape.kind with
  | .scalar s => s.toScript
  | .slice element => sliceToScript shape.name (convert element)
  | .array length element => arrayToScript shape.name length (convert element)
  | .map value => mapToScript shape.name (convert value)
  | .pointer element => pointerToScript shape.name (convert element)
  | .record fields => recordToScript shape.name (fields.map fun f => (f.name, convert f.shape))
  | .func signature => funcToScript shape.name signature
  | .chan direction element => chanToScript shape.name element direction
  | .interface _ => interfaceToScript shape.name
  | .boxed _ => boxedToScript shape.name

def Shape.fromScript (shape : Shape) (convert : ShapeId → FromScript) : FromScript :=
  match shape.kind with
  | .scalar s => s.fromScript
  | .slice element => sliceFromScript shape.name (convert element)
  | .array length element => arrayFromScript shape.name length (convert element)
  | .map value => mapFromScript shape.name (convert value)
  | .pointer element => pointerFromScript shape.name (convert element)
  | .record fields => recordFromScript shape.name (fields.map fun f => (f.name, convert f.shape))
  | .func signature => funcFromScript shape.name signature
  | .chan direction element => chanFromScript shape.name element direction
  | .interface methods => interfaceFromScript shape.name methods
  | .boxed _ => boxedFromScript shape.name

def convertTo (shapes : ShapeTable) : Nat → ShapeId → ToScript
  | 0, _, _ => endless
  | bound + 1, id, v =>
    match shapes.get? id with
    | none => fail (.unknownShape id)
    | some shape => shape.toScript (convertTo shapes bound) v

def convertFrom (shapes : ShapeTable) : Nat → ShapeId → FromScript
  | 0, _, _ => endless
  | bound + 1, id, v =>
    match shapes.get? id with
    | none => fail (.unknownShape id)
    | some shape => shape.fromScript (convertFrom shapes bound) v

/-- Missing when more than `bound` rules nest. -/
def zeroOf? (shapes : ShapeTable) : Nat → ShapeId → Option NativeValue
  | 0, _ => none
  | bound + 1, id =>
    match shapes.get? id with
    | none => some (.dynamic .none)
    | some shape =>
      match shape.kind with
      | .scalar .bool => some (.bool false)
      | .scalar (.int _ .signed) => some (.int 0)
      | .scalar (.int _ .unsigned) => some (.uint 0)
      | .scalar (.float _) => some (.float .zero)
      | .scalar .string => some (.string "")
      | .scalar .any => some (.dynamic .none)
      | .scalar .error => some (.error none)
      | .slice _ => some (.slice [])
      | .array length element =>
        if length = 0 then some (.array [])
        else (zeroOf? shapes bound element).map fun v => .array (List.replicate length v)
      | .map _ => some (.map [])
      | .pointer _ => some (.pointer none)
      | .record fields => (fields.mapM fun f => zeroOf? shapes bound f.shape).map .struct
      | .func _ => some (.func none)
      | .chan _ _ => some (.chan none)
      | .interface _ => some (.interface none)
      | .boxed _ => some (.dynamic .none)

structure Library where
  shapes : ShapeTable
  names : TypeNames
deriving DecidableEq, Repr

namespace Library

def text (lib : Library) : String :=
  "Runtime \x7b shapes: " ++ toString lib.shapes.size ++ ", aliases: " ++ toString lib.names.size ++
    " \x7d"

instance : Inhabited Library := ⟨⟨default, default⟩⟩

/-- Each rule descends into the value. -/
def toScript (lib : Library) (id : ShapeId) (v : NativeValue) : CrossM Value :=
  (convertTo lib.shapes (v.depth + 1) id v).mapError lib.names.explain

/-- Only the rule of a pointer stays at the same value, and of rules that stay at the same value
no more than there are shapes can follow each other without a repetition. -/
def fromScript (lib : Library) (id : ShapeId) (v : Value) : CrossM NativeValue :=
  (convertFrom lib.shapes ((v.depth + 1) * (lib.shapes.size + 1) + 1) id v).mapError
    lib.names.explain

/-- Missing when the zero value would contain itself. -/
def zeroValue? (lib : Library) (id : ShapeId) : Option NativeValue :=
  zeroOf? lib.shapes (lib.shapes.size + 1) id

end Library

end ScriptBind
