import ScriptBind.Digest.Sha256
import ScriptBind.Shape.Basic
import ScriptBind.Text.Quoted

/-!
# ScriptBind.Binding.Converter

Generated converters. The body of a converter is one expression over its argument: a call that
goes through a slice, map, pointer or struct says how each part is converted, which is in place,
by another converter, or by handing the part to the interpreter of shapes.

* `Part`, `Body`, `Converter` - the parts of a converter.
* `Converter.ofShape` - the converter of a shape.
* `Converter.render` - its text.
-/

namespace ScriptBind

/-- How one value inside another is converted. -/
inductive Part where
  | scalar (scalar : Scalar)
  | call (ident : String)
  | interpret (shape : ShapeId)
deriving DecidableEq, Repr

inductive Body where
  | whole (part : Part)
  | slice (element : Part)
  | array (length : Nat) (element : Part)
  | map (value : Part)
  | pointer (element : Part)
  | record (fields : List (String × Part))
  | boxed
deriving DecidableEq, Repr

structure Converter where
  ident : String
  typeName : String
  direction : Direction
  body : Body
deriving DecidableEq, Repr

namespace Converter

/-- Looks up the converter of a shape in a direction. -/
abbrev Idents := ShapeId → Direction → Option String

def part (shapes : ShapeTable) (idents : Idents) (direction : Direction) (id : ShapeId) : Part :=
  match shapes.get? id with
  | some ⟨_, _, .scalar s⟩ => .scalar s
  | _ =>
    match idents id direction with
    | some ident => .call ident
    | none => .interpret id

def bodyOf (shapes : ShapeTable) (idents : Idents) (direction : Direction) (shape : Shape) : Body :=
  let part := part shapes idents direction
  match shape.kind with
  | .scalar s => .whole (.scalar s)
  | .slice element => .slice (part element)
  | .array length element => .array length (part element)
  | .map value => .map (part value)
  | .pointer element => .pointer (part element)
  | .record fields => .record (fields.map fun f => (f.name, part f.shape))
  | .boxed _ => .boxed
  | .func _ => .whole (.interpret shape.id)
  | .chan _ _ => .whole (.interpret shape.id)
  | .interface _ => .whole (.interpret shape.id)

def ofShape (shapes : ShapeTable) (idents : Idents) (ident : String) (direction : Direction)
    (shape : Shape) : Converter :=
  ⟨ident, shape.name, direction, bodyOf shapes idents direction shape⟩

/-- An error of a struct without a name of its own is explained by the fields of the struct. -/
def explains (c : Converter) : Bool :=
  structAliasStem.toList.isPrefixOf c.typeName.toList

/-! ### Text -/

def scalarText (direction : Direction) (s : Scalar) (var : String) : String :=
  let call := "convert::" ++ s.label ++ "_" ++ direction.stem ++ "(" ++ var
  match direction, s with
  | .fromScript, .int width signedness =>
    call ++ ", " ++ toString width ++ ", Signedness::" ++ signedness.word ++ ")"
  | .fromScript, .float precision =>
    call ++ ", FloatPrecision::" ++ precision.word ++ ")"
  | _, _ => call ++ ")"

def partText (direction : Direction) (part : Part) (var : String) : String :=
  match part with
  | .scalar s => scalarText direction s var
  | .call ident => ident ++ "(rt, " ++ var ++ ")"
  | .interpret shape =>
    "rt." ++ direction.stem ++ "(ShapeId(" ++ toString shape ++ "), " ++ var ++ ")"

/-- The arms that choose a field by its position; the last one is also for all other numbers. -/
def fieldArms (direction : Direction) (position : Nat) : List (String × Part) → String
  | [] => ""
  | [(_, part)] => "\n        _ => " ++ partText direction part "f" ++ ","
  | (_, part) :: rest =>
    "\n        " ++ toString position ++ " => " ++ partText direction part "f" ++ "," ++
      fieldArms direction (position + 1) rest

def fieldChoice (direction : Direction) (fields : List (String × Part)) : String :=
  match fields, direction with
  | [], .toScript => "|_, _| Ok(Value::None)"
  | [], .fromScript => "|_, _| Ok(NativeValue::Struct(Vec::new()))"
  | fields, _ => "|i, f| match i \x7b" ++ fieldArms direction 0 fields ++ "\n    \x7d"

def bodyText (direction : Direction) (typeName : String) (body : Body) : String :=
  let call := fun helper => "convert::" ++ helper ++ "_" ++ direction.stem ++ "(v, " ++
    Text.quoted typeName
  let each := fun part => ", |e| " ++ partText direction part "e" ++ ")"
  match body with
  | .whole part => partText direction part "v"
  | .slice element => call "slice" ++ each element
  | .array length element => call "array" ++ ", " ++ toString length ++ each element
  | .map value => call "map" ++ each value
  | .pointer element => call "pointer" ++ each element
  | .record fields =>
    call "record" ++ ", &[" ++ ", ".intercalate (fields.map fun f => Text.quoted f.1) ++ "], " ++
      fieldChoice direction fields ++ ")"
  | .boxed => call "opaque" ++ ")"

def render (c : Converter) : String :=
  let body := bodyText c.direction c.typeName c.body ++
    (if c.explains then ".map_err(|e| rt.type_names().explain(e))" else "")
  let (comment, signature) :=
    match c.direction with
    | .toScript =>
      ("/// \x60" ++ c.typeName ++ "\x60 to script.\n",
        "(rt: &Runtime, v: &NativeValue) -> Result<Value, ConversionError>")
    | .fromScript =>
      ("/// Script to \x60" ++ c.typeName ++ "\x60.\n",
        "(rt: &Runtime, v: &Value) -> Result<NativeValue, ConversionError>")
  comment ++ "pub fn " ++ c.ident ++ signature ++ " \x7b\n    " ++ body ++ "\n\x7d\n"

end Converter

end ScriptBind
