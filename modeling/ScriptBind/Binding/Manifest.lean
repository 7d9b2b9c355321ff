import ScriptBind.Binding.Basic
import ScriptBind.Json.Decode
import ScriptBind.Json.Reader
import ScriptBind.Json.Writer

/-!
# ScriptBind.Binding.Manifest

The manifest: bindings as a JSON document, without the texts of the converters.

* `Bindings.toJson`, `Bindings.ofJson?` - the document as a value.
* `Bindings.manifestText`, `Bindings.read?` - the document as a text.
* `Bindings.fingerprint` - a hash of the document.
-/

namespace ScriptBind
namespace Manifest

open Json (record nat nats)

/-! ### Writing -/

def funcMembers (f : FuncShape) : List (String × Json) :=
  [("params", nats f.params), ("results", nats f.results), ("variadic", .bool f.variadic)]

def scalarMembers : Scalar → List (String × Json)
  | .int width signedness =>
    [("width", nat width), ("signedness", .string signedness.word)]
  | .float precision => [("precision", .string precision.word)]
  | _ => []

def kindMembers : ShapeKind → List (String × Json)
  | .scalar s => scalarMembers s
  | .slice element => [("element", nat element)]
  | .array length element => [("element", nat element), ("length", nat length)]
  | .map value => [("value", nat value)]
  | .pointer element => [("element", nat element)]
  | .func f => funcMembers f
  | .chan direction element => [("direction", .string direction.text), ("element", nat element)]
  | .interface methods =>
    [("methods", .array (methods.map fun m =>
      record [("name", .string m.name), ("func", record (funcMembers m.func))]))]
  | .record fields =>
    [("fields", .array (fields.map fun f =>
      record [("name", .string f.name), ("shape", nat f.shape)]))]
  | .boxed reason => [("reason", .string reason)]

def kindJson (kind : ShapeKind) : Json :=
  record (("kind", .string kind.label) :: kindMembers kind)

def shapeJson (s : Shape) : Json :=
  record [("id", nat s.id), ("name", .string s.name), ("kind", kindJson s.kind)]

def tableJson (t : ShapeTable) : Json :=
  record [("shapes", .array (t.shapes.toList.map shapeJson))]

def entryJson (e : ConverterEntry) : Json :=
  record [("id", nat e.id), ("shape", nat e.shape), ("direction", .string e.direction.text),
    ("ident", .string e.ident), ("deps", nats e.deps)]

def bridgeJson (b : BridgeSupport) : Json :=
  record [("ident", .string b.ident), ("element", nat b.element),
    ("direction", .string b.direction.text)]

def limitationJson (l : Limitation) : Json :=
  record [("type_name", .string l.typeName), ("reason", .string l.reason)]

def exportJson (e : Export) : Json :=
  record [("label", .string e.label), ("shape", nat e.shape),
    ("direction", .string e.direction.text), ("converter", nat e.converter)]

/-! ### Reading -/

/-- Positions of shapes and converters have 32 bits. -/
def id? : Json → Option Nat := Json.nat? 32

def ids? : Json → Option (List Nat) := Json.list? id?

def signedness? (j : Json) : Option Signedness := do
  Signedness.ofWord? (← j.word? Json.isNullOrEmpty)

def precision? (j : Json) : Option Precision := do
  Precision.ofWord? (← j.word? Json.isNullOrEmpty)

def direction? (j : Json) : Option Direction := do
  Direction.ofText? (← j.word? Json.isNull)

def chanDir? (nothing : Json → Bool) (j : Json) : Option ChanDir := do
  ChanDir.ofText? (← j.word? nothing)

def func? (j : Json) : Option FuncShape :=
  match j.fields? ["params", "results", "variadic"] with
  | some [params, results, variadic] => do
    return ⟨← ids? params, ← ids? results, ← variadic.bool?⟩
  | _ => none

def method? (j : Json) : Option MethodShape :=
  match j.fields? ["name", "func"] with
  | some [name, func] => do return ⟨← name.string?, ← func? func⟩
  | _ => none

def field? (j : Json) : Option FieldShape :=
  match j.fields? ["name", "shape"] with
  | some [name, shape] => do return ⟨← name.string?, ← id? shape⟩
  | _ => none

/-- The word that tells the kind, and everything beside it. -/
def tagged? : Json → Option (String × Json)
  | .object members =>
    match Json.once? "kind" members with
    | some (.string tag) => some (tag, .object (members.filter (·.key ≠ "kind")))
    | _ => none
  | .array (.string tag :: rest) => some (tag, .array rest)
  | _ => none

/-- A kind without fields of its own. -/
def plain? (kind : ShapeKind) : Json → Option ShapeKind
  | .array (_ :: _) => none
  | _ => some kind

def one? (name : String) (j : Json) : Option Json :=
  match j.fields? [name] with
  | some [value] => some value
  | _ => none

def two? (first second : String) (j : Json) : Option (Json × Json) :=
  match j.fields? [first, second] with
  | some [a, b] => some (a, b)
  | _ => none

def kindBody? (tag : String) (j : Json) : Option ShapeKind :=
  match tag with
  | "bool" => plain? (.scalar .bool) j
  | "string" => plain? (.scalar .string) j
  | "any" => plain? (.scalar .any) j
  | "error" => plain? (.scalar .error) j
  | "int" => do
    let (width, signedness) ← two? "width" "signedness" j
    return .scalar (.int (← width.nat? 8) (← signedness? signedness))
  | "float" => do return .scalar (.float (← precision? (← one? "precision" j)))
  | "slice" => do return .slice (← id? (← one? "element" j))
  | "array" => do
    let (element, length) ← two? "element" "length" j
    let element ← id? element
    return .array (← length.nat? 64) element
  | "map" => do return .map (← id? (← one? "value" j))
  | "pointer" => do return .pointer (← id? (← one? "element" j))
  | "func" => do return .func (← func? j)
  | "chan" => do
    let (direction, element) ← two? "direction" "element" j
    return .chan (← chanDir? Json.isNullOrEmpty direction) (← id? element)
  | "interface" => do return .interface (← (← one? "methods" j).list? method?)
  | "record" => do return .record (← (← one? "fields" j).list? field?)
  | "opaque" => do return .boxed (← (← one? "reason" j).string?)
  | _ => none

/-- What brackets may nest inside a kind, the brackets of the kind included. -/
def kindDepth : Nat := 123

def kind? (j : Json) : Option ShapeKind :=
  if j.depth ≤ kindDepth && j.isDecodable then
    match tagged? j with
    | some (tag, rest) => kindBody? tag rest
    | none => none
  else none

def shape? (j : Json) : Option Shape :=
  match j.fields? ["id", "name", "kind"] with
  | some [id, name, kind] => do return ⟨← id? id, ← name.string?, ← kind? kind⟩
  | _ => none

def table? (j : Json) : Option ShapeTable := do
  return ⟨(← (← one? "shapes" j).list? shape?).toArray⟩

def entry? (j : Json) : Option ConverterEntry :=
  match j.fields? ["id", "shape", "direction", "ident", "deps"] with
  | some [id, shape, direction, ident, deps] => do
    return ⟨← id? id, ← id? shape, ← direction? direction, ← ident.string?, none, ← ids? deps⟩
  | _ => none

def bridge? (j : Json) : Option BridgeSupport :=
  match j.fields? ["ident", "element", "direction"] with
  | some [ident, element, direction] => do
    return ⟨← ident.string?, ← id? element, ← chanDir? Json.isNull direction⟩
  | _ => none

def limitation? (j : Json) : Option Limitation :=
  match j.fields? ["type_name", "reason"] with
  | some [typeName, reason] => do return ⟨← typeName.string?, ← reason.string?⟩
  | _ => none

def export? (j : Json) : Option Export :=
  match j.fields? ["label", "shape", "direction", "converter"] with
  | some [label, shape, direction, converter] => do
    return ⟨← label.string?, ← id? shape, ← direction? direction, ← id? converter⟩
  | _ => none

end Manifest

open Manifest

namespace Bindings

open Json (record)

def toJson (b : Bindings) : Json :=
  record [("shapes", tableJson b.shapes), ("converters", .array (b.converters.map entryJson)),
    ("bridges", .array (b.bridges.map bridgeJson)),
    ("aliases", record (b.aliases.map fun (name, listing) => (name, .string listing))),
    ("limitations", .array (b.limitations.map limitationJson)),
    ("exports", .array (b.exports.map exportJson))]

def ofJson? (j : Json) : Option Bindings :=
  match j.fields? ["shapes", "converters", "bridges", "aliases", "limitations", "exports"] with
  | some [shapes, converters, bridges, aliases, limitations, exports] => do
    return ⟨← table? shapes, ← converters.list? entry?, ← bridges.list? bridge?,
      ← aliases.textMap?, ← limitations.list? limitation?, ← exports.list? Manifest.export?⟩
  | _ => none

def manifestText (b : Bindings) : String := b.toJson.pretty

def read? (text : String) : Option Bindings := do ofJson? (← Json.read? text)

def fingerprint (b : Bindings) : String := ScriptBind.fingerprint b.toJson.compact

end Bindings

end ScriptBind
