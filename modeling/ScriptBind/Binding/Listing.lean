import ScriptBind.Binding.Basic
import ScriptBind.Crossing.Error

/-!
# ScriptBind.Binding.Listing

Bindings in writing, for people: a line for each shape, converter, bridge, struct and limitation.
`Bindings.listing` is the text.
-/

namespace ScriptBind

/-- Fill up to a width. -/
def padded (width : Nat) (text : String) : String :=
  String.ofList (text.toList.rightpad width ' ')

def Shape.summary (s : Shape) : String :=
  match s.kind with
  | .record fields =>
    "record \x7b" ++ ", ".intercalate (fields.map fun f => f.name ++ ": " ++ shapeIdText f.shape) ++
      "\x7d"
  | .slice element => "slice of " ++ shapeIdText element
  | .array length element => "array of " ++ toString length ++ " " ++ shapeIdText element
  | .map value => "map to " ++ shapeIdText value
  | .pointer element => "pointer to " ++ shapeIdText element
  | .chan direction element => "chan (" ++ direction.label ++ ") of " ++ shapeIdText element
  | .func f => "func/" ++ toString f.arity ++ " -> " ++ toString f.results.length
  | .interface methods => "interface [" ++ ", ".intercalate (methods.map (·.name)) ++ "]"
  | .boxed reason => "opaque (" ++ reason ++ ")"
  | .scalar s => s.label

namespace Bindings

/-- A heading with the number of lines below it. -/
def sectionText (heading : String) (lines : List String) : String :=
  String.join ((heading ++ " (" ++ toString lines.length ++ "):\n") ::
    lines.map fun line => "  " ++ line ++ "\n")

/-- A section that is left out when it is empty. -/
def optionalText (heading : String) (lines : List String) : String :=
  if lines.isEmpty then "" else sectionText heading lines

def shapeLine (s : Shape) : String :=
  padded 5 (shapeIdText s.id) ++ " " ++ padded 32 s.name ++ " " ++ s.summary

def converterLine (e : ConverterEntry) : String := padded 40 e.ident ++ " " ++ e.direction.text

def bridgeLine (b : BridgeSupport) : String :=
  padded 40 b.ident ++ " " ++ shapeIdText b.element ++ " " ++ b.direction.label

def aliasLine (entry : String × String) : String :=
  entry.1 ++ " = struct \x7b " ++ entry.2 ++ " \x7d"

def listing (b : Bindings) : String :=
  sectionText "Shapes" (b.shapes.shapes.toList.map shapeLine) ++
    sectionText "Converters" (b.converters.map converterLine) ++
    optionalText "Bridges" (b.bridges.map bridgeLine) ++
    optionalText "Struct aliases" (b.aliases.map aliasLine) ++
    optionalText "Limitations" (b.limitations.map Limitation.text)

end Bindings

end ScriptBind
