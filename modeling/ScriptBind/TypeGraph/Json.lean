import ScriptBind.Json.Decode
import ScriptBind.TypeGraph.Basic

/-!
# ScriptBind.TypeGraph.Json

Type graphs as JSON documents.

* `TypeKind.toJson`, `TypeKind.ofJson?` - a node.
* `TypeGraph.toJson` - a graph.
-/

namespace ScriptBind

open Json (record nat strings orNull)

def FuncSig.toJson (s : FuncSig) : Json :=
  let params := fun (ps : List Param) => Json.array (ps.map fun p =>
    record [("name", orNull .string p.name), ("ty", nat p.type)])
  record [("params", params s.params), ("results", params s.results),
    ("variadic", .bool s.variadic),
    ("receiver", orNull (fun (r : Receiver) =>
      record [("ty", nat r.type), ("type_params", strings r.typeParams)]) s.receiver),
    ("type_params", strings s.typeParams)]

namespace TypeKind

def toJson : TypeKind → Json
  | .bool => .string "Bool"
  | .string => .string "String"
  | .error => .string "Error"
  | .unsafePointer => .string "UnsafePointer"
  | .int width signedness =>
    record [("Int", record [("width", nat width), ("signedness", .string signedness.word)])]
  | .float precision => record [("Float", record [("precision", .string precision.word)])]
  | .complex bits => record [("Complex", record [("bits", nat bits)])]
  | .slice element => record [("Slice", nat element)]
  | .array length element =>
    record [("Array", record [("element", nat element), ("length", nat length)])]
  | .map key value => record [("Map", record [("key", nat key), ("value", nat value)])]
  | .struct fields =>
    record [("Struct", .array (fields.map fun f =>
      record [("name", .string f.name), ("ty", nat f.type)]))]
  | .pointer element => record [("Pointer", nat element)]
  | .func sig => record [("Func", sig.toJson)]
  | .chan direction element =>
    record [("Chan", record [("direction", .string direction.text), ("element", nat element)])]
  | .interface methods =>
    record [("Interface", .array (methods.map fun m =>
      record [("name", .string m.name), ("sig", m.sig.toJson)]))]
  | .named name underlying typeParams =>
    record [("Named", record [("name", .string name), ("underlying", orNull nat underlying),
      ("type_params", strings typeParams)])]
  | .aliasOf name target =>
    record [("Alias", record [("name", .string name), ("target", nat target)])]
  | .typeParam name => record [("TypeParam", .string name)]

def stringField? (key : String) (j : Json) : Option String := do (← j.member? key).string?

def idField? (key : String) (j : Json) : Option TypeId := do (← j.member? key).nat? 32

/-- The texts under a key that may be missing. -/
def textsField? (key : String) (j : Json) : Option (List String) :=
  match j.member? key with
  | some value => value.list? Json.string?
  | none => some []

/-- The value under a key that may be missing or null. -/
def optionField? {α : Type} (key : String) (decode : Json → Option α) (j : Json) :
    Option (Option α) :=
  match j.member? key with
  | none => some none
  | some .null => some none
  | some value => (decode value).map some

def param? (j : Json) : Option Param := do
  return ⟨← optionField? "name" Json.string? j, ← idField? "ty" j⟩

def receiver? (j : Json) : Option Receiver := do
  return ⟨← idField? "ty" j, ← textsField? "type_params" j⟩

def sig? (j : Json) : Option FuncSig := do
  let params ← (← j.member? "params").list? param?
  let results ← (← j.member? "results").list? param?
  let variadic := (← optionField? "variadic" Json.bool? j).getD false
  return ⟨params, results, variadic, ← optionField? "receiver" receiver? j,
    ← textsField? "type_params" j⟩

def graphField? (j : Json) : Option Field := do
  return ⟨← stringField? "name" j, ← idField? "ty" j⟩

def graphMethod? (j : Json) : Option Method := do
  return ⟨← stringField? "name" j, ← sig? (← j.member? "sig")⟩

def taggedKind? (tag : String) (j : Json) : Option TypeKind :=
  match tag with
  | "Int" => do
    return .int (← (← j.member? "width").nat? 8)
      (← Signedness.ofWord? (← stringField? "signedness" j))
  | "Float" => do return .float (← Precision.ofWord? (← stringField? "precision" j))
  | "Complex" => do return .complex (← (← j.member? "bits").nat? 8)
  | "Slice" => do return .slice (← j.nat? 32)
  | "Array" => do return .array (← (← j.member? "length").nat? 64) (← idField? "element" j)
  | "Map" => do return .map (← idField? "key" j) (← idField? "value" j)
  | "Struct" => do return .struct (← j.list? graphField?)
  | "Pointer" => do return .pointer (← j.nat? 32)
  | "Func" => do return .func (← sig? j)
  | "Chan" => do
    return .chan (← ChanDir.ofText? (← stringField? "direction" j)) (← idField? "element" j)
  | "Interface" => do return .interface (← j.list? graphMethod?)
  | "Named" => do
    return .named (← stringField? "name" j) (← optionField? "underlying" (Json.nat? 32) j)
      (← textsField? "type_params" j)
  | "Alias" => do return .aliasOf (← stringField? "name" j) (← idField? "target" j)
  | "TypeParam" => do return .typeParam (← j.string?)
  | _ => none

def ofJson? : Json → Option TypeKind
  | .string "Bool" => some .bool
  | .string "String" => some .string
  | .string "Error" => some .error
  | .string "UnsafePointer" => some .unsafePointer
  | .object [⟨tag, value⟩] => taggedKind? tag value
  | _ => none

end TypeKind

def TypeGraph.toJson (g : TypeGraph) : Json :=
  record [("nodes", .array (g.nodes.toList.map TypeKind.toJson)),
    ("names", record (g.sortedNames.map fun (name, id) => (name, nat id)))]

end ScriptBind
