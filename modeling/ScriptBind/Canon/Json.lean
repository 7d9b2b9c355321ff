import ScriptBind.Canon.Basic
import ScriptBind.Json.Basic

/-!
# ScriptBind.Canon.Json

Canonical types as JSON values. `CanonKind.toJson` writes one; the types it is made of are numbers.
-/

namespace ScriptBind

open Json (nat nats orNull record strings)

def CanonFunc.toJson (f : CanonFunc) : Json :=
  record [("params", nats f.params), ("results", nats f.results), ("variadic", .bool f.variadic),
    ("type_params", strings f.typeParams)]

def CanonKind.toJson : CanonKind → Json
  | .bool => .string "bool"
  | .string => .string "string"
  | .any => .string "any"
  | .error => .string "error"
  | .unsafePointer => .string "unsafe-pointer"
  | .int width signedness => record [("int", .array [nat width, .string signedness.word])]
  | .float precision => record [("float", .string precision.word)]
  | .complex bits => record [("complex", nat bits)]
  | .slice e => record [("slice", nat e)]
  | .array n e => record [("array", .array [nat n, nat e])]
  | .map k v => record [("map", .array [nat k, nat v])]
  | .pointer e => record [("ptr", nat e)]
  | .func f => record [("func", f.toJson)]
  | .chan d e => record [("chan", .array [.string d.label, nat e])]
  | .interface methods =>
    record [("interface", .array (methods.map fun m => .array [.string m.name, m.func.toJson]))]
  | .struct aliasName fields =>
    record [("struct", .array [.string aliasName,
      .array (fields.map fun f => .array [.string f.1, nat f.2])])]
  | .named name underlying =>
    record [("named", .array [.string name, orNull nat underlying])]
  | .typeParam name => record [("type-param", .string name)]

end ScriptBind
