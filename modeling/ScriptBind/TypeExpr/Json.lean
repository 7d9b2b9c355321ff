import ScriptBind.Json.Basic
import ScriptBind.TypeExpr.Basic

/-!
# ScriptBind.TypeExpr.Json

Type expressions as JSON values: a name with its arguments, or the kind of the type with its parts.

* `TypeExpr.toJson`, `FuncExpr.toJson`.
-/

namespace ScriptBind

open Json (nat orNull record strings)

mutual

def TypeExpr.toJson : TypeExpr → Json
  | .name n args => record [("name", .string n), ("args", .array (argsJson args))]
  | .slice e => record [("slice", e.toJson)]
  | .array n e => record [("array", .array [nat n, e.toJson])]
  | .map k v => record [("map", .array [k.toJson, v.toJson])]
  | .pointer e => record [("ptr", e.toJson)]
  | .func f => record [("func", f.toJson)]
  | .chan d e => record [("chan", .array [.string d.label, e.toJson])]
  | .struct fields => record [("struct", .array (fieldsJson fields))]
  | .interface methods => record [("interface", .array (methodsJson methods))]

def argsJson : List TypeExpr → List Json
  | [] => []
  | e :: rest => e.toJson :: argsJson rest

def fieldsJson : List FieldExpr → List Json
  | [] => []
  | ⟨name, type⟩ :: rest => .array [.string name, type.toJson] :: fieldsJson rest

def methodsJson : List MethodExpr → List Json
  | [] => []
  | ⟨name, func⟩ :: rest => .array [.string name, func.toJson] :: methodsJson rest

def FuncExpr.toJson : FuncExpr → Json
  | ⟨typeParams, params, results, variadic⟩ =>
    record [("type_params", strings typeParams), ("params", .array (paramsJson params)),
      ("results", .array (paramsJson results)), ("variadic", .bool variadic)]

def paramsJson : List ParamExpr → List Json
  | [] => []
  | ⟨name, type⟩ :: rest => .array [orNull .string name, type.toJson] :: paramsJson rest

end

end ScriptBind
