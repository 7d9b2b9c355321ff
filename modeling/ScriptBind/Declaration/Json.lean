import ScriptBind.Declaration.Basic
import ScriptBind.Json.Basic

/-!
# ScriptBind.Declaration.Json

Declarations as JSON documents, with the defaults of all fields filled in.

* `Declaration.toJson` - the document.
-/

namespace ScriptBind

open Json (record strings orNull)

def TypeDecl.toJson (t : TypeDecl) : Json :=
  record [("name", .string t.name), ("type", .string t.type), ("alias", .bool t.isAlias),
    ("type_params", strings t.typeParams), ("request", .bool t.request)]

def FunctionDecl.toJson (f : FunctionDecl) : Json :=
  record [("name", .string f.name), ("signature", .string f.signature),
    ("request", .bool f.request)]

def MethodDecl.toJson (m : MethodDecl) : Json :=
  record [("receiver", .string m.receiver), ("name", .string m.name),
    ("signature", .string m.signature), ("request", .bool m.request)]

def ConvertDecl.toJson (c : ConvertDecl) : Json :=
  record [("type", .string c.type), ("direction", .string c.direction.text)]

def Declaration.toJson (d : Declaration) : Json :=
  record [
    ("package", record [("name", .string d.package.name), ("path", orNull .string d.package.path)]),
    ("types", .array (d.types.map TypeDecl.toJson)),
    ("functions", .array (d.functions.map FunctionDecl.toJson)),
    ("methods", .array (d.methods.map MethodDecl.toJson)),
    ("convert", .array (d.convert.map ConvertDecl.toJson))]

end ScriptBind
