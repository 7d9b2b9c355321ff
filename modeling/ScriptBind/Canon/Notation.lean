import ScriptBind.Canon.Basic

/-!
# ScriptBind.Canon.Notation

Canonical types in writing. Every canonical type but a named one refers only to types that stand
before it in the table, so a type at position `n` is written after at most `n` steps inside each
other.

* `Session.typeString` - a type.
* `Session.fieldListing` - the fields of a struct, from which its name is made.
-/

namespace ScriptBind
namespace Session

/-- What stands before the type in a variadic parameter is dots, and a slice gives its element. -/
def paramStrings (text : CanonId → String) (elementText : CanonId → String) (variadic : Bool) :
    List CanonId → List String
  | [] => []
  | [p] => if variadic then ["..." ++ elementText p] else [text p]
  | p :: rest => text p :: paramStrings text elementText variadic rest

def resultString (text : CanonId → String) : List CanonId → String
  | [] => ""
  | [r] => " " ++ text r
  | rs => " (" ++ ", ".intercalate (rs.map text) ++ ")"

def funcStringWith (text elementText : CanonId → String) (f : CanonFunc) : String :=
  (if f.typeParams.isEmpty then "" else "[" ++ ", ".intercalate f.typeParams ++ "]") ++
    "(" ++ ", ".intercalate (paramStrings text elementText f.variadic f.params) ++ ")" ++
    resultString text f.results

def listingWith (text : CanonId → String) (fields : List (String × CanonId)) : String :=
  String.join (fields.map fun (name, type) => name ++ " " ++ text type ++ ";")

/-- The number bounds the depth of the recursion. -/
def typeStringIn (s : Session) : Nat → CanonId → String
  | 0, _ => ""
  | fuel + 1, id =>
    let text := typeStringIn s fuel
    let elementText := fun id =>
      match s.kind? id with
      | some (.slice element) => text element
      | _ => text id
    match s.kind? id with
    | none => ""
    | some .bool => "bool"
    | some (.int width signedness) => signedness.typeName width
    | some (.float precision) => precision.typeName
    | some (.complex bits) => "complex" ++ toString bits
    | some .unsafePointer => "unsafe.Pointer"
    | some .string => "string"
    | some (.slice element) => "[]" ++ text element
    | some (.array length element) => "[" ++ toString length ++ "]" ++ text element
    | some (.map key value) => "map[" ++ text key ++ "]" ++ text value
    | some (.pointer element) => "*" ++ text element
    | some (.func f) => "func" ++ funcStringWith text elementText f
    | some (.chan direction element) => direction.keyword ++ text element
    | some (.interface methods) =>
      "interface \x7b " ++
        "; ".intercalate (methods.map fun m => m.name ++ funcStringWith text elementText m.func) ++
        " \x7d"
    | some .any => "any"
    | some .error => "error"
    | some (.struct aliasName _) => aliasName
    | some (.named name _) => name
    | some (.typeParam name) => name

def typeString (s : Session) (id : CanonId) : String := s.typeStringIn (id + 1) id

def fieldListing (s : Session) (fields : List (String × CanonId)) : String :=
  listingWith s.typeString fields

end Session
end ScriptBind
