import ScriptBind.Toml.Basic

/-!
# ScriptBind.Toml.Decode

Decoding TOML into records. A record is a table with the keys of its fields; keys of other names
are ignored. It may also be an array of the fields in their order, and a date is a table without any
of the keys.

* `Toml.fieldsOf` - the values of the fields of a record.
* `Toml.required`, `Toml.optional`, `Toml.withDefault` - what a missing field means.
-/

namespace ScriptBind
namespace Toml

/-- The values of the fields with these names. -/
def fieldsOf (names : List String) : Toml → Option (List (Option Toml))
  | .table entries => some (names.map fun name => Toml.find? name entries)
  | .array items => some (aligned names items)
  | .date => some (names.map fun _ => none)
  | _ => none
where
  aligned : List String → List Toml → List (Option Toml)
    | [], _ => []
    | _ :: names, [] => none :: aligned names []
    | _ :: names, item :: items => some item :: aligned names items

def stringOf : Toml → Option String
  | .string s => some s
  | _ => none

def boolOf : Toml → Option Bool
  | .bool b => some b
  | _ => none

def listOf {α : Type} (item : Toml → Option α) : Toml → Option (List α)
  | .array items => items.mapM item
  | _ => none

def required {α : Type} (decode : Toml → Option α) : Option Toml → Option α
  | some value => decode value
  | none => none

def withDefault {α : Type} (default : α) (decode : Toml → Option α) : Option Toml → Option α
  | some value => decode value
  | none => some default

def optional {α : Type} (decode : Toml → Option α) : Option Toml → Option (Option α)
  | some value => (decode value).map some
  | none => some none

end Toml
end ScriptBind
