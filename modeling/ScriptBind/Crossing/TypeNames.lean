import ScriptBind.Crossing.Error
import ScriptBind.Text.Split

/-!
# ScriptBind.Crossing.TypeNames

Structs without a name of their own go by an alias. To be of use in an error message, an alias is
written together with the fields of its struct.

* `TypeNames` - aliases with the listings of their fields.
* `TypeNames.describe` - a type name as it is written for people.
* `TypeNames.explain` - an error with all its type names written like that.
-/

namespace ScriptBind

/-- Each alias stands once, in the order of registration. -/
structure TypeNames where
  listings : List (String × String)
deriving DecidableEq, Repr

namespace TypeNames

def empty : TypeNames := ⟨[]⟩

instance : Inhabited TypeNames := ⟨empty⟩

def size (names : TypeNames) : Nat := names.listings.length

def listing? (names : TypeNames) (name : String) : Option String := names.listings.lookup name

/-- The first listing of an alias stays. -/
def register (names : TypeNames) (name listing : String) : TypeNames :=
  match names.listing? name with
  | some _ => names
  | none => ⟨names.listings ++ [(name, listing)]⟩

def ofList (aliases : List (String × String)) : TypeNames :=
  aliases.foldl (fun names (name, listing) => names.register name listing) empty

/-- The fields of a listing, which ends each of them with a semicolon. -/
def listedFields (listing : String) : List String :=
  ((Text.splitOn ';' listing.toList).map Text.trim).filterMap fun field =>
    if field.isEmpty then none else some (String.ofList field)

def describe (names : TypeNames) (name : String) : String :=
  match names.listing? name with
  | some listing => name ++ " \x7b" ++ "; ".intercalate (listedFields listing) ++ "\x7d"
  | none => name

def explain (names : TypeNames) : ConversionError → ConversionError
  | .typeMismatch expected actual => .typeMismatch (names.describe expected) actual
  | .lengthMismatch typeName expected actual =>
    .lengthMismatch (names.describe typeName) expected actual
  | .invalidNil typeName value => .invalidNil (names.describe typeName) value
  | .missingField typeName field => .missingField (names.describe typeName) field
  | .inField field cause => .inField field (names.explain cause)
  | .argument callee position cause => .argument callee position (names.explain cause)
  | other => other

theorem describe_empty (name : String) : empty.describe name = name := rfl

/-- Without aliases there is nothing to explain. -/
theorem explain_empty (e : ConversionError) : empty.explain e = e := by
  induction e <;> simp_all [explain, describe_empty]

end TypeNames

end ScriptBind
