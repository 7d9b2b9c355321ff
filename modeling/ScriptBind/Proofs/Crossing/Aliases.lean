import Mathlib.Data.Nat.Digits.Defs
import ScriptBind.Proofs.Crossing.Explain
import ScriptBind.Proofs.Lists

/-!
# ScriptBind.Proofs.Crossing.Aliases

What explaining changes in an error. The names with listings are aliases: a stem and sixteen
hexadecimal digits. An error, however deep, reports on at most one type, and only its name is
rewritten.

* `IsHexAlias` - the form of an alias; `isHexAlias_structAlias` - that of each struct has it.
* `ConversionError.typeName?` - the name of the type that an error reports on.
* `ConversionError.withTypeName` - the same error about another type.
* `TypeNames.explain_spec` - an error is explained once, and nothing but this name changes.
-/

namespace ScriptBind

/-! ### Aliases -/

def IsHexAlias (name : String) : Prop :=
  ∃ digits : List Char, name.toList = structAliasStem.toList ++ digits ∧ digits.length = 16 ∧
    ∀ c ∈ digits, (Text.hexValue? c).isSome

theorem IsHexAlias.isStructAlias {name : String} (h : IsHexAlias name) : IsStructAlias name := by
  obtain ⟨digits, hname, _, hdigits⟩ := h
  rw [IsStructAlias, hname]
  refine ⟨List.prefix_append _ _, fun hblank => ?_⟩
  rcases List.mem_append.1 hblank with hblank | hblank
  · exact absurd hblank (by decide)
  · exact absurd (hdigits ' ' hblank) (by decide)

theorem structHash_lt (listing : String) : structHash listing < 16 ^ 16 := by
  rw [structHash]
  split
  · rename_i high low _ _
    have hhigh := high.toNat_lt
    have hlow := low.toNat_lt
    omega
  · decide

theorem isHexAlias_structAlias (listing : String) : IsHexAlias (structAlias listing) := by
  have hlength := Nat.toDigits_length 16 _ 16 (by decide) (structHash_lt listing)
  refine ⟨_, String.toList_append, ?_, fun c hc => ?_⟩
  · simp [Text.hexPadded, hlength]
  · have hdigits : ∀ d < 16, (Text.hexValue? (Nat.digitChar d)).isSome := by decide
    obtain ⟨d, hd, rfl⟩ := mem_hexPadded hc
    exact hdigits d hd

/-! ### The type that an error reports on -/

namespace ConversionError

/-- What was found instead of a type has no name here. -/
def typeName? : ConversionError → Option String
  | .typeMismatch expected _ => some expected
  | .lengthMismatch typeName _ _ => some typeName
  | .invalidNil typeName _ => some typeName
  | .missingField typeName _ => some typeName
  | .inField _ cause => cause.typeName?
  | .argument _ _ cause => cause.typeName?
  | _ => none

def withTypeName (name : String) : ConversionError → ConversionError
  | .typeMismatch _ actual => .typeMismatch name actual
  | .lengthMismatch _ expected actual => .lengthMismatch name expected actual
  | .invalidNil _ value => .invalidNil name value
  | .missingField _ field => .missingField name field
  | .inField field cause => .inField field (cause.withTypeName name)
  | .argument callee position cause => .argument callee position (cause.withTypeName name)
  | other => other

variable {e e' : ConversionError} {name : String}

theorem withTypeName_eq_self (h : ∀ other, e.typeName? = some other → other = name) :
    e.withTypeName name = e := by
  induction e with
  | inField field cause ih | argument callee position cause ih =>
    rw [withTypeName, ih h]
  | typeMismatch expected actual => rw [withTypeName, h expected rfl]
  | lengthMismatch typeName expected actual => rw [withTypeName, h typeName rfl]
  | invalidNil typeName value => rw [withTypeName, h typeName rfl]
  | missingField typeName field => rw [withTypeName, h typeName rfl]
  | _ => rfl

/-- Besides the name there is nothing that another type leaves open. -/
theorem eq_of_withTypeName_eq (h : ∀ name, e.withTypeName name = e'.withTypeName name)
    (hname : e.typeName? = e'.typeName?) : e = e' := by
  have hself := h (e.typeName?.getD "")
  rw [withTypeName_eq_self fun other hother => by rw [hother]; rfl,
    withTypeName_eq_self fun other hother => by rw [hname, hother]; rfl] at hself
  exact hself

end ConversionError

/-! ### Explaining -/

namespace TypeNames

variable {names : TypeNames}

theorem typeName?_explain (e : ConversionError) :
    (names.explain e).typeName? = e.typeName?.map names.describe := by
  induction e with
  | inField field cause ih | argument callee position cause ih =>
    rw [explain, ConversionError.typeName?, ConversionError.typeName?, ih]
  | _ => rfl

theorem withTypeName_explain (e : ConversionError) (name : String) :
    (names.explain e).withTypeName name = e.withTypeName name := by
  induction e with
  | inField field cause ih | argument callee position cause ih =>
    simp only [explain, ConversionError.withTypeName, ih]
  | _ => rfl

theorem describe_of_not_mem {name : String} (h : name ∉ names.listings.map (·.1)) :
    names.describe name = name := by
  have hnone : names.listing? name = none := lookup_eq_none_iff_not_mem.2 h
  rw [describe, hnone]

theorem explain_of_not_mem {e : ConversionError}
    (h : ∀ name, e.typeName? = some name → name ∉ names.listings.map (·.1)) :
    names.explain e = e := by
  refine ConversionError.eq_of_withTypeName_eq (withTypeName_explain e) ?_
  rw [typeName?_explain]
  cases hname : e.typeName? with
  | none => rfl
  | some name => rw [Option.map_some, describe_of_not_mem (h name hname)]

theorem ofStructs_of_isHexAlias (h : ∀ p ∈ names.listings, IsHexAlias p.1) : names.OfStructs :=
  fun _ _ hlisting => (h _ (mem_of_lookup hlisting)).isStructAlias

/-- Whatever the listings are and however deep the error lies: fields, positions, callees, what was
found, lengths and how all this is nested stay, and only an alias is rewritten. -/
theorem explain_spec (h : ∀ p ∈ names.listings, IsHexAlias p.1) (e : ConversionError) :
    names.explain (names.explain e) = names.explain e ∧
    (∀ name, (names.explain e).withTypeName name = e.withTypeName name) ∧
    (names.explain e).typeName? = e.typeName?.map names.describe ∧
    (∀ e', (∀ name, e'.withTypeName name = e.withTypeName name) →
      e'.typeName? = e.typeName?.map names.describe → e' = names.explain e) ∧
    ((∀ name, e.typeName? = some name → name ∉ names.listings.map (·.1)) →
      names.explain e = e) := by
  have hstays : ∀ name, (names.explain e).withTypeName name = e.withTypeName name :=
    withTypeName_explain e
  have hname : (names.explain e).typeName? = e.typeName?.map names.describe := typeName?_explain e
  refine ⟨explain_explain (ofStructs_of_isHexAlias h) e, hstays, hname, fun e' he' hname' => ?_,
    explain_of_not_mem⟩
  exact ConversionError.eq_of_withTypeName_eq
    (fun name => (he' name).trans (hstays name).symm) (hname'.trans hname.symm)

/-- The listing ends in a blank field, and the alias is also what was found. -/
theorem explain_spec_nested :
    let names : TypeNames := ⟨[("Struct_00112233AABBccdd", "X int64; Y string; ;")]⟩
    let e : ConversionError := .argument "Plot" 1 (.inField "Origin"
      (.typeMismatch "Struct_00112233AABBccdd" "Struct_00112233AABBccdd"))
    (∀ p ∈ names.listings, IsHexAlias p.1) ∧
    names.explain e = .argument "Plot" 1 (.inField "Origin"
      (.typeMismatch "Struct_00112233AABBccdd \x7bX int64; Y string\x7d"
        "Struct_00112233AABBccdd")) ∧
    names.explain (names.explain e) = names.explain e := by
  intro names e
  have hnames : ∀ p ∈ names.listings, IsHexAlias p.1 :=
    List.forall_mem_singleton.2 ⟨"00112233AABBccdd".toList, by decide, by decide,
      forall_mem_of_all (by decide)⟩
  exact ⟨hnames, by decide, (explain_spec hnames e).1⟩

end TypeNames
end ScriptBind
