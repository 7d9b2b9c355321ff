import Mathlib.Data.List.Basic
import ScriptBind.Proofs.Canon.Unfolding

/-!
# ScriptBind.Proofs.Canon.Table

The table of canonical types. Each kind refers to earlier kinds only and stands there once, so what
a position means is never changed by what is added later, and two positions never mean the same.

* `Session.Interned` - the invariant of the table.
* `Session.Extends` - a later table; only the underlying type of a named type may be new in it.
* `Session.Extends.typeString_eq`, `Session.Extends.unfold_eq` - what a type is called and means
  stays.
* `Session.Interned.eq_of_unfold_eq` - types that mean the same have the same position.
-/

namespace ScriptBind

/-! ### What a kind refers to -/

def CanonFunc.refs (f : CanonFunc) : List CanonId := f.params ++ f.results

namespace CanonKind

/-- The types that a kind is made of. The underlying type of a named type is not part of it. -/
def refs : CanonKind → List CanonId
  | .slice element => [element]
  | .array _ element => [element]
  | .map key value => [key, value]
  | .pointer element => [element]
  | .func f => f.refs
  | .chan _ element => [element]
  | .interface methods => methods.flatMap (·.func.refs)
  | .struct _ fields => fields.map (·.2)
  | _ => []

/-- The kind without its underlying type, if it has one. -/
def outline : CanonKind → CanonKind
  | .named name _ => .named name none
  | kind => kind

def isNominal : CanonKind → Bool
  | .named _ _ => true
  | _ => false

theorem outline_of_not_isNominal {kind : CanonKind} (h : kind.isNominal = false) :
    kind.outline = kind := by
  cases kind with
  | named name underlying => cases h
  | _ => rfl

theorem isNominal_outline (kind : CanonKind) : kind.outline.isNominal = kind.isNominal := by
  cases kind <;> rfl

theorem eq_of_outline_eq {kind kind' : CanonKind} (h : kind.isNominal = false)
    (heq : kind'.outline = kind.outline) : kind' = kind := by
  have h' : kind'.isNominal = false := by
    rw [← isNominal_outline, heq, isNominal_outline, h]
  rwa [outline_of_not_isNominal h, outline_of_not_isNominal h'] at heq

theorem refs_outline (kind : CanonKind) : kind.outline.refs = kind.refs := by
  cases kind <;> rfl

theorem unfoldWith_outline (unfold : CanonId → Unfolding) (kind : CanonKind) :
    kind.outline.unfoldWith unfold = kind.unfoldWith unfold := by
  cases kind <;> rfl

end CanonKind

/-! ### Functions on the parts of a kind -/

section Congr

variable {α : Type}

theorem CanonFunc.unfoldWith_congr {f f' : CanonId → Unfolding} {func : CanonFunc}
    (h : ∀ r ∈ func.refs, f r = f' r) : func.unfoldWith f = func.unfoldWith f' := by
  have hparams : func.params.map f = func.params.map f' :=
    List.map_congr_left fun r hr => h r (List.mem_append_left _ hr)
  have hresults : func.results.map f = func.results.map f' :=
    List.map_congr_left fun r hr => h r (List.mem_append_right _ hr)
  rw [CanonFunc.unfoldWith, CanonFunc.unfoldWith, hparams, hresults]

theorem CanonKind.unfoldWith_congr {f f' : CanonId → Unfolding} {kind : CanonKind}
    (h : ∀ r ∈ kind.refs, f r = f' r) : kind.unfoldWith f = kind.unfoldWith f' := by
  cases kind with
  | slice element => exact congrArg Unfolding.slice (h element (by simp [refs]))
  | array length element => exact congrArg (Unfolding.array length) (h element (by simp [refs]))
  | pointer element => exact congrArg Unfolding.pointer (h element (by simp [refs]))
  | chan direction element =>
    exact congrArg (Unfolding.chan direction) (h element (by simp [refs]))
  | map key value =>
    show Unfolding.map (f key) (f value) = Unfolding.map (f' key) (f' value)
    rw [h key (by simp [refs]), h value (by simp [refs])]
  | func func => exact CanonFunc.unfoldWith_congr h
  | interface methods =>
    refine congrArg Unfolding.interface (List.map_congr_left fun m hm => ?_)
    have hfunc := CanonFunc.unfoldWith_congr fun r hr =>
      h r (List.mem_flatMap.2 ⟨m, hm, hr⟩)
    rw [hfunc]
  | struct aliasName fields =>
    refine congrArg Unfolding.struct (List.map_congr_left fun field hfield => ?_)
    rw [h field.2 (List.mem_map_of_mem hfield)]
  | _ => rfl

namespace Session

theorem paramStrings_congr {text text' elementText elementText' : CanonId → String}
    {params : List CanonId} (h : ∀ p ∈ params, text p = text' p)
    (helement : ∀ p ∈ params, elementText p = elementText' p) (variadic : Bool) :
    paramStrings text elementText variadic params =
      paramStrings text' elementText' variadic params := by
  induction params with
  | nil => rfl
  | cons p rest ih =>
    have hp := h p List.mem_cons_self
    have hrest := ih (fun q hq => h q (List.mem_cons_of_mem _ hq))
      fun q hq => helement q (List.mem_cons_of_mem _ hq)
    cases rest with
    | nil => rw [paramStrings, paramStrings, hp, helement p List.mem_cons_self]
    | cons q rest =>
      show text p :: paramStrings text elementText variadic (q :: rest) =
        text' p :: paramStrings text' elementText' variadic (q :: rest)
      rw [hp, hrest]

theorem resultString_congr {text text' : CanonId → String} {results : List CanonId}
    (h : ∀ r ∈ results, text r = text' r) :
    resultString text results = resultString text' results := by
  cases results with
  | nil => rfl
  | cons r rest =>
    cases rest with
    | nil => rw [resultString, resultString, h r List.mem_cons_self]
    | cons r' rest =>
      exact congrArg (fun texts => " (" ++ ", ".intercalate texts ++ ")") (List.map_congr_left h)

theorem funcStringWith_congr {text text' elementText elementText' : CanonId → String}
    {f : CanonFunc} (h : ∀ r ∈ f.refs, text r = text' r)
    (helement : ∀ r ∈ f.refs, elementText r = elementText' r) :
    funcStringWith text elementText f = funcStringWith text' elementText' f := by
  rw [funcStringWith, funcStringWith,
    paramStrings_congr (fun r hr => h r (List.mem_append_left _ hr))
      (fun r hr => helement r (List.mem_append_left _ hr)) f.variadic,
    resultString_congr fun r hr => h r (List.mem_append_right _ hr)]

theorem listingWith_congr {text text' : CanonId → String} {fields : List (String × CanonId)}
    (h : ∀ f ∈ fields, text f.2 = text' f.2) :
    listingWith text fields = listingWith text' fields := by
  refine congrArg String.join (List.map_congr_left fun field hfield => ?_)
  show field.1 ++ " " ++ text field.2 ++ ";" = field.1 ++ " " ++ text' field.2 ++ ";"
  rw [h field hfield]

end Session
end Congr

namespace Session

/-! ### Later tables -/

/-- Every kind stays where it is, except that a named type may get its underlying type. -/
def Extends (s s' : Session) : Prop :=
  ∀ id kind, s.kind? id = some kind → ∃ kind', s'.kind? id = some kind' ∧
    kind'.outline = kind.outline

/-- Each kind refers to earlier kinds, stands there once, and a struct is called as its fields
say. -/
structure Interned (s : Session) : Prop where
  below : ∀ id kind, s.kind? id = some kind → ∀ r ∈ kind.refs, r < id
  distinct : ∀ id id' kind kind', s.kind? id = some kind → s.kind? id' = some kind' →
    kind.outline = kind'.outline → id = id'
  aliased : ∀ id aliasName fields, s.kind? id = some (.struct aliasName fields) →
    aliasName = structAlias (s.fieldListing fields)

theorem lt_size_of_kind? {s : Session} {id : CanonId} {kind : CanonKind}
    (h : s.kind? id = some kind) : id < s.size :=
  (Array.getElem?_eq_some_iff.1 h).1

theorem exists_kind? {s : Session} {id : CanonId} (h : id < s.size) :
    ∃ kind, s.kind? id = some kind :=
  ⟨s.kinds[id], Array.getElem?_eq_getElem h⟩

theorem interned_empty : empty.Interned where
  below id kind h := by simp [kind?, empty] at h
  distinct id id' kind kind' h := by simp [kind?, empty] at h
  aliased id aliasName fields h := by simp [kind?, empty] at h

namespace Extends

variable {s s' s'' : Session}

theorem refl (s : Session) : s.Extends s := fun _ kind h => ⟨kind, h, rfl⟩

theorem trans (h : s.Extends s') (h' : s'.Extends s'') : s.Extends s'' := by
  intro id kind hid
  obtain ⟨kind', hid', heq⟩ := h id kind hid
  obtain ⟨kind'', hid'', heq'⟩ := h' id kind' hid'
  exact ⟨kind'', hid'', heq'.trans heq⟩

theorem of_kinds_eq (h : s'.kinds = s.kinds) : s.Extends s' :=
  fun _ kind hid => ⟨kind, by rw [kind?, h]; exact hid, rfl⟩

variable (h : s.Extends s')

include h

theorem lt_size {id : CanonId} (hid : id < s.size) : id < s'.size := by
  obtain ⟨kind, hkind⟩ := exists_kind? hid
  obtain ⟨_, hkind', _⟩ := h id kind hkind
  exact lt_size_of_kind? hkind'

theorem kind?_of_not_isNominal {id : CanonId} {kind : CanonKind} (hid : s.kind? id = some kind)
    (hkind : kind.isNominal = false) : s'.kind? id = some kind := by
  obtain ⟨kind', hid', heq⟩ := h id kind hid
  rw [CanonKind.eq_of_outline_eq hkind heq] at hid'
  exact hid'

theorem named {id : CanonId} {name : String} {underlying : Option CanonId}
    (hid : s.kind? id = some (.named name underlying)) :
    ∃ underlying', s'.kind? id = some (.named name underlying') := by
  obtain ⟨kind', hid', heq⟩ := h id _ hid
  cases kind' with
  | named name' underlying' =>
    cases heq
    exact ⟨underlying', hid'⟩
  | _ => cases heq

/-- A kind as it stands in both tables. -/
theorem elementText_eq {text text' : CanonId → String} {id : CanonId} (hid : id < s.size)
    (htext : ∀ r < id, text' r = text r) (hself : text' id = text id)
    (hbelow : ∀ kind, s.kind? id = some kind → ∀ r ∈ kind.refs, r < id) :
    (match s'.kind? id with
      | some (.slice element) => text' element
      | _ => text' id) =
    match s.kind? id with
      | some (.slice element) => text element
      | _ => text id := by
  obtain ⟨kind, hkind⟩ := exists_kind? hid
  cases kind with
  | named name underlying =>
    obtain ⟨underlying', hkind'⟩ := h.named hkind
    rw [hkind, hkind']
    exact hself
  | slice element =>
    rw [hkind, h.kind?_of_not_isNominal hkind rfl]
    exact htext element (hbelow _ hkind element (by simp [CanonKind.refs]))
  | _ =>
    rw [hkind, h.kind?_of_not_isNominal hkind rfl]
    exact hself

theorem typeStringIn_eq (hs : s.Interned) : ∀ (depth : Nat) {id : CanonId}, id < s.size →
    s'.typeStringIn depth id = s.typeStringIn depth id := by
  intro depth
  induction depth with
  | zero =>
    intro id _
    rfl
  | succ depth ih =>
    intro id hid
    obtain ⟨kind, hkind⟩ := exists_kind? hid
    have hparts : ∀ r ∈ kind.refs, s'.typeStringIn depth r = s.typeStringIn depth r :=
      fun r hr => ih (Nat.lt_trans (hs.below id kind hkind r hr) hid)
    have helements : ∀ r ∈ kind.refs,
        (match s'.kind? r with
          | some (.slice element) => s'.typeStringIn depth element
          | _ => s'.typeStringIn depth r) =
        match s.kind? r with
          | some (.slice element) => s.typeStringIn depth element
          | _ => s.typeStringIn depth r := by
      intro r hr
      have hlt := Nat.lt_trans (hs.below id kind hkind r hr) hid
      exact h.elementText_eq hlt (fun q hq => ih (Nat.lt_trans hq hlt)) (ih hlt)
        fun kind' hkind' => hs.below r kind' hkind'
    rw [typeStringIn, typeStringIn, hkind]
    cases kind with
    | named name underlying =>
      obtain ⟨underlying', hkind'⟩ := h.named hkind
      rw [hkind']
    | slice element | array length element | pointer element | chan direction element =>
      rw [h.kind?_of_not_isNominal hkind rfl]
      simp only [hparts element (by simp [CanonKind.refs])]
    | map key value =>
      rw [h.kind?_of_not_isNominal hkind rfl]
      simp only [hparts key (by simp [CanonKind.refs]), hparts value (by simp [CanonKind.refs])]
    | func f =>
      rw [h.kind?_of_not_isNominal hkind rfl]
      exact congrArg ("func" ++ ·) (funcStringWith_congr hparts helements)
    | interface methods =>
      rw [h.kind?_of_not_isNominal hkind rfl]
      refine congrArg (fun texts => "interface \x7b " ++ "; ".intercalate texts ++ " \x7d")
        (List.map_congr_left fun m hm => congrArg (m.name ++ ·) ?_)
      exact funcStringWith_congr (fun r hr => hparts r (List.mem_flatMap.2 ⟨m, hm, hr⟩))
        fun r hr => helements r (List.mem_flatMap.2 ⟨m, hm, hr⟩)
    | _ => rw [h.kind?_of_not_isNominal hkind rfl]

theorem typeString_eq (hs : s.Interned) {id : CanonId} (hid : id < s.size) :
    s'.typeString id = s.typeString id :=
  h.typeStringIn_eq hs (id + 1) hid

theorem fieldListing_eq (hs : s.Interned) {fields : List (String × CanonId)}
    (hfields : ∀ f ∈ fields, f.2 < s.size) : s'.fieldListing fields = s.fieldListing fields :=
  listingWith_congr fun f hf => h.typeString_eq hs (hfields f hf)

end Extends

/-! ### Meaning -/

namespace Interned

variable {s : Session} (h : s.Interned)

include h

theorem unfoldIn_eq : ∀ {depth id : Nat}, id < depth → s.unfoldIn depth id = s.unfold id := by
  intro depth id
  induction id using Nat.strongRecOn generalizing depth with
  | _ id ih =>
    intro hlt
    obtain ⟨depth, rfl⟩ := Nat.exists_eq_succ_of_ne_zero (Nat.ne_zero_of_lt hlt)
    rw [unfold, unfoldIn, unfoldIn]
    split
    · rfl
    · rename_i kind hkind
      refine CanonKind.unfoldWith_congr fun r hr => ?_
      have hr := h.below id kind hkind r hr
      rw [ih r hr (Nat.lt_of_lt_of_le hr (Nat.le_of_lt_succ hlt)), ih r hr hr]

theorem unfold_eq {id : CanonId} {kind : CanonKind} (hid : s.kind? id = some kind) :
    s.unfold id = kind.unfoldWith s.unfold := by
  rw [unfold, unfoldIn, hid]
  exact CanonKind.unfoldWith_congr fun r hr => h.unfoldIn_eq (h.below id kind hid r hr)

theorem refs_lt_size {id : CanonId} {kind : CanonKind} (hid : s.kind? id = some kind) :
    ∀ r ∈ kind.refs, r < s.size :=
  fun r hr => Nat.lt_trans (h.below id kind hid r hr) (lt_size_of_kind? hid)

end Interned

theorem Extends.unfold_eq {s s' : Session} (h : s.Extends s') (hs : s.Interned)
    (hs' : s'.Interned) {id : CanonId} (hid : id < s.size) : s'.unfold id = s.unfold id := by
  induction id using Nat.strongRecOn with
  | _ id ih =>
    obtain ⟨kind, hkind⟩ := exists_kind? hid
    obtain ⟨kind', hkind', heq⟩ := h id kind hkind
    have hparts : ∀ r ∈ kind.refs, s'.unfold r = s.unfold r := fun r hr =>
      ih r (hs.below id kind hkind r hr) (hs.refs_lt_size hkind r hr)
    rw [hs.unfold_eq hkind, hs'.unfold_eq hkind', ← CanonKind.unfoldWith_outline _ kind', heq,
      CanonKind.unfoldWith_outline, CanonKind.unfoldWith_congr hparts]

end Session
end ScriptBind
