import ScriptBind.Proofs.Canon.Table

/-!
# ScriptBind.Proofs.Canon.Interning

How the table of canonical types grows.

* `Session.Interned.eq_of_unfold_eq` - types that mean the same have the same position.
* `Session.Interned.intern`, `Session.Interned.reserve`, `Session.Interned.setUnderlying` - each way
  to change the table keeps the invariant and extends the table.
-/

namespace ScriptBind

/-! ### One position for each meaning -/

theorem eq_of_map_eq {α β : Type} {f : α → β} {xs ys : List α}
    (hinj : ∀ x ∈ xs, ∀ y ∈ ys, f x = f y → x = y) (h : xs.map f = ys.map f) : xs = ys := by
  induction xs generalizing ys with
  | nil => exact (List.map_eq_nil_iff.1 h.symm).symm
  | cons x xs ih =>
    cases ys with
    | nil => cases h
    | cons y ys =>
      rw [List.map_cons, List.map_cons, List.cons.injEq] at h
      have hx := hinj x List.mem_cons_self y List.mem_cons_self h.1
      have hxs := ih (fun a ha b hb => hinj a (List.mem_cons_of_mem _ ha) b
        (List.mem_cons_of_mem _ hb)) h.2
      rw [hx, hxs]

theorem CanonFunc.eq_of_unfoldWith_eq {unfold : CanonId → Unfolding} {f f' : CanonFunc}
    (hinj : ∀ r ∈ f.refs, ∀ r' ∈ f'.refs, unfold r = unfold r' → r = r')
    (h : f.unfoldWith unfold = f'.unfoldWith unfold) : f = f' := by
  obtain ⟨params, results, variadic, typeParams⟩ := f
  obtain ⟨params', results', variadic', typeParams'⟩ := f'
  simp only [unfoldWith, Unfolding.func.injEq] at h
  obtain ⟨hparams, hresults, rfl, rfl⟩ := h
  have hparams := eq_of_map_eq (fun r hr r' hr' => hinj r (List.mem_append_left _ hr) r'
    (List.mem_append_left _ hr')) hparams
  have hresults := eq_of_map_eq (fun r hr r' hr' => hinj r (List.mem_append_right _ hr) r'
    (List.mem_append_right _ hr')) hresults
  subst hparams hresults
  rfl

theorem methods_eq_of_map_eq {unfold : CanonId → Unfolding} {methods methods' : List CanonMethod}
    (hinj : ∀ m ∈ methods, ∀ r ∈ m.func.refs, ∀ m' ∈ methods', ∀ r' ∈ m'.func.refs,
      unfold r = unfold r' → r = r')
    (h : methods.map (fun m => (m.name, m.func.unfoldWith unfold)) =
      methods'.map fun m => (m.name, m.func.unfoldWith unfold)) : methods = methods' := by
  refine eq_of_map_eq (fun m hm m' hm' heq => ?_) h
  obtain ⟨name, f⟩ := m
  obtain ⟨name', f'⟩ := m'
  obtain ⟨rfl, hf⟩ := Prod.mk.inj heq
  have hf := CanonFunc.eq_of_unfoldWith_eq (fun r hr r' hr' => hinj _ hm r hr _ hm' r' hr') hf
  exact congrArg (CanonMethod.mk name) hf

theorem fields_eq_of_map_eq {unfold : CanonId → Unfolding}
    {fields fields' : List (String × CanonId)}
    (hinj : ∀ p ∈ fields, ∀ p' ∈ fields', unfold p.2 = unfold p'.2 → p.2 = p'.2)
    (h : fields.map (fun p => (p.1, unfold p.2)) = fields'.map fun p => (p.1, unfold p.2)) :
    fields = fields' :=
  eq_of_map_eq (fun p hp p' hp' heq =>
    Prod.ext (Prod.mk.inj heq).1 (hinj p hp p' hp' (Prod.mk.inj heq).2)) h

/-- Kinds of the same meaning differ in what a struct is called or in what a name stands for. -/
theorem CanonKind.outline_eq_of_unfoldWith_eq {unfold : CanonId → Unfolding}
    {kind kind' : CanonKind}
    (hinj : ∀ r ∈ kind.refs, ∀ r' ∈ kind'.refs, unfold r = unfold r' → r = r')
    (halias : ∀ name name' fields, kind = .struct name fields → kind' = .struct name' fields →
      name = name')
    (h : kind.unfoldWith unfold = kind'.unfoldWith unfold) : kind.outline = kind'.outline := by
  cases kind with
  | slice element =>
    cases kind' <;>
      simp only [unfoldWith, CanonFunc.unfoldWith, reduceCtorEq, Unfolding.slice.injEq] at h
    rw [hinj element (by simp [refs]) _ (by simp [refs]) h]
  | array length element =>
    cases kind' <;>
      simp only [unfoldWith, CanonFunc.unfoldWith, reduceCtorEq, Unfolding.array.injEq] at h
    rw [h.1, hinj element (by simp [refs]) _ (by simp [refs]) h.2]
  | map key value =>
    cases kind' <;>
      simp only [unfoldWith, CanonFunc.unfoldWith, reduceCtorEq, Unfolding.map.injEq] at h
    rw [hinj key (by simp [refs]) _ (by simp [refs]) h.1,
      hinj value (by simp [refs]) _ (by simp [refs]) h.2]
  | pointer element =>
    cases kind' <;>
      simp only [unfoldWith, CanonFunc.unfoldWith, reduceCtorEq, Unfolding.pointer.injEq] at h
    rw [hinj element (by simp [refs]) _ (by simp [refs]) h]
  | chan direction element =>
    cases kind' <;>
      simp only [unfoldWith, CanonFunc.unfoldWith, reduceCtorEq, Unfolding.chan.injEq] at h
    rw [h.1, hinj element (by simp [refs]) _ (by simp [refs]) h.2]
  | func f =>
    cases kind' with
    | func f' => rw [CanonFunc.eq_of_unfoldWith_eq hinj h]
    | _ => simp only [unfoldWith, CanonFunc.unfoldWith, reduceCtorEq] at h
  | interface methods =>
    cases kind' <;>
      simp only [unfoldWith, CanonFunc.unfoldWith, reduceCtorEq, Unfolding.interface.injEq] at h
    rename_i methods'
    have hmethods := methods_eq_of_map_eq (fun m hm r hr m' hm' r' hr' =>
      hinj r (List.mem_flatMap.2 ⟨m, hm, hr⟩) r' (List.mem_flatMap.2 ⟨m', hm', hr'⟩)) h
    rw [hmethods]
  | struct aliasName fields =>
    cases kind' <;>
      simp only [unfoldWith, CanonFunc.unfoldWith, reduceCtorEq, Unfolding.struct.injEq] at h
    rename_i aliasName' fields'
    have hfields := fields_eq_of_map_eq (fun p hp p' hp' =>
      hinj p.2 (List.mem_map_of_mem hp) p'.2 (List.mem_map_of_mem hp')) h
    subst hfields
    rw [halias aliasName aliasName' fields rfl rfl]
  | named name underlying =>
    cases kind' <;>
      simp only [unfoldWith, CanonFunc.unfoldWith, reduceCtorEq, Unfolding.named.injEq] at h
    rw [h]
    rfl
  | _ =>
    cases kind' <;> simp_all only [unfoldWith, CanonFunc.unfoldWith, reduceCtorEq,
      Unfolding.int.injEq, Unfolding.float.injEq, Unfolding.complex.injEq,
      Unfolding.typeParam.injEq]

namespace Session

variable {s : Session}

namespace Interned

variable (h : s.Interned)

include h

theorem eq_of_unfold_eq {id id' : CanonId} (hid : id < s.size) (hid' : id' < s.size)
    (heq : s.unfold id = s.unfold id') : id = id' := by
  induction id using Nat.strongRecOn generalizing id' with
  | _ id ih =>
    obtain ⟨kind, hkind⟩ := exists_kind? hid
    obtain ⟨kind', hkind'⟩ := exists_kind? hid'
    rw [h.unfold_eq hkind, h.unfold_eq hkind'] at heq
    refine h.distinct id id' kind kind' hkind hkind'
      (CanonKind.outline_eq_of_unfoldWith_eq (fun r hr r' hr' hparts => ?_)
        (fun name name' fields hname hname' => ?_) heq)
    · exact ih r (h.below id kind hkind r hr) (h.refs_lt_size hkind r hr)
        (h.refs_lt_size hkind' r' hr') hparts
    · subst hname hname'
      rw [h.aliased id name fields hkind, h.aliased id' name' fields hkind']

end Interned

/-! ### Ways to change the table -/

theorem kind?_push {kind : CanonKind} {id : CanonId} {found : CanonKind}
    (h : ({ s with kinds := s.kinds.push kind } : Session).kind? id = some found) :
    s.kind? id = some found ∨ id = s.size ∧ found = kind := by
  rw [kind?, Array.getElem?_push] at h
  split at h
  · rename_i hid
    exact .inr ⟨hid, (Option.some.inj h).symm⟩
  · exact .inl h

theorem kind?_push_size (kind : CanonKind) :
    ({ s with kinds := s.kinds.push kind } : Session).kind? s.size = some kind :=
  Array.getElem?_push_size

theorem kind?_push_of_lt {kind : CanonKind} {id : CanonId} (h : id < s.size) :
    ({ s with kinds := s.kinds.push kind } : Session).kind? id = s.kind? id := by
  have hne : id ≠ s.kinds.size := Nat.ne_of_lt h
  rw [kind?, Array.getElem?_push, if_neg hne]
  rfl

theorem lt_size_push {kind : CanonKind} {id : CanonId}
    (h : id < ({ s with kinds := s.kinds.push kind } : Session).size) :
    id < s.size ∨ id = s.size := by
  rw [size, Array.size_push] at h
  exact Nat.lt_or_eq_of_le (Nat.le_of_lt_succ h)

theorem extends_push (kind : CanonKind) :
    s.Extends { s with kinds := s.kinds.push kind } :=
  fun _ found hid => ⟨found, (kind?_push_of_lt (lt_size_of_kind? hid)).trans hid, rfl⟩

theorem Interned.push (h : s.Interned) {kind : CanonKind} (hbelow : ∀ r ∈ kind.refs, r < s.size)
    (hnew : ∀ id found, s.kind? id = some found → found.outline ≠ kind.outline)
    (halias : ∀ name fields, kind = .struct name fields →
      name = structAlias (s.fieldListing fields)) :
    ({ s with kinds := s.kinds.push kind } : Session).Interned where
  below id found hid := by
    rcases kind?_push hid with hid | ⟨rfl, rfl⟩
    · exact h.below id found hid
    · exact hbelow
  distinct id id' found found' hid hid' heq := by
    rcases kind?_push hid with hid | ⟨hid, hk⟩ <;> rcases kind?_push hid' with hid' | ⟨hid', hk'⟩
    · exact h.distinct id id' found found' hid hid' heq
    · exact absurd (hk' ▸ heq) (hnew id found hid)
    · exact absurd (hk ▸ heq.symm) (hnew id' found' hid')
    · rw [hid, hid']
  aliased id name fields hid := by
    rcases kind?_push hid with hid | ⟨rfl, hkind⟩
    · have hfields : ∀ f ∈ fields, f.2 < s.size := fun f hf =>
        h.refs_lt_size hid f.2 (List.mem_map_of_mem hf)
      rw [(extends_push kind).fieldListing_eq h hfields]
      exact h.aliased id name fields hid
    · have hfields : ∀ f ∈ fields, f.2 < s.size := fun f hf =>
        hbelow f.2 (hkind ▸ List.mem_map_of_mem hf)
      rw [(extends_push kind).fieldListing_eq h hfields]
      exact halias name fields hkind.symm

theorem Interned.of_kinds_eq {s' : Session} (h : s.Interned) (hkinds : s'.kinds = s.kinds) :
    s'.Interned := by
  have hkind : ∀ id, s'.kind? id = s.kind? id := fun id => by rw [kind?, kind?, hkinds]
  refine ⟨fun id kind hid => h.below id kind (hkind id ▸ hid), fun id id' kind kind' hid hid' =>
    h.distinct id id' kind kind' (hkind id ▸ hid) (hkind id' ▸ hid'), ?_⟩
  intro id name fields hid
  rw [hkind] at hid
  rw [(Extends.of_kinds_eq hkinds).fieldListing_eq h fun f hf =>
    h.refs_lt_size hid f.2 (List.mem_map_of_mem hf)]
  exact h.aliased id name fields hid

/-- What to intern a kind does: the kind stands at the answer, and nothing else changes. -/
structure InternsAs (s : Session) (kind : CanonKind) (s' : Session) (id : CanonId) : Prop where
  interned : s'.Interned
  extend : s.Extends s'
  kind?_eq : s'.kind? id = some kind
  memo_eq : s'.memo = s.memo
  named : ∀ i name underlying, s'.kind? i = some (.named name underlying) →
    s.kind? i = some (.named name underlying)
  new : ∀ i < s'.size, i < s.size ∨ i = id

theorem Interned.intern (h : s.Interned) {kind : CanonKind} (hnominal : kind.isNominal = false)
    (hbelow : ∀ r ∈ kind.refs, r < s.size)
    (halias : ∀ name fields, kind = .struct name fields →
      name = structAlias (s.fieldListing fields)) :
    s.InternsAs kind (s.intern kind).1 (s.intern kind).2 := by
  rw [Session.intern]
  split
  · rename_i id hid
    obtain ⟨hlt, heq, _⟩ := Array.findIdx?_eq_some_iff_getElem.1 hid
    have hfound : s.kind? id = some kind := by
      rw [kind?, Array.getElem?_eq_getElem hlt]
      exact congrArg some (of_decide_eq_true heq)
    exact ⟨h, .refl s, hfound, rfl, fun _ _ _ hi => hi, fun _ hi => .inl hi⟩
  · rename_i hnone
    have hnew : ∀ id found, s.kind? id = some found → found.outline ≠ kind.outline := by
      intro id found hid heq
      have hmem : found ∈ s.kinds := Array.mem_of_getElem? hid
      rw [CanonKind.eq_of_outline_eq hnominal heq] at hmem
      have := Array.findIdx?_eq_none_iff.1 hnone kind hmem
      simp at this
    refine ⟨h.push hbelow hnew halias, extends_push kind, kind?_push_size kind, rfl, ?_,
      fun i hi => lt_size_push hi⟩
    intro i name underlying hi
    rcases kind?_push hi with hi | ⟨_, rfl⟩
    · exact hi
    · cases hnominal

theorem not_named_of_findNamed {name : String} (h : s.findNamed name = none) (id : CanonId)
    (underlying : Option CanonId) : s.kind? id ≠ some (.named name underlying) := by
  intro hid
  have := Array.findIdx?_eq_none_iff.1 h _ (Array.mem_of_getElem? hid)
  simp [isNamed] at this

theorem kind?_of_findNamed {name : String} {id : CanonId} (h : s.findNamed name = some id) :
    ∃ underlying, s.kind? id = some (.named name underlying) := by
  obtain ⟨hlt, heq, _⟩ := Array.findIdx?_eq_some_iff_getElem.1 h
  have hkind : s.kind? id = some s.kinds[id] := Array.getElem?_eq_getElem hlt
  cases hfound : s.kinds[id] with
  | named found underlying =>
    rw [hfound] at heq hkind
    have hname : found = name := by simpa [isNamed] using heq
    exact ⟨underlying, hname ▸ hkind⟩
  | _ =>
    rw [hfound] at heq
    simp [isNamed] at heq

section Reserve

variable {name : String} (type : TypeId)

theorem extends_reserve : s.Extends (s.reserve type name).1 :=
  (extends_push _).trans (.of_kinds_eq rfl)

theorem kind?_reserve : (s.reserve type name).1.kind? (s.reserve type name).2 =
    some (.named name none) :=
  kind?_push_size (s := s) _

theorem Interned.reserve (h : s.Interned) (hname : s.findNamed name = none) :
    (s.reserve type name).1.Interned := by
  have hpush : ({ s with kinds := s.kinds.push (.named name none) } : Session).Interned := by
    refine h.push ?_ ?_ ?_
    · intro r hr
      cases hr
    · intro id found hid heq
      cases found with
      | named found underlying =>
        cases heq
        exact not_named_of_findNamed hname id underlying hid
      | _ => cases heq
    · intro aliasName fields hkind
      cases hkind
  exact hpush.of_kinds_eq rfl

end Reserve

section SetUnderlying

variable {id : CanonId} {name : String} {before : Option CanonId}

theorem kind?_setUnderlying (hid : s.kind? id = some (.named name before)) (underlying : CanonId) :
    ∀ i, (s.setUnderlying id name underlying).kind? i =
      if i = id then some (.named name (some underlying)) else s.kind? i := by
  intro i
  rw [kind?, Session.setUnderlying, Array.getElem?_setIfInBounds]
  by_cases hi : i = id
  · have hlt : id < s.kinds.size := lt_size_of_kind? hid
    rw [if_pos hi, if_pos hi.symm, if_pos hlt]
  · rw [if_neg hi, if_neg (Ne.symm hi)]
    rfl

theorem extends_setUnderlying (hid : s.kind? id = some (.named name before))
    (underlying : CanonId) : s.Extends (s.setUnderlying id name underlying) := by
  intro i kind hi
  rw [kind?_setUnderlying hid]
  split
  · rename_i heq
    rw [heq, hid] at hi
    cases hi
    exact ⟨_, rfl, rfl⟩
  · exact ⟨kind, hi, rfl⟩

theorem exists_outline_setUnderlying (hid : s.kind? id = some (.named name before))
    {underlying i : CanonId} {kind : CanonKind}
    (hi : (s.setUnderlying id name underlying).kind? i = some kind) :
    ∃ old, s.kind? i = some old ∧ old.outline = kind.outline := by
  rw [kind?_setUnderlying hid] at hi
  split at hi
  · rename_i heq
    cases hi
    exact ⟨.named name before, by rw [heq]; exact hid, rfl⟩
  · exact ⟨kind, hi, rfl⟩

theorem Interned.setUnderlying (h : s.Interned) (hid : s.kind? id = some (.named name before))
    (underlying : CanonId) : (s.setUnderlying id name underlying).Interned where
  below i kind hi := by
    obtain ⟨old, hold, heq⟩ := exists_outline_setUnderlying hid hi
    rw [← CanonKind.refs_outline kind, ← heq, CanonKind.refs_outline]
    exact h.below i old hold
  distinct i i' kind kind' hi hi' heq := by
    obtain ⟨old, hold, hk⟩ := exists_outline_setUnderlying hid hi
    obtain ⟨old', hold', hk'⟩ := exists_outline_setUnderlying hid hi'
    exact h.distinct i i' old old' hold hold' (by rw [hk, hk', heq])
  aliased i aliasName fields hi := by
    rw [kind?_setUnderlying hid] at hi
    split at hi
    · cases hi
    · rw [(extends_setUnderlying hid underlying).fieldListing_eq h fun f hf =>
        h.refs_lt_size hi f.2 (List.mem_map_of_mem hf)]
      exact h.aliased i aliasName fields hi

end SetUnderlying
end Session
end ScriptBind
