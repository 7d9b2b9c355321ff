import Mathlib.Data.List.Forall2

/-!
# ScriptBind.Proofs.Lists

Lists, item by item.

* `mapM_eq_some_iff` - what comes out of a step that fails if one item fails.
* `exists_mem_of_forall₂`, `exists_of_mem_forall₂` - what stands opposite an item.
* `forall_mem_of_all` - a statement about all items, decided.
* `exists_depth` - a bound for all items.
* `pairwise_mergeSort_name` - items in the order of their names.
-/

namespace ScriptBind

variable {α β : Type} {f : α → Option β} {xs : List α} {ys : List β}

theorem mapM_eq_some_iff :
    xs.mapM f = some ys ↔ List.Forall₂ (fun x y => f x = some y) xs ys := by
  induction xs generalizing ys with
  | nil =>
    rw [List.mapM_nil, List.forall₂_nil_left_iff]
    exact ⟨fun h => (Option.some.inj h).symm, fun h => h ▸ rfl⟩
  | cons x xs ih =>
    rw [List.mapM_cons, List.forall₂_cons_left_iff]
    constructor
    · intro h
      obtain ⟨y, hy, h⟩ := Option.bind_eq_some_iff.1 h
      obtain ⟨rest, hrest, h⟩ := Option.bind_eq_some_iff.1 h
      exact ⟨y, rest, hy, ih.1 hrest, (Option.some.inj h).symm⟩
    · rintro ⟨y, rest, hy, hrest, rfl⟩
      simp [hy, ih.2 hrest]

theorem isSome_mapM_iff : (xs.mapM f).isSome ↔ ∀ x ∈ xs, (f x).isSome := by
  induction xs with
  | nil => simp
  | cons x xs ih =>
    rw [List.forall_mem_cons, ← ih, List.mapM_cons]
    cases f x with
    | none => simp
    | some y => cases xs.mapM f <;> simp

theorem exists_getLast?_of_mapM {x : α} (h : xs.mapM f = some ys) (hx : xs.getLast? = some x) :
    ∃ y, ys.getLast? = some y ∧ f x = some y := by
  obtain ⟨init, rfl⟩ := List.getLast?_eq_some_iff.1 hx
  rw [List.mapM_append] at h
  obtain ⟨first, _, h⟩ := Option.bind_eq_some_iff.1 h
  obtain ⟨last, hlast, h⟩ := Option.bind_eq_some_iff.1 h
  rw [List.mapM_cons] at hlast
  obtain ⟨y, hy, hlast⟩ := Option.bind_eq_some_iff.1 hlast
  cases hlast
  cases h
  exact ⟨y, List.getLast?_concat, hy⟩

theorem exists_mem_of_forall₂ {R : α → β → Prop} {y : β} (h : List.Forall₂ R xs ys)
    (hy : y ∈ ys) : ∃ x ∈ xs, R x y := by
  induction h with
  | nil => cases hy
  | cons hx _ ih =>
    rcases List.mem_cons.1 hy with rfl | hy
    · exact ⟨_, List.mem_cons_self, hx⟩
    · obtain ⟨x, hmem, hx⟩ := ih hy
      exact ⟨x, List.mem_cons_of_mem _ hmem, hx⟩

theorem exists_of_mem_forall₂ {R : α → β → Prop} {x : α} (h : List.Forall₂ R xs ys)
    (hx : x ∈ xs) : ∃ y ∈ ys, R x y :=
  exists_mem_of_forall₂ h.flip hx

theorem forall_mem_of_forall₂ {R : α → β → Prop} {P : β → Prop} (h : List.Forall₂ R xs ys)
    (hP : ∀ x y, R x y → P y) : ∀ y ∈ ys, P y := by
  intro y hy
  obtain ⟨x, _, hR⟩ := exists_mem_of_forall₂ h hy
  exact hP x y hR

theorem forall_mem_of_forall₂_left {R : α → β → Prop} {P : α → Prop} (h : List.Forall₂ R xs ys)
    (hP : ∀ x y, R x y → P x) : ∀ x ∈ xs, P x :=
  forall_mem_of_forall₂ (R := flip R) h.flip fun y x => hP x y

theorem exists_mem_of_mapM {y : β} (h : xs.mapM f = some ys) (hy : y ∈ ys) :
    ∃ x ∈ xs, f x = some y :=
  exists_mem_of_forall₂ (R := fun x y => f x = some y) (mapM_eq_some_iff.1 h) hy

theorem exists_of_mem_mapM {x : α} (h : xs.mapM f = some ys) (hx : x ∈ xs) :
    ∃ y ∈ ys, f x = some y :=
  exists_of_mem_forall₂ (R := fun x y => f x = some y) (mapM_eq_some_iff.1 h) hx

/-- To decide a statement about the items of a list, not about all values of their type. -/
theorem forall_mem_of_all {p : α → Prop} [DecidablePred p]
    (h : xs.all (fun x => decide (p x)) = true) : ∀ x ∈ xs, p x :=
  fun x hx => of_decide_eq_true (List.all_eq_true.1 h x hx)

theorem pairwise_mergeSort_name (items : List (String × α)) :
    (items.mergeSort fun a b => a.1 ≤ b.1).Pairwise fun a b => a.1 ≤ b.1 := by
  refine (List.pairwise_mergeSort (fun a b c hab hbc => ?_) (fun a b => ?_) items).imp
    of_decide_eq_true
  · exact decide_eq_true (String.le_trans (of_decide_eq_true hab) (of_decide_eq_true hbc))
  · simpa using String.le_total a.1 b.1

/-- What holds of each of finitely many pairs from some depth on holds of all at one depth. -/
theorem exists_depth {P : Nat → α → β → Prop} (hmono : ∀ n m x y, n ≤ m → P n x y → P m x y)
    (h : List.Forall₂ (fun x y => ∃ n, P n x y) xs ys) :
    ∃ n, List.Forall₂ (P n) xs ys := by
  induction h with
  | nil => exact ⟨0, .nil⟩
  | cons hx _ ih =>
    obtain ⟨n, hn⟩ := hx
    obtain ⟨m, hm⟩ := ih
    refine ⟨max n m, .cons (hmono n _ _ _ (Nat.le_max_left n m) hn) ?_⟩
    exact hm.imp fun x y => hmono m _ x y (Nat.le_max_right n m)

end ScriptBind
