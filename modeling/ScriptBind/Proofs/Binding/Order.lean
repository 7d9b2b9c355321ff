import Mathlib.Data.List.Perm.Subperm
import Mathlib.Logic.Relation
import ScriptBind.Binding.Module

/-!
# ScriptBind.Proofs.Binding.Order

In which order the converters of a module come.

* `DependsOn` - what an item names as a dependency.
* `AfterDeps` - items in the order in which they were finished, the last one first: each after its
  dependencies, unless one of them leads back to it.
* `Visit.During` - the state of a visit while some items are begun and not finished.
* `meets_visit` - a visit meets its item and finishes all that it begins.
* `Bindings.perm_order_and_idxOf_lt` - the order of the converters of a module.
-/

namespace ScriptBind

open Relation (ReflTransGen)

variable {table : List (List Nat)} {i d : Nat}

/-- Also of dependencies that do not exist. -/
def DependsOn (table : List (List Nat)) (i d : Nat) : Prop :=
  ∃ deps, table[i]? = some deps ∧ d ∈ deps

theorem mem_depsIn_iff : d ∈ depsIn table i ↔ DependsOn table i d ∧ d < table.length := by
  rw [depsIn, List.mem_filter, decide_eq_true_iff, List.getD_eq_getElem?_getD, DependsOn]
  refine and_congr_left fun _ => ?_
  cases table[i]? with
  | none => simp
  | some deps => simp

/-! ### Finished items -/

/-- A dependency that leads back to its item need not come before it. -/
def AfterDeps (table : List (List Nat)) : List Nat → Prop
  | [] => True
  | i :: rest =>
    (∀ d ∈ depsIn table i, d ∈ rest ∨ ReflTransGen (DependsOn table) d i) ∧ AfterDeps table rest

namespace AfterDeps

theorem of_append {later earlier : List Nat} (h : AfterDeps table (later ++ earlier)) :
    AfterDeps table earlier := by
  induction later with
  | nil => exact h
  | cons i later ih => exact ih h.2

theorem idxOf_reverse_lt {done : List Nat} (h : AfterDeps table done) (hnodup : done.Nodup)
    (hi : i ∈ done) (hd : d ∈ depsIn table i) (hback : ¬ ReflTransGen (DependsOn table) d i) :
    done.reverse.idxOf d < done.reverse.idxOf i := by
  obtain ⟨later, earlier, rfl⟩ := List.append_of_mem hi
  have hmem : d ∈ earlier.reverse :=
    List.mem_reverse.2 ((h.of_append.1 d hd).resolve_right hback)
  have hnot : i ∉ earlier.reverse := fun hmem =>
    (List.nodup_cons.1 (List.nodup_append.1 hnodup).2.1).1 (List.mem_reverse.1 hmem)
  rw [List.reverse_append, List.reverse_cons, List.append_assoc,
    List.idxOf_append_of_mem hmem, List.idxOf_append_of_notMem hnot]
  exact Nat.lt_add_right _ (List.idxOf_lt_length_of_mem hmem)

end AfterDeps

/-! ### Visits -/

/-- Each item that was met is begun or finished, and is so once. -/
structure Visit.During (table : List (List Nat)) (begun : List Nat) (v : Visit) : Prop where
  perm : v.seen.Perm (begun ++ v.done)
  nodup : v.seen.Nodup
  bounded : ∀ i ∈ v.seen, i < table.length
  order : AfterDeps table v.done

variable {begun : List Nat} {v : Visit}

namespace Visit.During

theorem length_le (h : v.During table begun) : v.seen.length ≤ table.length := by
  have hsub : v.seen ⊆ List.range table.length := fun i hi => List.mem_range.2 (h.bounded i hi)
  simpa using (List.subperm_of_subset h.nodup hsub).length_le

theorem start (h : v.During table begun) (hi : i < table.length) (hnew : i ∉ v.seen) :
    Visit.During table (i :: begun) ⟨i :: v.seen, v.done⟩ where
  perm := h.perm.cons i
  nodup := List.nodup_cons.2 ⟨hnew, h.nodup⟩
  bounded := List.forall_mem_cons.2 ⟨hi, h.bounded⟩
  order := h.order

/-- Every dependency is finished or still begun, and what is begun leads to the item. -/
theorem finish (h : v.During table (i :: begun)) (hdeps : ∀ d ∈ depsIn table i, d ∈ v.seen)
    (hbegun : ∀ j ∈ begun, ReflTransGen (DependsOn table) j i) :
    Visit.During table begun ⟨v.seen, i :: v.done⟩ where
  perm := h.perm.trans List.perm_middle.symm
  nodup := h.nodup
  bounded := h.bounded
  order := by
    refine ⟨fun d hd => ?_, h.order⟩
    rcases List.mem_append.1 (h.perm.mem_iff.1 (hdeps d hd)) with hmem | hmem
    · rcases List.mem_cons.1 hmem with rfl | hmem
      · exact .inr .refl
      · exact .inr (hbegun d hmem)
    · exact .inl hmem

end Visit.During

/-- What a visit does: it meets `items`, loses nothing and finishes all that it begins. -/
structure Visit.Meets (table : List (List Nat)) (begun items : List Nat) (v v' : Visit) : Prop where
  during : v'.During table begun
  seen : v.seen ⊆ v'.seen
  size : v.seen.length ≤ v'.seen.length
  met : ∀ i ∈ items, i ∈ v'.seen

/-- One visit after the other. -/
theorem meets_foldl (begun : List Nat) (step : Visit → Nat → Visit) {k : Nat} (items : List Nat)
    (hstep : ∀ i ∈ items, ∀ v : Visit, v.During table begun → k ≤ v.seen.length →
      v.Meets table begun [i] (step v i)) : ∀ {v : Visit}, v.During table begun →
    k ≤ v.seen.length → v.Meets table begun items (items.foldl step v) := by
  induction items with
  | nil => exact fun hv _ => ⟨hv, List.Subset.refl _, Nat.le_refl _, List.forall_mem_nil _⟩
  | cons i rest ih =>
    intro v hv hk
    have hfirst := hstep i List.mem_cons_self v hv hk
    have hrest := ih (fun j hj => hstep j (List.mem_cons_of_mem i hj)) hfirst.during
      (Nat.le_trans hk hfirst.size)
    refine ⟨hrest.during, List.Subset.trans hfirst.seen hrest.seen,
      Nat.le_trans hfirst.size hrest.size, List.forall_mem_cons.2 ⟨?_, hrest.met⟩⟩
    exact hrest.seen (hfirst.met i (List.mem_singleton_self i))

/-- By induction on the bound: each nested visit has begun one item more, so that the bound is high
enough as long as it and the items met are more than all items. -/
theorem meets_visit : ∀ (fuel : Nat) (begun : List Nat) (i : Nat) (v : Visit),
    v.During table begun → i < table.length →
    (∀ j ∈ begun, ReflTransGen (DependsOn table) j i) → table.length < fuel + v.seen.length →
    v.Meets table begun [i] (visit (depsIn table) fuel i v) := by
  intro fuel
  induction fuel with
  | zero =>
    intro begun i v hv _ _ hfuel
    have := hv.length_le
    omega
  | succ fuel ih =>
    intro begun i v hv hi hbegun hfuel
    rw [visit]
    split
    · rename_i hseen
      have hmem : i ∈ v.seen := List.contains_iff_mem.1 hseen
      exact ⟨hv, List.Subset.refl _, Nat.le_refl _, fun j hj => List.mem_singleton.1 hj ▸ hmem⟩
    · rename_i hnew
      have hnew : i ∉ v.seen := fun hmem => hnew (List.contains_iff_mem.2 hmem)
      have hinside := meets_foldl (i :: begun) (fun v d => visit (depsIn table) fuel d v)
        (k := v.seen.length + 1) (depsIn table i)
        (fun d hd v' hv' hk => ?_) (hv.start hi hnew) (Nat.le_refl _)
      · obtain ⟨hmem, hseen⟩ := List.cons_subset.1 hinside.seen
        exact ⟨hinside.during.finish hinside.met hbegun, hseen, Nat.le_of_succ_le hinside.size,
          fun j hj => List.mem_singleton.1 hj ▸ hmem⟩
      · obtain ⟨hdep, hd⟩ := mem_depsIn_iff.1 hd
        refine ih (i :: begun) d v' hv' hd (List.forall_mem_cons.2 ⟨.single hdep, ?_⟩) (by omega)
        exact fun j hj => (hbegun j hj).tail hdep

theorem meets_dependencyOrder (table : List (List Nat)) : ∃ v : Visit,
    v.During table [] ∧ (∀ i < table.length, i ∈ v.seen) ∧
      dependencyOrder table = v.done.reverse := by
  have hstart : Visit.During table [] ⟨[], []⟩ :=
    ⟨.refl _, List.nodup_nil, List.forall_mem_nil _, trivial⟩
  have hmeets := meets_foldl [] (fun v i => visit (depsIn table) (table.length + 1) i v)
    (k := 0) (List.range table.length)
    (fun i hi v hv _ => meets_visit _ [] i v hv (List.mem_range.1 hi) (List.forall_mem_nil _)
      (by omega)) hstart (Nat.zero_le _)
  exact ⟨_, hmeets.during, fun i hi => hmeets.met i (List.mem_range.2 hi), rfl⟩

/-! ### The whole order -/

theorem perm_dependencyOrder (table : List (List Nat)) :
    (dependencyOrder table).Perm (List.range table.length) := by
  obtain ⟨v, hv, hall, hdone⟩ := meets_dependencyOrder table
  rw [hdone]
  refine (List.reverse_perm _).trans (hv.perm.symm.trans ?_)
  refine (List.perm_ext_iff_of_nodup hv.nodup List.nodup_range).2 fun i => ?_
  rw [List.mem_range]
  exact ⟨hv.bounded i, hall i⟩

theorem idxOf_dependencyOrder_lt (hdep : DependsOn table i d) (hd : d < table.length)
    (hback : ¬ ReflTransGen (DependsOn table) d i) :
    (dependencyOrder table).idxOf d < (dependencyOrder table).idxOf i := by
  obtain ⟨v, hv, hall, hdone⟩ := meets_dependencyOrder table
  have hperm : v.seen.Perm v.done := hv.perm
  obtain ⟨deps, hi, _⟩ := id hdep
  have hi : i < table.length := (List.getElem?_eq_some_iff.1 hi).1
  rw [hdone]
  exact hv.order.idxOf_reverse_lt (hperm.nodup_iff.1 hv.nodup) (hperm.mem_iff.1 (hall i hi))
    (mem_depsIn_iff.2 ⟨hdep, hd⟩) hback

namespace Bindings

/-- The converter lists the other one among those that it calls. -/
def Calls (b : Bindings) (i d : ConverterId) : Prop := ∃ e, b.converters[i]? = some e ∧ d ∈ e.deps

theorem dependsOn_converters (b : Bindings) : DependsOn (b.converters.map (·.deps)) = b.Calls := by
  funext i d
  rw [DependsOn, Calls, List.getElem?_map]
  cases b.converters[i]? <;> simp

/-- Each converter comes once. What it calls comes before it, unless that calls it, too, perhaps
through others. -/
theorem perm_order_and_idxOf_lt (b : Bindings) :
    b.order.Perm (List.range b.converters.length) ∧
      ∀ i d, b.Calls i d → d < b.converters.length → ¬ ReflTransGen b.Calls d i →
        b.order.idxOf d < b.order.idxOf i := by
  have hlength : (b.converters.map (·.deps)).length = b.converters.length := List.length_map _
  rw [order, ← dependsOn_converters, ← hlength]
  exact ⟨perm_dependencyOrder _, fun i d => idxOf_dependencyOrder_lt⟩

/-- The second and the third converter call each other, the second one calls itself, too, and the
first one calls the second one twice and one that does not exist. -/
def knotted : Bindings where
  shapes := .empty
  converters := [⟨0, 3, .toScript, "to_script_a", none, [1, 1, 9]⟩,
    ⟨1, 4, .toScript, "to_script_b", none, [2, 1]⟩, ⟨2, 5, .toScript, "to_script_c", none, [1]⟩]
  bridges := []
  aliases := []
  limitations := []
  exports := []

theorem perm_order_and_idxOf_lt_knotted :
    knotted.order = [2, 1, 0] ∧ knotted.Calls 0 1 ∧ ¬ ReflTransGen knotted.Calls 1 0 ∧
      knotted.order.idxOf 1 < knotted.order.idxOf 0 := by
  have hcalls : knotted.Calls 0 1 := ⟨_, rfl, by decide⟩
  have hclosed : ∀ i, ReflTransGen knotted.Calls 1 i → i = 1 ∨ i = 2 := by
    intro i hi
    induction hi with
    | refl => exact .inl rfl
    | tail _ hstep ih =>
      obtain ⟨e, he, hmem⟩ := hstep
      rcases ih with rfl | rfl
      · cases he
        exact (List.mem_pair.1 hmem).symm
      · cases he
        exact .inl (List.mem_singleton.1 hmem)
  have hback : ¬ ReflTransGen knotted.Calls 1 0 := fun h => by
    rcases hclosed 0 h with h | h <;> cases h
  exact ⟨by decide, hcalls, hback,
    (perm_order_and_idxOf_lt knotted).2 0 1 hcalls (by decide) hback⟩

end Bindings
end ScriptBind
