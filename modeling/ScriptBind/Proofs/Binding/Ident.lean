import Mathlib.Data.List.Nodup
import Mathlib.Data.List.Perm.Subperm
import ScriptBind.Binding.Generator

/-!
# ScriptBind.Proofs.Binding.Ident

A fresh identifier is not used yet.

* `Generator.candidate` - the identifiers that are tried for a base, one after another.
* `Generator.FirstFree.le_length` - there are more candidates than used identifiers.
* `Generator.freshIdent_spec` - the search ends at the first candidate that is not used.
-/

namespace ScriptBind
namespace Generator

/-- The base itself, and then the base with a number, from 2 on. -/
def candidate (base : String) : Nat → String
  | 0 => base
  | k + 1 => base ++ "_" ++ toString (k + 2)

theorem candidate_injective (base : String) : Function.Injective (candidate base) := by
  have hlonger : ∀ k, base ≠ candidate base (k + 1) := by
    intro k h
    have hlength := congrArg (fun s => s.toList.length) h
    simp [candidate] at hlength
  intro j k h
  cases j with
  | zero =>
    cases k with
    | zero => rfl
    | succ k => exact absurd h (hlonger k)
  | succ j =>
    cases k with
    | zero => exact absurd h.symm (hlonger j)
    | succ k =>
      rw [candidate, candidate, String.append_right_inj] at h
      have hdigits : Nat.toDigits 10 (j + 2) = Nat.toDigits 10 (k + 2) := by
        simpa [Nat.toString_eq_repr] using congrArg String.toList h
      have hsame := congrArg (Nat.ofDigitChars 10 · 0) hdigits
      simp only [Nat.ofDigitChars_ten_toDigits] at hsame
      omega

variable {used : List String} {base : String} {k : Nat}

/-- Candidate `k` is not used, and all before it are. -/
structure FirstFree (used : List String) (base : String) (k : Nat) : Prop where
  free : candidate base k ∉ used
  before : ∀ j < k, candidate base j ∈ used

/-- Each candidate takes a used identifier of its own. -/
theorem le_length_of_used (h : ∀ j < k, candidate base j ∈ used) : k ≤ used.length := by
  have hnodup := List.Nodup.map (candidate_injective base) (List.nodup_range (n := k))
  have hsubset : (List.range k).map (candidate base) ⊆ used := by
    intro ident hident
    obtain ⟨j, hj, rfl⟩ := List.mem_map.1 hident
    exact h j (List.mem_range.1 hj)
  have hlength := (List.subperm_of_subset hnodup hsubset).length_le
  rwa [List.length_map, List.length_range] at hlength

theorem FirstFree.le_length (h : FirstFree used base k) : k ≤ used.length :=
  le_length_of_used h.before

/-- After candidates that are all used. The bound is not what ends the search. -/
theorem freshFrom_spec : ∀ (fuel k : Nat), (∀ j < k + 1, candidate base j ∈ used) →
    used.length ≤ k + fuel →
    ∃ n, freshFrom used base (k + 2) fuel = candidate base n ∧ FirstFree used base n := by
  intro fuel
  induction fuel with
  | zero =>
    intro k hused hfuel
    exact absurd (le_length_of_used hused) (by omega)
  | succ fuel ih =>
    intro k hused hfuel
    by_cases hmem : candidate base (k + 1) ∈ used
    · have hused' : ∀ j < k + 1 + 1, candidate base j ∈ used := fun j hj =>
        (Nat.lt_succ_iff_lt_or_eq.1 hj).elim (hused j) fun heq => heq ▸ hmem
      obtain ⟨n, hn, hfree⟩ := ih (k + 1) hused' (by omega)
      refine ⟨n, ?_, hfree⟩
      rw [freshFrom, ← hn]
      exact if_pos (List.contains_iff_mem.2 hmem)
    · refine ⟨k + 1, ?_, hmem, hused⟩
      rw [freshFrom]
      exact if_neg fun h => hmem (List.contains_iff_mem.1 h)

theorem freshIdent_spec (used : List String) (base : String) :
    ∃ n, freshIdent used base = candidate base n ∧ FirstFree used base n := by
  rw [freshIdent]
  by_cases hbase : base ∈ used
  · rw [if_pos (List.contains_iff_mem.2 hbase)]
    refine freshFrom_spec used.length 0 (fun j hj => ?_) (by omega)
    obtain rfl : j = 0 := by omega
    exact hbase
  · rw [if_neg fun h => hbase (List.contains_iff_mem.1 h)]
    exact ⟨0, rfl, hbase, fun j hj => by omega⟩

theorem freshIdent_not_mem (used : List String) (base : String) :
    freshIdent used base ∉ used := by
  obtain ⟨n, hn, hfree⟩ := freshIdent_spec used base
  exact hn ▸ hfree.free

end Generator
end ScriptBind
