import Mathlib.Data.Fintype.Card
import Mathlib.Logic.Relation

/-!
# ScriptBind.Proofs.Height

How far a relation between positions leads.

* `height` - the number of positions below a limit that one position leads to, itself included.
* `height_lt` - it falls with each step to a position that does not lead back to itself.
-/

namespace ScriptBind

variable {r : Nat → Nat → Prop} {n a b : Nat}

open Classical in
noncomputable def height (r : Nat → Nat → Prop) (n a : Nat) : Nat :=
  if a < n then (Finset.univ.filter fun b : Fin n => Relation.TransGen r a b).card + 1 else 0

theorem height_le (ha : ¬ Relation.TransGen r a a) : height r n a ≤ n := by
  classical
  rw [height]
  split
  · rename_i hlt
    have hcard : (Finset.univ.filter fun b : Fin n => Relation.TransGen r a b).card <
        (Finset.univ : Finset (Fin n)).card :=
      Finset.card_lt_card (Finset.filter_ssubset.2 ⟨⟨a, hlt⟩, Finset.mem_univ _, ha⟩)
    rwa [Finset.card_fin] at hcard
  · exact Nat.zero_le n

theorem height_lt (ha : a < n) (hab : r a b) (hb : ¬ Relation.TransGen r b b) :
    height r n b < height r n a := by
  classical
  rw [height, height, if_pos ha]
  split
  · rename_i hlt
    refine Nat.succ_lt_succ (Finset.card_lt_card ?_)
    refine (Finset.ssubset_iff_of_subset fun c hc => ?_).2 ⟨⟨b, hlt⟩, ?_, ?_⟩
    · rw [Finset.mem_filter] at hc ⊢
      exact ⟨hc.1, .head hab hc.2⟩
    · exact Finset.mem_filter.2 ⟨Finset.mem_univ _, .single hab⟩
    · exact fun hmem => hb (Finset.mem_filter.1 hmem).2
  · exact Nat.succ_pos _

end ScriptBind
