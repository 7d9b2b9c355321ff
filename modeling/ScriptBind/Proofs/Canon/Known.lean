import ScriptBind.Proofs.Canon.Sessions
import ScriptBind.Proofs.Canon.Throughout

/-!
# ScriptBind.Proofs.Canon.Known

Types whose names a session has already met. No body is looked at to normalize such a type, so the
call succeeds, whatever else of the graph is unfinished and whatever failed before.

* `Unfolding.Monomorphic` - without type parameters that could be in conflict.
* `TypeGraph.Unfolds.acyclic` - a type with a tree is not a part of itself.
* `Session.normalize_of_entered` - the call succeeds, and its answer has the tree of the node.
-/

namespace ScriptBind

open CanonM (Meets)
open Unfolding (Throughout)
open Relation (TransGen)

/-! ### Functions without type parameters -/

namespace Unfolding

def typeParams : Unfolding → List String
  | .func _ _ _ typeParams => typeParams
  | _ => []

/-- The functions that stand in the root of a tree. -/
def functions : Unfolding → List Unfolding
  | .func params results variadic typeParams => [.func params results variadic typeParams]
  | .interface methods => methods.map (·.2)
  | _ => []

def Monomorphic (u : Unfolding) : Prop := ∀ f ∈ u.functions, f.typeParams = []

end Unfolding

section Functions

variable {f : TypeId → Option Unfolding} {u : Unfolding}

theorem FuncSig.typeParams_of_unfoldWith {sig : FuncSig} (h : sig.unfoldWith f = some u) :
    u.typeParams = sig.allTypeParams := by
  obtain ⟨params, results, _, _, rfl⟩ := FuncSig.unfoldWith_eq_some_iff.1 h
  rfl

theorem TypeKind.exists_function {kind : TypeKind} (h : kind.unfoldWith f = some u)
    {sig : FuncSig} (hsig : sig ∈ kind.sigs) : ∃ w ∈ u.functions, sig.unfoldWith f = some w := by
  cases kind with
  | func own =>
    obtain rfl := List.mem_singleton.1 hsig
    obtain ⟨params, results, _, _, rfl⟩ := FuncSig.unfoldWith_eq_some_iff.1 h
    exact ⟨_, List.mem_singleton_self _, h⟩
  | interface methods =>
    cases methods with
    | nil => cases hsig
    | cons m rest =>
      obtain ⟨found, hfound, rfl⟩ :=
        (TypeKind.unfoldWith_interface_iff (List.cons_ne_nil m rest)).1 h
      obtain ⟨m', hm', rfl⟩ := List.mem_map.1 hsig
      obtain ⟨p, hmem, _, hp⟩ := exists_of_mem_forall₂ hfound hm'
      exact ⟨p.2, List.mem_map.2 ⟨_, List.mem_mergeSort.2 hmem, rfl⟩, hp⟩
  | _ => cases hsig

/-- A conflict would have left type parameters in the tree. -/
theorem TypeKind.not_conflicts {kind : TypeKind} (h : kind.unfoldWith f = some u)
    (hu : u.Monomorphic) {sig : FuncSig} (hsig : sig ∈ kind.sigs) : ¬ sig.Conflicts := by
  rintro ⟨receiver, hreceiver, _, hown⟩
  obtain ⟨w, hw, hunfold⟩ := kind.exists_function h hsig
  have hnone := FuncSig.typeParams_of_unfoldWith hunfold
  rw [hu w hw, FuncSig.allTypeParams, hreceiver] at hnone
  have hempty : sig.typeParams.isEmpty = false := by simpa using hown
  simp only [hempty, Bool.false_eq_true, if_false] at hnone
  exact hown hnone.symm

end Functions

/-! ### Height -/

namespace TypeGraph

variable {g : TypeGraph} {a b : TypeId} {u : Unfolding}

theorem exists_unfoldIn_of_transGen (h : TransGen g.Inside a b) {depth : Nat}
    (hu : g.unfoldIn depth a = some u) : ∃ less < depth, ∃ v, g.unfoldIn less b = some v := by
  have hstep : ∀ {a b : TypeId} {depth : Nat} {u : Unfolding}, g.Inside a b →
      g.unfoldIn depth a = some u → ∃ less < depth, ∃ v, g.unfoldIn less b = some v := by
    rintro a b depth u ⟨kind, hkind, hnamed, hb⟩ hu
    obtain ⟨less, kind', rfl, hkind', hu⟩ := unfoldIn_eq_some_iff.1 hu
    cases hkind.symm.trans hkind'
    obtain ⟨v, hv, _⟩ := kind.exists_part hu hnamed hb
    exact ⟨less, Nat.lt_succ_self less, v, hv⟩
  induction h with
  | single hin => exact hstep hin hu
  | tail _ hin ih =>
    obtain ⟨less, hless, v, hv⟩ := ih
    obtain ⟨least, hleast, w, hw⟩ := hstep hin hv
    exact ⟨least, Nat.lt_trans hleast hless, w, hw⟩

theorem Unfolds.acyclic (h : g.Unfolds a u) : ¬ TransGen g.Inside a a := by
  intro hcycle
  obtain ⟨depth, h⟩ := h
  induction depth using Nat.strongRecOn generalizing u with
  | _ depth ih =>
    obtain ⟨less, hless, v, hv⟩ := exists_unfoldIn_of_transGen hcycle h
    exact ih less hless hv

end TypeGraph

/-! ### Calls -/

namespace Session

variable {g : TypeGraph} {s : Session} {type : TypeId} {u : Unfolding}

theorem Entered.inside {child : TypeId} (h : s.Entered g type) (hin : g.Inside type child) :
    s.Entered g child := fun id name hrest hname => h id name (.head hin hrest) hname

/-- The bound is high enough for what is inside the node. -/
theorem meets_normalizeIn_of_entered (g : TypeGraph) : ∀ (fuel : Nat) (register : Bool)
    (type : TypeId) (u : Unfolding) (s : Session), s.Valid g → g.Unfolds type u →
      u.Throughout Unfolding.Monomorphic → s.Entered g type →
      height g.Inside g.size type < fuel →
      Meets g s (normalizeIn g fuel register type) (fun _ => False) fun id s' =>
        s'.Represents g type id := by
  intro fuel
  induction fuel with
  | zero =>
    intro register type u s _ _ _ _ hheight
    exact absurd hheight (Nat.not_lt_zero _)
  | succ fuel ih =>
    intro register type u s hs hu hmono hentered hheight
    refine meets_normalizeIn_succ hs (fun hnone => ?_) (fun child hin register s' hs' hgrows => ?_)
      (fun kind sig hnode hsig hconflicts _ _ _ => ?_) fun name body typeParams _ hnode hname => ?_
    · obtain ⟨kind, _, hnode, _⟩ := hu.exists_kind
      rw [hnode] at hnone
      cases hnone
    · obtain ⟨v, hv, hvmono⟩ := hu.throughout_of_inside hmono hin
      have hlt : type < g.size := by
        obtain ⟨kind, hnode, _⟩ := hin
        exact TypeGraph.lt_size_of_node hnode
      have hless := height_lt hlt hin hv.acyclic
      refine ih register child v s' hs' hv hvmono ((hentered.inside hin).mono hgrows.extend) ?_
      exact Nat.lt_of_lt_of_le hless (Nat.le_of_lt_succ hheight)
    · obtain ⟨kind', depth, hnode', hunfold⟩ := hu.exists_kind
      cases hnode.symm.trans hnode'
      exact kind.not_conflicts hunfold hmono.root hsig hconflicts
    · obtain ⟨id, underlying, hid⟩ := hentered type name .refl ⟨body, typeParams, hnode⟩
      exact absurd hid (findNamed_eq_none_iff.1 hname id underlying)

theorem normalize_of_entered (hs : s.Valid g) (hu : g.Unfolds type u)
    (hmono : u.Throughout Unfolding.Monomorphic) (hentered : s.Entered g type) :
    ∃ id s', normalize g type s = (.ok id, s') ∧ s'.Valid g ∧ s.Extends s' ∧
      s'.Represents g type id := by
  have hheight : height g.Inside g.size type < (g.size + 1) * (g.size + 1) := by
    have hle := height_le (n := g.size) hu.acyclic
    exact Nat.lt_of_le_of_lt hle (Nat.lt_of_lt_of_le (Nat.lt_succ_self _)
      (Nat.le_mul_of_pos_left _ (Nat.succ_pos _)))
  have hmeets := meets_normalizeIn_of_entered g _ true type u s hs hu hmono hentered hheight
  change Meets g s (normalize g type) _ _ at hmeets
  cases hrun : (normalize g type s).1 with
  | error e => exact (hmeets.error e hrun).elim
  | ok id => exact ⟨id, _, Prod.ext hrun rfl, hmeets.valid, hmeets.extend, (hmeets.ok id hrun).2⟩

end Session
end ScriptBind
