import ScriptBind.Proofs.Binding.Convertible

/-!
# ScriptBind.Proofs.Canon.Throughout

What holds of a type and of all types that it is made of, down to the names. What stands behind a
name is not part of a type.

* `Unfolding.Throughout` - a property of a tree and of all its parts.
* `TypeGraph.Unfolds.exists_inside` - the trees of the nodes inside a node.
* `Session.Within` - the canonical types that a canonical type is made of.
* `Session.Interned.throughout_iff` - what holds throughout the tree of a canonical type.
-/

namespace ScriptBind

open Relation (ReflTransGen)

/-! ### Trees -/

namespace Unfolding

def parts : Unfolding → List Unfolding
  | .map key value => [key, value]
  | u => u.inner

/-- The property holds of the tree and of its parts at any depth. -/
inductive Throughout (P : Unfolding → Prop) : Unfolding → Prop
  | mk {u : Unfolding} : P u → (∀ v ∈ u.parts, Throughout P v) → Throughout P u

namespace Throughout

variable {P Q : Unfolding → Prop} {u v : Unfolding}

theorem root (h : Throughout P u) : P u := by
  cases h with
  | mk hu _ => exact hu

theorem part (h : Throughout P u) (hv : v ∈ u.parts) : Throughout P v := by
  cases h with
  | mk _ hparts => exact hparts v hv

theorem mono (h : Throughout P u) (hPQ : ∀ v, P v → Q v) : Throughout Q u := by
  induction h with
  | mk hu _ ih => exact .mk (hPQ _ hu) ih

theorem and (h : Throughout P u) (h' : Throughout Q u) : Throughout (fun v => P v ∧ Q v) u := by
  induction h with
  | mk hu _ ih => exact .mk ⟨hu, h'.root⟩ fun v hv => ih v hv (h'.part hv)

end Throughout
end Unfolding

open Unfolding (Throughout)

/-! ### Graph nodes -/

section Parts

variable {f : TypeId → Option Unfolding} {u : Unfolding} {child : TypeId}

theorem FuncSig.exists_operand {sig : FuncSig} (h : sig.unfoldWith f = some u)
    (hchild : child ∈ sig.refs) : ∃ v ∈ u.operands, f child = some v := by
  obtain ⟨params, results, hparams, hresults, rfl⟩ := FuncSig.unfoldWith_eq_some_iff.1 h
  rcases List.mem_append.1 hchild with hchild | hchild
  · obtain ⟨v, hv, hfound⟩ := exists_of_mem_mapM hparams hchild
    exact ⟨v, List.mem_append_left _ hv, hfound⟩
  · obtain ⟨v, hv, hfound⟩ := exists_of_mem_mapM hresults hchild
    exact ⟨v, List.mem_append_right _ hv, hfound⟩

/-- The tree of what a node refers to is a part of its tree; an alias has no tree of its own. -/
theorem TypeKind.exists_part {kind : TypeKind} (h : kind.unfoldWith f = some u)
    (hnamed : kind.isNamed = false) (hchild : child ∈ kind.refs) :
    ∃ v, f child = some v ∧ (v ∈ u.parts ∨ v = u) := by
  cases kind with
  | slice element | pointer element | array length element | chan direction element =>
    obtain ⟨v, hv, h⟩ := Option.bind_eq_some_iff.1 h
    cases h
    exact ⟨v, List.mem_singleton.1 hchild ▸ hv, .inl (List.mem_singleton_self v)⟩
  | map key value =>
    obtain ⟨k, hk, h⟩ := Option.bind_eq_some_iff.1 h
    obtain ⟨v, hv, h⟩ := Option.bind_eq_some_iff.1 h
    cases h
    rcases List.mem_cons.1 hchild with rfl | hchild
    · exact ⟨k, hk, .inl List.mem_cons_self⟩
    · exact ⟨v, List.mem_singleton.1 hchild ▸ hv, .inl (List.mem_cons_of_mem _ List.mem_cons_self)⟩
  | func sig =>
    obtain ⟨v, hv, hfound⟩ := sig.exists_operand h hchild
    obtain ⟨params, results, _, _, rfl⟩ := FuncSig.unfoldWith_eq_some_iff.1 h
    exact ⟨v, hfound, .inl hv⟩
  | interface methods =>
    cases methods with
    | nil => cases hchild
    | cons m rest =>
      obtain ⟨found, hfound, rfl⟩ :=
        (TypeKind.unfoldWith_interface_iff (List.cons_ne_nil m rest)).1 h
      obtain ⟨m', hm', hchild⟩ := List.mem_flatMap.1 hchild
      obtain ⟨p, hmem, _, hp⟩ := exists_of_mem_forall₂ hfound hm'
      obtain ⟨v, hv, hfound⟩ := m'.sig.exists_operand hp hchild
      exact ⟨v, hfound, .inl (List.mem_flatMap.2 ⟨p, List.mem_mergeSort.2 hmem, hv⟩)⟩
  | struct fields =>
    obtain ⟨found, hfound, rfl⟩ := TypeKind.unfoldWith_struct_iff.1 h
    obtain ⟨field, hfield, rfl⟩ := List.mem_map.1 hchild
    obtain ⟨p, hmem, _, hp⟩ := exists_of_mem_forall₂ hfound hfield
    exact ⟨p.2, hp, .inl (List.mem_map.2 ⟨_, hmem, rfl⟩)⟩
  | aliasOf name target => exact ⟨u, List.mem_singleton.1 hchild ▸ h, .inr rfl⟩
  | named name body typeParams => cases hnamed
  | _ => cases hchild

end Parts

namespace TypeGraph

variable {g : TypeGraph} {P : Unfolding → Prop} {a b : TypeId} {u : Unfolding}

theorem Unfolds.exists_inside (h : g.Unfolds a u) (hin : g.Inside a b) :
    ∃ v, g.Unfolds b v ∧ (v ∈ u.parts ∨ v = u) := by
  obtain ⟨kind, hkind, hnamed, hb⟩ := hin
  obtain ⟨depth, h⟩ := h.exists_unfoldWith hkind
  obtain ⟨v, hv, hpart⟩ := kind.exists_part h hnamed hb
  exact ⟨v, ⟨depth, hv⟩, hpart⟩

theorem Unfolds.throughout_of_inside (h : g.Unfolds a u) (hP : u.Throughout P)
    (hin : g.Inside a b) : ∃ v, g.Unfolds b v ∧ v.Throughout P := by
  obtain ⟨v, hv, hpart | rfl⟩ := h.exists_inside hin
  · exact ⟨v, hv, hP.part hpart⟩
  · exact ⟨v, hv, hP⟩

theorem Unfolds.throughout_of_insides (h : g.Unfolds a u) (hP : u.Throughout P)
    (hin : ReflTransGen g.Inside a b) : ∃ v, g.Unfolds b v ∧ v.Throughout P := by
  induction hin with
  | refl => exact ⟨u, h, hP⟩
  | tail _ hstep ih =>
    obtain ⟨v, hv, hvP⟩ := ih
    exact hv.throughout_of_inside hvP hstep

end TypeGraph

/-! ### Canonical types -/

theorem CanonKind.parts_unfoldWith (unfold : CanonId → Unfolding) (kind : CanonKind) :
    (kind.unfoldWith unfold).parts = kind.refs.map unfold := by
  cases kind with
  | func f => simp [unfoldWith, CanonFunc.unfoldWith, Unfolding.parts, Unfolding.inner, refs,
      CanonFunc.refs]
  | interface methods =>
    simp [unfoldWith, CanonFunc.unfoldWith, Unfolding.parts, Unfolding.inner, Unfolding.operands,
      refs, CanonFunc.refs, List.flatMap_map, List.map_flatMap]
  | struct aliasName fields => simp [unfoldWith, Unfolding.parts, Unfolding.inner, refs]
  | _ => rfl

namespace Session

variable {s : Session} {c : CanonId}

/-- The second type is the first, or a part of it at any depth. -/
def Within (s : Session) : CanonId → CanonId → Prop :=
  ReflTransGen fun a b => ∃ kind, s.kind? a = some kind ∧ b ∈ kind.refs

theorem Interned.lt_size_of_within (h : s.Interned) (hc : c < s.size) {a : CanonId}
    (ha : s.Within c a) : a < s.size := by
  induction ha with
  | refl => exact hc
  | tail _ hstep _ =>
    obtain ⟨kind, hkind, hb⟩ := hstep
    exact h.refs_lt_size hkind _ hb

theorem Interned.throughout_iff (h : s.Interned) {P : Unfolding → Prop} (hc : c < s.size) :
    (s.unfold c).Throughout P ↔ ∀ a, s.Within c a → P (s.unfold a) := by
  constructor
  · intro hP a ha
    suffices (s.unfold a).Throughout P from this.root
    induction ha with
    | refl => exact hP
    | tail _ hstep ih =>
      obtain ⟨kind, hkind, hb⟩ := hstep
      refine ih.part ?_
      rw [h.unfold_eq hkind, CanonKind.parts_unfoldWith]
      exact List.mem_map_of_mem hb
  · intro hP
    induction c using Nat.strongRecOn with
    | _ c ih =>
      obtain ⟨kind, hkind⟩ := exists_kind? hc
      refine .mk (hP c .refl) fun v hv => ?_
      rw [h.unfold_eq hkind, CanonKind.parts_unfoldWith] at hv
      obtain ⟨r, hr, rfl⟩ := List.mem_map.1 hv
      have hbelow := h.below c kind hkind r hr
      exact ih r hbelow (Nat.lt_trans hbelow hc) fun a ha => hP a (.head ⟨kind, hkind, hr⟩ ha)

end Session
end ScriptBind
