import ScriptBind.Proofs.Canon.Unfolding

/-!
# ScriptBind.Proofs.TypeGraph.Later

How a type graph grows: nodes are added, and types that were declared only are defined.

* `TypeGraph.Extends` - the graph at a later time.
* `TypeGraph.Extends.unfolds` - what a node means does not change any more.
-/

namespace ScriptBind

/-- The node at a later time. -/
def TypeKind.Completes (kind later : TypeKind) : Prop :=
  later = kind ∨ ∃ name body typeParams,
    kind = .named name none typeParams ∧ later = .named name (some body) typeParams

namespace TypeKind

variable {kind later last : TypeKind}

theorem Completes.refl (kind : TypeKind) : kind.Completes kind := .inl rfl

theorem Completes.trans (h : kind.Completes later) (h' : later.Completes last) :
    kind.Completes last := by
  rcases h with rfl | ⟨name, body, typeParams, rfl, rfl⟩
  · exact h'
  · rcases h' with rfl | ⟨_, _, _, h', _⟩
    · exact .inr ⟨name, body, typeParams, rfl, rfl⟩
    · cases h'

theorem Completes.unfoldWith_eq (h : kind.Completes later) (unfold : TypeId → Option Unfolding) :
    later.unfoldWith unfold = kind.unfoldWith unfold := by
  rcases h with rfl | ⟨name, body, typeParams, rfl, rfl⟩ <;> rfl

end TypeKind

namespace TypeGraph

def Extends (g g' : TypeGraph) : Prop :=
  ∀ (id : TypeId) kind, g.nodes[id]? = some kind →
    ∃ later, g'.nodes[id]? = some later ∧ kind.Completes later

variable {g g' g'' : TypeGraph} {id : TypeId} {kind : TypeKind}

namespace Extends

theorem refl (g : TypeGraph) : g.Extends g := fun _ kind h => ⟨kind, h, .refl kind⟩

theorem trans (h : g.Extends g') (h' : g'.Extends g'') : g.Extends g'' := by
  intro id kind hkind
  obtain ⟨later, hlater, hcompletes⟩ := h id kind hkind
  obtain ⟨last, hlast, hcompletes'⟩ := h' id later hlater
  exact ⟨last, hlast, hcompletes.trans hcompletes'⟩

theorem unfoldIn (h : g.Extends g') {depth : Nat} : ∀ {id : TypeId} {u : Unfolding},
    g.unfoldIn depth id = some u → g'.unfoldIn depth id = some u := by
  induction depth with
  | zero =>
    intro id u hu
    cases hu
  | succ depth ih =>
    intro id u hu
    obtain ⟨_, kind, ⟨⟩, hkind, hu⟩ := unfoldIn_eq_some_iff.1 hu
    obtain ⟨later, hlater, hcompletes⟩ := h id kind hkind
    refine unfoldIn_eq_some_iff.2 ⟨_, later, rfl, hlater, ?_⟩
    rw [hcompletes.unfoldWith_eq]
    exact TypeKind.unfoldWith_mono (fun _ _ => ih) hu

theorem unfolds (h : g.Extends g') {u : Unfolding} (hu : g.Unfolds id u) : g'.Unfolds id u :=
  hu.imp fun _ => h.unfoldIn

end Extends

/-! ### Ways to extend a graph -/

theorem node_add (g : TypeGraph) (kind : TypeKind) :
    (g.add kind).1.nodes[(g.add kind).2]? = some kind :=
  Array.getElem?_push_size

theorem extends_push (kind : TypeKind) (names : List (String × TypeId)) :
    g.Extends ⟨g.nodes.push kind, names⟩ := by
  intro id found hfound
  obtain ⟨hlt, _⟩ := Array.getElem?_eq_some_iff.1 hfound
  refine ⟨found, ?_, .refl found⟩
  rw [Array.getElem?_push, if_neg (Nat.ne_of_lt hlt), hfound]

theorem extends_add (g : TypeGraph) (kind : TypeKind) : g.Extends (g.add kind).1 :=
  extends_push kind g.names

/-- A type that was declared only gets its body. -/
theorem exists_of_define {body : TypeId} (h : g.define id body = .ok g') :
    ∃ name typeParams, g.nodes[id]? = some (.named name none typeParams) ∧
      g' = ⟨g.nodes.setIfInBounds id (.named name (some body) typeParams), g.names⟩ := by
  rw [define] at h
  split at h
  · cases h
  · split at h
    · rename_i name typeParams hnode
      cases h
      exact ⟨name, typeParams, hnode, rfl⟩
    · cases h
    · cases h
    · cases h

/-- Nothing else changes. -/
theorem define_eq_ok {body : TypeId} (h : g.define id body = .ok g') : g.Extends g' ∧
    g'.names = g.names := by
  obtain ⟨name, typeParams, hnode, rfl⟩ := exists_of_define h
  refine ⟨fun other kind hkind => ?_, rfl⟩
  obtain ⟨hlt, _⟩ := Array.getElem?_eq_some_iff.1 hkind
  rw [Array.getElem?_setIfInBounds]
  by_cases hid : id = other
  · subst hid
    cases hnode.symm.trans hkind
    exact ⟨_, by rw [if_pos rfl, if_pos hlt], .inr ⟨name, body, typeParams, rfl, rfl⟩⟩
  · exact ⟨kind, by rw [if_neg hid, hkind], .refl kind⟩

theorem node_define {body : TypeId} {name : String} {typeParams : List String}
    (hnode : g.nodes[id]? = some (.named name none typeParams))
    (h : g.define id body = .ok g') :
    g'.nodes[id]? = some (.named name (some body) typeParams) := by
  obtain ⟨_, _, hnode', rfl⟩ := exists_of_define h
  cases hnode.symm.trans hnode'
  obtain ⟨hlt, _⟩ := Array.getElem?_eq_some_iff.1 hnode
  rw [Array.getElem?_setIfInBounds, if_pos rfl, if_pos hlt]

theorem declare_eq_ok {name : String} {typeParams : List String}
    (h : g.declare name typeParams = .ok (g', id)) :
    g.lookup name = none ∧ g' = (g.addName name (.named name none typeParams)).1 ∧
      g'.nodes[id]? = some (.named name none typeParams) ∧ g'.names = g.names ++ [(name, id)] := by
  rw [declare] at h
  split at h
  · cases h
  · cases h
    exact ⟨‹_›, rfl, Array.getElem?_push_size, rfl⟩

theorem addAlias_eq_ok {name : String} {target : TypeId}
    (h : g.addAlias name target = .ok (g', id)) :
    g.lookup name = none ∧ g' = (g.addName name (.aliasOf name target)).1 ∧
      g'.nodes[id]? = some (.aliasOf name target) ∧ g'.names = g.names ++ [(name, id)] := by
  rw [addAlias] at h
  split at h
  · cases h
  · split at h
    · cases h
    · cases h
      exact ⟨‹_›, rfl, Array.getElem?_push_size, rfl⟩

end TypeGraph
end ScriptBind
