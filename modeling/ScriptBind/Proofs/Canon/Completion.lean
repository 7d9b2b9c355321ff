import ScriptBind.Proofs.Canon.Throughout
import ScriptBind.Proofs.Canon.Traversal
import ScriptBind.Proofs.TypeGraph.Later

/-!
# ScriptBind.Proofs.Canon.Completion

A session and a graph that grows while the session goes on. A type with a tree means the same and
has the same names in it later, so what the session remembers stays right.

* `TypeGraph.Extends.insides_of_later` - the parts of a type with a tree.
* `Session.Valid.completed` - a session stays valid when its graph grows.
-/

namespace ScriptBind

open Relation (ReflTransGen)

/-! ### Parts of a type that has a tree -/

namespace TypeGraph

variable {g g' : TypeGraph} {a b : TypeId} {name : String} {u : Unfolding}

theorem Unfolds.exists_node (h : g.Unfolds a u) : ∃ kind, g.nodes[a]? = some kind := by
  obtain ⟨kind, _, hkind, _⟩ := h.exists_kind
  exact ⟨kind, hkind⟩

namespace Extends

variable (h : g.Extends g')

include h

theorem isNamed (hname : g.IsNamed a name) : g'.IsNamed a name := by
  obtain ⟨body, typeParams, hnode⟩ := hname
  obtain ⟨later, hlater, rfl | ⟨_, body', _, heq, rfl⟩⟩ := h a _ hnode
  · exact ⟨body, typeParams, hlater⟩
  · cases heq
    exact ⟨some body', typeParams, hlater⟩

theorem uniqueNames (hunique : g'.UniqueNames) : g.UniqueNames :=
  fun a b name ha hb => hunique a b name (h.isNamed ha) (h.isNamed hb)

variable {kind : TypeKind} (hnode : g.nodes[a]? = some kind)

include hnode

/-- A node that was there before. -/
theorem isNamed_of_later (hname : g'.IsNamed a name) : g.IsNamed a name := by
  obtain ⟨body, typeParams, hname⟩ := hname
  obtain ⟨later, hlater, rfl | ⟨_, _, _, rfl, rfl⟩⟩ := h a kind hnode
  · cases hlater.symm.trans hname
    exact ⟨body, typeParams, hnode⟩
  · cases hlater.symm.trans hname
    exact ⟨none, typeParams, hnode⟩

theorem node_of_later {later : TypeKind} (hlater : g'.nodes[a]? = some later)
    (hnamed : later.isNamed = false) : g.nodes[a]? = some later := by
  obtain ⟨_, hlater', rfl | ⟨_, _, _, rfl, rfl⟩⟩ := h a kind hnode
  · exact (hlater'.symm.trans hlater) ▸ hnode
  · cases hlater'.symm.trans hlater
    cases hnamed

theorem inside_of_later (hin : g'.Inside a b) : g.Inside a b := by
  obtain ⟨later, hlater, hnamed, hb⟩ := hin
  exact ⟨later, h.node_of_later hnode hlater hnamed, hnamed, hb⟩

theorem aliasHop_of_later (hop : g'.AliasHop a b) : g.AliasHop a b := by
  obtain ⟨name, hlater⟩ := hop
  exact ⟨name, h.node_of_later hnode hlater rfl⟩

end Extends

/-- A type with a tree has the same names in it later. -/
theorem Extends.insides_of_later (h : g.Extends g') (hu : g.Unfolds a u)
    (hin : ReflTransGen g'.Inside a b) : ReflTransGen g.Inside a b ∧ ∃ v, g.Unfolds b v := by
  induction hin with
  | refl => exact ⟨.refl, u, hu⟩
  | tail _ hstep ih =>
    obtain ⟨hin, v, hv⟩ := ih
    obtain ⟨_, hnode⟩ := hv.exists_node
    have hstep := h.inside_of_later hnode hstep
    obtain ⟨w, hw, _⟩ := hv.exists_inside hstep
    exact ⟨hin.tail hstep, w, hw⟩

theorem Extends.aliasHops_of_later (h : g.Extends g') (hu : g.Unfolds a u)
    (hops : ReflTransGen g'.AliasHop a b) : ReflTransGen g.AliasHop a b ∧ ∃ v, g.Unfolds b v := by
  induction hops with
  | refl => exact ⟨.refl, u, hu⟩
  | tail _ hstep ih =>
    obtain ⟨hops, v, hv⟩ := ih
    obtain ⟨_, hnode⟩ := hv.exists_node
    have hstep := h.aliasHop_of_later hnode hstep
    obtain ⟨w, hw, _⟩ := hv.exists_inside hstep.inside
    exact ⟨hops.tail hstep, w, hw⟩

/-! ### Bodies -/

variable {last body : TypeId}

theorem Behind.exists_unfolds (h : g.Behind a last) (hu : g.Unfolds last u) :
    ∃ v, g.Unfolds a v := by
  obtain ⟨hops, _⟩ := h
  induction hops using ReflTransGen.head_induction_on with
  | refl => exact ⟨u, hu⟩
  | head hop _ ih =>
    rcases hop with ⟨name, typeParams, hnode⟩ | ⟨name, hnode⟩
    · exact ⟨.named name, IsNamed.unfolds ⟨_, typeParams, hnode⟩⟩
    · obtain ⟨v, depth, hv⟩ := ih
      exact ⟨v, unfolds_of_unfoldWith hnode hv⟩

/-- A named type with something behind it has a body, and this leads there. -/
theorem Behind.exists_body (h : g.Behind a last) (hname : g.IsNamed a name) :
    ∃ body, g.BodyHop a body ∧ g.Behind body last := by
  obtain ⟨_, _, hnode⟩ := hname
  rcases h.hops.cases_head with rfl | ⟨b, hop | ⟨_, hop⟩, hops⟩
  · obtain ⟨kind, hkind, hnamed, _⟩ := h.plain
    cases hnode.symm.trans hkind
    cases hnamed
  · exact ⟨b, hop, hops, h.plain⟩
  · cases hnode.symm.trans hop

namespace Extends

variable (h : g.Extends g')

include h

/-- Whatever is not a named type without a body stays as it is. -/
theorem node_eq {kind : TypeKind} (hnode : g.nodes[a]? = some kind)
    (hkind : ∀ name typeParams, kind ≠ .named name none typeParams) :
    g'.nodes[a]? = some kind := by
  obtain ⟨later, hlater, rfl | ⟨name, _, typeParams, rfl, _⟩⟩ := h a kind hnode
  · exact hlater
  · exact absurd rfl (hkind name typeParams)

theorem bodyHop (hop : g.BodyHop a b) : g'.BodyHop a b := by
  obtain ⟨name, typeParams, hnode⟩ := hop
  exact ⟨name, typeParams, h.node_eq hnode (by simp)⟩

theorem aliasHop (hop : g.AliasHop a b) : g'.AliasHop a b := by
  obtain ⟨name, hnode⟩ := hop
  exact ⟨name, h.node_eq hnode (by simp)⟩

theorem behind (hlast : g.Behind a last) : g'.Behind a last := by
  obtain ⟨hops, kind, hkind, hnamed, halias⟩ := hlast
  refine ⟨hops.lift id fun _ _ hop => hop.imp h.bodyHop h.aliasHop, kind, h.node_eq hkind ?_,
    hnamed, halias⟩
  rintro name typeParams rfl
  cases hnamed

end Extends
end TypeGraph

/-! ### Sessions -/

namespace Session

variable {g g' : TypeGraph} {s s' : Session} {type : TypeId} {name : String}

theorem Entered.completed {u : Unfolding} (h : s.Entered g type) (hext : g.Extends g')
    (hu : g.Unfolds type u) : s.Entered g' type := by
  intro id other hin hother
  obtain ⟨hin, v, hv⟩ := hext.insides_of_later hu hin
  obtain ⟨_, hnode⟩ := hv.exists_node
  exact h id other hin (hext.isNamed_of_later hnode hother)

theorem Represents.completed {id : CanonId} (h : s.Represents g type id) (hext : g.Extends g') :
    s.Represents g' type id :=
  ⟨h.lt_size, hext.unfolds h.unfolds, h.entered.completed hext h.unfolds⟩

theorem Underlies.completed {id : CanonId} (h : s.Underlies g name id) (hext : g.Extends g') :
    s.Underlies g' name id := by
  refine ⟨h.lt_size, h.plain, fun hunique => ?_⟩
  obtain ⟨type, last, hname, hlast, hu⟩ := h.behind (hext.uniqueNames hunique)
  exact ⟨type, last, hext.isNamed hname, hext.behind hlast, hext.unfolds hu⟩

/-- A name with an underlying type had its body, which is there to stay. -/
theorem Valid.settled_completed (hs : s.Valid g) (hext : g.Extends g')
    (hunique : g'.UniqueNames) (hname : g'.IsNamed type name) (hresolved : s.Resolved name) :
    s.Settled g' type := by
  have hunique₀ := hext.uniqueNames hunique
  obtain ⟨id, u, hid⟩ := id hresolved
  obtain ⟨type₀, last, hname₀, hlast, hu⟩ := (hs.underlying id name u hid).behind hunique₀
  obtain rfl := hunique type₀ type name (hext.isNamed hname₀) hname
  obtain ⟨hentered, hdirect⟩ := hs.settled hunique₀ type₀ name hname₀ hresolved
  obtain ⟨body, hbody, hbehind⟩ := hlast.exists_body hname₀
  obtain ⟨v, hv⟩ := hbehind.exists_unfolds hu
  have hbody_eq : ∀ b, g'.BodyHop type₀ b → b = body := fun b hb =>
    TypeGraph.hop_unique (.inl hb) (.inl (hext.bodyHop hbody))
  refine ⟨fun b hb => ?_, fun b other hdef hother => ?_⟩
  · rw [hbody_eq b hb]
    exact (hentered body hbody).completed hext hv
  · obtain ⟨b', found, hb', hops, hfound⟩ := hdef
    obtain rfl := hbody_eq b' hb'
    obtain ⟨hops, w, hw⟩ := hext.aliasHops_of_later hv hops
    obtain ⟨_, hnode⟩ := hw.exists_node
    exact hdirect b other ⟨b', found, hbody, hops, hext.isNamed_of_later hnode hfound⟩
      (hext.isNamed_of_later hnode hother)

theorem Valid.completed (hs : s.Valid g) (hext : g.Extends g') : s.Valid g' where
  interned := hs.interned
  memo p hp := (hs.memo p hp).completed hext
  settled hunique _ _ hname hresolved := hs.settled_completed hext hunique hname hresolved
  origin id hid := (hs.origin id hid).imp fun _ => hext.unfolds
  underlying id name u hid := (hs.underlying id name u hid).completed hext

end Session

end ScriptBind
