import ScriptBind.Proofs.Canon.Sessions

/-!
# ScriptBind.Proofs.Canon.Resolution

When every type of a complete graph has a canonical type, in whatever order the types are asked for.

* `Session.normalize_succeeds` - no type leads back to one that it defines.
-/

namespace ScriptBind
namespace Session

open CanonM (Meets)

variable {g : TypeGraph} {s : Session} {type : TypeId}

/-- On such a graph a call fails only because a type is defined by one that was left unresolved. -/
theorem unresolved_of_error (hwf : g.WellFormed)
    (hdirect : ∀ a b, g.DefinedBy a b → ¬ g.Reaches b a) (hs : s.Valid g) (htype : type < g.size)
    {e : CanonError} (hrun : (normalize g type s).1 = .error e) :
    ∃ name other a b, e = .unresolvedNamed name other ∧ s.Unresolved other ∧ g.Reaches type a ∧
      g.IsNamed a name ∧ g.DefinedBy a b ∧ g.IsNamed b other := by
  have hwhy := (meets_normalize type hs).error e hrun
  cases e with
  | graph e =>
    obtain ⟨id, _, hreach, hnone⟩ := hwhy
    have hlt : id < g.nodes.size := hwf.lt_size_of_reaches hreach htype
    rw [Array.getElem?_eq_getElem hlt] at hnone
    cases hnone
  | undefinedNamed name =>
    obtain ⟨id, typeParams, _, hnode⟩ := hwhy
    cases hwf.defined id name none typeParams hnode
  | unresolvedNamed name other =>
    obtain ⟨a, b, ha, hname, hdef, hb, h | ⟨c, hc, _, hreach⟩⟩ := hwhy
    · exact ⟨name, other, a, b, rfl, h, ha, hname, hdef, hb⟩
    · rw [hwf.unique c b other hc hb] at hreach
      exact absurd hreach (hdirect a b hdef)
  | conflictingTypeParams receiver ofReceiver own =>
    obtain ⟨id, kind, sig, _, hnode, hsig, hconflicts⟩ := hwhy
    exact absurd hconflicts (hwf.consistent id kind hnode sig hsig)
  | endless id => exact absurd hrun (normalize_ne_endless hwf.guarded hs id)

/-- Each call finds a session without unresolved names and leaves one. -/
theorem normalize_succeeds (hwf : g.WellFormed)
    (hdirect : ∀ a b, g.DefinedBy a b → ¬ g.Reaches b a) (hs : s.Valid g)
    (hresolved : ∀ name, ¬ s.Unresolved name) (htype : type < g.size) :
    ∃ id, (normalize g type s).1 = .ok id := by
  cases hrun : (normalize g type s).1 with
  | ok id => exact ⟨id, rfl⟩
  | error e =>
    obtain ⟨_, other, _, _, _, hother, _⟩ := unresolved_of_error hwf hdirect hs htype hrun
    exact absurd hother (hresolved other)

theorem answers_succeed {types : List TypeId} (hwf : g.WellFormed)
    (hdirect : ∀ a b, g.DefinedBy a b → ¬ g.Reaches b a) (hs : s.Valid g)
    (hresolved : ∀ name, ¬ s.Unresolved name) (htypes : ∀ type ∈ types, type < g.size) :
    ∀ p ∈ answers g types s, ∃ id, p.2 = .ok id := by
  induction types generalizing s with
  | nil => simp [answers]
  | cons type rest ih =>
    obtain ⟨htype, hrest⟩ := List.forall_mem_cons.1 htypes
    obtain ⟨id, hid⟩ := normalize_succeeds hwf hdirect hs hresolved htype
    have hstep := meets_normalize type hs
    have hgrows := (hstep.ok id hid).1
    refine List.forall_mem_cons.2 ⟨⟨id, hid⟩, ih hstep.valid (fun name hname => ?_) hrest⟩
    exact hresolved name (hgrows.unresolved name hname)

/-! ### A type that leads back to one that it defines -/

section Circular

variable {a b body : TypeId} {name : String} {typeParams : List String}

/-- Once the body of `b` is looked at, while `b` waits, whatever `b` reaches is in the table. -/
theorem entered_of_reaches (hs : s.Valid g) (hunique : g.UniqueNames)
    (hnode : g.nodes[b]? = some (.named name (some body) typeParams)) (hknows : s.Knows name)
    (hentered : s.Entered g body) (hwait : ∀ other, s.Unresolved other → other = name)
    (hreach : g.Reaches b a) : s.Entered g a := by
  induction hreach with
  | refl => exact entered_of_named ⟨_, _, hnode⟩ hknows
  | @tail x y _ hrefers ih =>
    obtain ⟨kind, hkind, hy⟩ := hrefers
    cases hnamed : kind.isNamed with
    | false => exact fun id other hin => ih id other (.head ⟨kind, hkind, hnamed, hy⟩ hin)
    | true =>
      cases kind with
      | named found body' typeParams' =>
        have hx : g.IsNamed x found := ⟨_, _, hkind⟩
        have hhop : g.BodyHop x y := by
          obtain rfl : body' = some y := by simpa [TypeKind.refs] using hy
          exact ⟨found, typeParams', hkind⟩
        obtain ⟨i, underlying, hi⟩ := ih x found .refl hx
        cases underlying with
        | some underlying =>
          exact (hs.settled hunique x found hx ⟨i, underlying, hi⟩).entered y hhop
        | none =>
          obtain rfl := hwait found ⟨i, hi⟩
          obtain rfl := hunique x b found hx ⟨_, _, hnode⟩
          obtain ⟨_, _, hkind⟩ := hhop
          rw [hnode] at hkind
          cases hkind
          exact hentered
      | _ => cases hnamed

/-- With the body of `b` in the table: `a` is not there yet, or it is `b`, and `b` waits for
itself. -/
theorem meets_underlyingOf_circular {found id : CanonId} (hs : s.Valid g) (hunique : g.UniqueNames)
    (hnode : g.nodes[b]? = some (.named name (some body) typeParams)) (hdef : g.DefinedBy a b)
    (hreach : g.Reaches b a) (hwait : ∀ other, s.Unresolved other → other = name)
    (hid : s.kind? id = some (.named name none)) (hfound : s.Represents g body found) :
    Meets g s (underlyingOf name found) (fun _ => True) fun _ _ => False := by
  have hentered := entered_of_reaches hs hunique hnode ⟨id, none, hid⟩ hfound.entered hwait hreach
  obtain ⟨body', _, hhop, hops, _⟩ := hdef
  obtain ⟨nameA, typeParamsA, hnodeA⟩ := hhop
  have hA : g.IsNamed a nameA := ⟨_, _, hnodeA⟩
  have hb : g.IsNamed b name := ⟨_, _, hnode⟩
  obtain ⟨i, underlying, hi⟩ := hentered a nameA .refl hA
  cases underlying with
  | some underlying =>
    have hsettled := hs.settled hunique a nameA hA ⟨i, underlying, hi⟩
    exact (hsettled.direct b name ⟨body', name, ⟨_, _, hnodeA⟩, hops, hb⟩ hb ⟨id, hid⟩).elim
  | none =>
    obtain rfl := hwait nameA ⟨i, hi⟩
    obtain rfl := hunique a b nameA hA hb
    rw [hnode] at hnodeA
    cases hnodeA
    have hunfold := hfound.unfolds.unique (TypeGraph.unfolds_of_aliasHops hops hb)
    obtain ⟨underlying, hkind⟩ := kind?_of_unfold_eq hs.interned hfound.lt_size hunfold
    obtain rfl := hs.interned.distinct found id _ _ hkind hid rfl
    refine Meets.get ?_
    rw [hid]
    exact Meets.throw hs trivial

/-- The type `b` waits for its underlying type until `a` has been looked at, and `a` needs it. -/
theorem normalize_fails (hunique : g.UniqueNames) (hdef : g.DefinedBy a b) (hreach : g.Reaches b a)
    (id : CanonId) : (normalize g b .empty).1 ≠ .ok id := by
  suffices h : Meets g empty (normalize g b) (fun _ => True) fun _ _ => False from
    fun hok => (h.ok id hok).2
  obtain ⟨name, body, typeParams, hnode⟩ : ∃ name, g.IsNamed b name := by
    obtain ⟨_, name, _, _, hb⟩ := hdef
    exact ⟨name, hb⟩
  have hs := valid_empty g
  have hnone : empty.findNamed name = none := by simp [findNamed, empty]
  have hs₁ := hs.reserve hnode hnone
  rw [normalize, Nat.succ_mul, ← Nat.add_assoc, normalizeIn]
  refine Meets.get (Meets.node hs (fun _ => trivial) fun kind hkind => ?_)
  rw [hnode] at hkind
  cases hkind
  refine Meets.get ?_
  rw [hnone]
  refine Meets.get (Meets.set (R := fun _ _ => False) (extends_reserve b) ?_ fun _ _ _ h => h.elim)
  split
  · exact (Meets.throw (Q := fun _ _ => False) hs₁ trivial).bind fun _ _ _ _ h => h.elim
  · rename_i body
    refine Meets.node hs₁ (fun _ => trivial) fun kind _ => ?_
    have hbody := (meets_normalizeIn g (g.size * (g.size + 1) + g.size) (!isStruct kind) body _
      hs₁).preserves ((stable_kind? _ (.named name none)).normalizeIn g _ _ body) (kind?_reserve b)
    refine (hbody.mono fun _ _ => trivial).bind fun found s₂ hs₂ hgrows h => ?_
    refine (meets_underlyingOf_circular hs₂ hunique hnode hdef hreach ?_ h.2 h.1).bind
      fun _ _ _ _ h => h.elim
    intro other hother
    rcases unresolved_of_reserve (hgrows.unresolved other hother) with ⟨i, hi⟩ | h
    · simp [kind?, empty] at hi
    · exact h

end Circular

/-- In a complete graph every node has a canonical type whatever was asked for before it if, and
only if, no named type leads to one that it defines. -/
theorem answers_succeed_iff (hwf : g.WellFormed) :
    (∀ types : List TypeId, (∀ type ∈ types, type < g.size) →
      ∀ p ∈ answers g types .empty, ∃ id, p.2 = .ok id) ↔
    ∀ a b, g.DefinedBy a b → ¬ g.Reaches b a := by
  refine ⟨fun h a b hdef hreach => ?_, fun h types htypes => ?_⟩
  · obtain ⟨_, name, _, _, _, _, hnode⟩ := id hdef
    have hlt : ∀ type ∈ [b], type < g.size :=
      List.forall_mem_singleton.2 (TypeGraph.lt_size_of_node hnode)
    obtain ⟨id, hid⟩ := h [b] hlt _ List.mem_cons_self
    exact normalize_fails hwf.unique hdef hreach id hid
  · have hempty : ∀ name, ¬ empty.Unresolved name := fun name ⟨id, hid⟩ => by
      simp [kind?, empty] at hid
    exact answers_succeed hwf h (valid_empty g) hempty htypes

/-- `type Rows Grid` and `type Grid []element`, where the element is `Rows` or `Grid` itself. -/
def grid (element : TypeId) : TypeGraph where
  nodes := #[.named "p.Rows" (some 1) [], .named "p.Grid" (some 2) [], .slice element]
  names := [("p.Rows", 0), ("p.Grid", 1)]

theorem grid_node {element id : TypeId} {kind : TypeKind}
    (h : (grid element).nodes[id]? = some kind) :
    id = 0 ∧ kind = .named "p.Rows" (some 1) [] ∨ id = 1 ∧ kind = .named "p.Grid" (some 2) [] ∨
      id = 2 ∧ kind = .slice element := by
  match id with
  | 0 => exact .inl ⟨rfl, (Option.some.inj h).symm⟩
  | 1 => exact .inr (.inl ⟨rfl, (Option.some.inj h).symm⟩)
  | 2 => exact .inr (.inr ⟨rfl, (Option.some.inj h).symm⟩)
  | _ + 3 => cases h

theorem grid_inside {element a b : TypeId} (h : (grid element).Inside a b) :
    a = 2 ∧ b = element := by
  obtain ⟨kind, hkind, hnamed, hb⟩ := h
  rcases grid_node hkind with ⟨_, rfl⟩ | ⟨_, rfl⟩ | ⟨rfl, rfl⟩
  · cases hnamed
  · cases hnamed
  · exact ⟨rfl, List.mem_singleton.1 hb⟩

theorem wellFormed_grid {element : TypeId} (h : element < 2) : (grid element).WellFormed where
  closed a b := by
    have hsize : (grid element).size = 3 := rfl
    rintro ⟨kind, hkind, hb⟩
    rw [hsize]
    rcases grid_node hkind with ⟨_, rfl⟩ | ⟨_, rfl⟩ | ⟨_, rfl⟩ <;> cases List.mem_singleton.1 hb
    · decide
    · decide
    · exact Nat.lt_trans h (by decide)
  defined id name body typeParams hkind := by
    rcases grid_node hkind with ⟨_, heq⟩ | ⟨_, heq⟩ | ⟨_, heq⟩ <;> cases heq <;> rfl
  unique a b name := by
    rintro ⟨_, _, ha⟩ ⟨_, _, hb⟩
    rcases grid_node ha with ⟨rfl, heq⟩ | ⟨rfl, heq⟩ | ⟨_, heq⟩ <;>
      rcases grid_node hb with ⟨rfl, heq'⟩ | ⟨rfl, heq'⟩ | ⟨_, heq'⟩ <;> simp_all
  guarded id hcycle := by
    obtain ⟨_, _, hlast⟩ := Relation.TransGen.tail'_iff.1 hcycle
    obtain ⟨_, hfirst, _⟩ := Relation.TransGen.head'_iff.1 hcycle
    rw [← (grid_inside hlast).2, (grid_inside hfirst).1] at h
    exact absurd h (by decide)
  consistent id kind hkind sig hsig := by
    rcases grid_node hkind with ⟨_, rfl⟩ | ⟨_, rfl⟩ | ⟨_, rfl⟩ <;> cases hsig
  grounded id name := by
    rintro ⟨_, _, hkind⟩
    have hlast : (grid element).BodyHop 1 2 := ⟨"p.Grid", [], rfl⟩
    have hfirst : (grid element).BodyHop 0 1 := ⟨"p.Rows", [], rfl⟩
    refine ⟨2, .slice element, ?_, rfl, rfl, rfl⟩
    rcases grid_node hkind with ⟨rfl, _⟩ | ⟨rfl, _⟩ | ⟨_, heq⟩
    · exact .head (.inl hfirst) (.single (.inl hlast))
    · exact .single (.inl hlast)
    · cases heq

theorem grid_definedBy {element a b : TypeId} (h : (grid element).DefinedBy a b) :
    a = 0 ∧ b = 1 := by
  obtain ⟨body, name, ⟨_, _, hkind⟩, hops, ⟨_, _, hb⟩⟩ := h
  have hnone : ∀ c, ¬ (grid element).AliasHop body c := by
    rintro c ⟨_, hkind⟩
    rcases grid_node hkind with ⟨_, heq⟩ | ⟨_, heq⟩ | ⟨_, heq⟩ <;> cases heq
  cases hops using Relation.ReflTransGen.head_induction_on with
  | head hop _ => exact absurd hop (hnone _)
  | refl =>
    rcases grid_node hkind with ⟨rfl, heq⟩ | ⟨rfl, heq⟩ | ⟨_, heq⟩ <;> cases heq
    · exact ⟨rfl, rfl⟩
    · cases hb

theorem grid_reaches {a : TypeId} (h : (grid 1).Reaches 1 a) : a = 1 ∨ a = 2 := by
  induction h with
  | refl => exact .inl rfl
  | tail _ hrefers ih =>
    obtain ⟨kind, hkind, hb⟩ := hrefers
    rcases ih with rfl | rfl <;> cases hkind <;> cases List.mem_singleton.1 hb
    · exact .inr rfl
    · exact .inl rfl

/-- A list of itself may define another type, in whatever order they are asked for. -/
theorem answers_succeed_grid : (grid 1).WellFormed ∧
    ∀ types : List TypeId, (∀ type ∈ types, type < 3) →
      ∀ p ∈ answers (grid 1) types .empty, ∃ id, p.2 = .ok id := by
  have hwf : (grid 1).WellFormed := wellFormed_grid (by decide)
  refine ⟨hwf, (answers_succeed_iff hwf).2 fun a b hdef hreach => ?_⟩
  obtain ⟨rfl, rfl⟩ := grid_definedBy hdef
  rcases grid_reaches hreach with h | h <;> cases h

/-- A list of the type that it defines must not be asked for first. -/
theorem answers_order_matters : (grid 0).WellFormed ∧
    (normalize (grid 0) 0 .empty).1 = .ok 0 ∧
    (normalize (grid 0) 1 .empty).1 = .error (.unresolvedNamed "p.Rows" "p.Grid") ∧
    ¬ ∀ g : TypeGraph, g.WellFormed → ∀ type < g.size,
      ∃ id, (normalize g type .empty).1 = .ok id := by
  have hwf : (grid 0).WellFormed := wellFormed_grid (by decide)
  have herror : (normalize (grid 0) 1 .empty).1 = .error (.unresolvedNamed "p.Rows" "p.Grid") := by
    decide +kernel
  refine ⟨hwf, by decide +kernel, herror, fun h => ?_⟩
  obtain ⟨id, hid⟩ := h (grid 0) hwf 1 (by decide)
  rw [herror] at hid
  cases hid

end Session
end ScriptBind
