import ScriptBind.Proofs.Binding.Rows

/-!
# ScriptBind.Proofs.Binding.Convertible

Which types no rule is possible for, said of the trees of a type graph, so that it does not depend
on a session.

* `TypeGraph.Shows` - a tree once its name is looked through.
* `TypeGraph.Unconvertible` - no rule is possible, because of the tree itself or because of a field.
* `Session.Valid.unconvertible_iff` - a session says the same of its canonical types.
-/

namespace ScriptBind

open Relation (ReflTransGen)

/-! ### Trees -/

namespace Unfolding

def isNamed : Unfolding → Bool
  | .named _ => true
  | _ => false

def operands : Unfolding → List Unfolding
  | .func params results _ _ => params ++ results
  | _ => []

/-- The types whose shapes a rule needs. The key of a map needs none. -/
def inner : Unfolding → List Unfolding
  | .slice element => [element]
  | .array _ element => [element]
  | .map _ value => [value]
  | .pointer element => [element]
  | .func params results _ _ => params ++ results
  | .chan _ element => [element]
  | .interface methods => methods.flatMap (·.2.operands)
  | .struct fields => fields.map (·.2)
  | _ => []

/-- The types of the fields of a struct. -/
def fieldTypes : Unfolding → List Unfolding
  | .struct fields => fields.map (·.2)
  | _ => []

end Unfolding

namespace TypeGraph

variable (g : TypeGraph)

/-- The tree of what stands behind the name. -/
def StandsFor (name : String) (u : Unfolding) : Prop :=
  ∃ type last, g.IsNamed type name ∧ g.Behind type last ∧ g.Unfolds last u

/-- What a tree is once its name, if it is one, is looked through. -/
inductive Shows : Unfolding → Unfolding → Prop
  | name {name : String} {u : Unfolding} : g.StandsFor name u → Shows (.named name) u
  | itself {u : Unfolding} : u.isNamed = false → Shows u u

def Contains (u v : Unfolding) : Prop := ∃ w, g.Shows u w ∧ v ∈ w.inner

def HasField (u v : Unfolding) : Prop := ∃ w, g.Shows u w ∧ v ∈ w.fieldTypes

/-- A function with type parameters, or that collects arguments otherwise than in a slice. -/
def BarredFunc : Unfolding → Prop
  | .func params _ variadic typeParams => typeParams ≠ [] ∨ variadic = true ∧
    ¬ ∃ last element, params.getLast? = some last ∧ g.Shows last (.slice element)
  | _ => False

/-- No rule is possible for this structure, whatever its parts are. -/
def Barred : Unfolding → Prop
  | .complex _ => True
  | .unsafePointer => True
  | .typeParam _ => True
  | .map key _ => ¬ g.Shows key .string
  | .func params results variadic typeParams =>
    g.BarredFunc (.func params results variadic typeParams)
  | .interface methods => ∃ m ∈ methods, g.BarredFunc m.2
  | _ => False

/-- No rule is possible, because of the type itself or because of a field, at any depth. -/
inductive Unconvertible : Unfolding → Prop
  | barred {u v : Unfolding} : g.Shows u v → g.Barred v → Unconvertible u
  | field {u v : Unfolding} : g.HasField u v → Unconvertible v → Unconvertible u

variable {g}

/-- A hop leads away from a node that is a named type or an alias, to one place. -/
theorem hop_unique {a b b' : TypeId} (h : g.BodyHop a b ∨ g.AliasHop a b)
    (h' : g.BodyHop a b' ∨ g.AliasHop a b') : b = b' := by
  rcases h with ⟨_, _, h⟩ | ⟨_, h⟩ <;> rcases h' with ⟨_, _, h'⟩ | ⟨_, h'⟩ <;>
    cases h.symm.trans h' <;> rfl

theorem Behind.not_hop {a last b : TypeId} (h : g.Behind a last) :
    ¬ (g.BodyHop last b ∨ g.AliasHop last b) := by
  obtain ⟨_, kind, hkind, hnamed, halias⟩ := h
  rintro (⟨_, _, hnode⟩ | ⟨_, hnode⟩) <;> cases hkind.symm.trans hnode
  · cases hnamed
  · cases halias

theorem Behind.unique {a last last' : TypeId} (h : g.Behind a last) (h' : g.Behind a last') :
    last = last' := by
  obtain ⟨hops, hlast⟩ := h
  induction hops using ReflTransGen.head_induction_on with
  | refl =>
    rcases h'.hops.cases_head with heq | ⟨b, hop, _⟩
    · exact heq
    · exact absurd hop (Behind.not_hop ⟨.refl, hlast⟩)
  | head hop _ ih =>
    rcases h'.hops.cases_head with heq | ⟨b, hop', hrest⟩
    · exact absurd hop (heq ▸ h'.not_hop)
    · rw [hop_unique hop' hop] at hrest
      exact ih ⟨hrest, h'.plain⟩

variable {u v w : Unfolding}

theorem StandsFor.unique (hunique : g.UniqueNames) {name : String} (h : g.StandsFor name u)
    (h' : g.StandsFor name v) : u = v := by
  obtain ⟨type, last, hname, hlast, hu⟩ := h
  obtain ⟨type', last', hname', hlast', hv⟩ := h'
  rw [hunique type' type name hname' hname] at hlast'
  rw [hlast'.unique hlast] at hv
  exact hu.unique hv

theorem Shows.unique (hunique : g.UniqueNames) (h : g.Shows u v) (h' : g.Shows u w) : v = w := by
  cases h with
  | name hv =>
    cases h' with
    | name hw => exact hv.unique hunique hw
    | itself hw => cases hw
  | itself hv =>
    cases h' with
    | name hw => cases hv
    | itself hw => rfl

end TypeGraph

/-! ### Canonical types -/

namespace CanonKind

variable (unfold : CanonId → Unfolding) (kind : CanonKind)

theorem inner_unfoldWith : (kind.unfoldWith unfold).inner = kind.inner.map unfold := by
  cases kind with
  | func f => simp [unfoldWith, CanonFunc.unfoldWith, Unfolding.inner, inner, refs, CanonFunc.refs]
  | interface methods =>
    simp [unfoldWith, CanonFunc.unfoldWith, Unfolding.inner, Unfolding.operands, inner, refs,
      CanonFunc.refs, List.flatMap_map, List.map_flatMap]
  | struct aliasName fields => simp [unfoldWith, Unfolding.inner, inner, refs]
  | _ => rfl

theorem fieldTypes_unfoldWith :
    (kind.unfoldWith unfold).fieldTypes = kind.fieldTypes.map unfold := by
  cases kind with
  | struct aliasName fields => simp [unfoldWith, Unfolding.fieldTypes, fieldTypes]
  | _ => rfl

end CanonKind

namespace Session

variable {g : TypeGraph} {s : Session} {c d : CanonId}

section Shows

variable (h : s.Valid g) (hresolved : ∀ name, ¬ s.Unresolved name) (hunique : g.UniqueNames)

include h hresolved hunique

theorem Valid.shows (hc : c < s.size) : g.Shows (s.unfold c) (s.unfold (s.structural c)) := by
  obtain ⟨kind, hkind⟩ := exists_kind? hc
  cases kind with
  | named name underlying =>
    cases underlying with
    | none => exact absurd ⟨c, hkind⟩ (hresolved name)
    | some u =>
      rw [h.interned.unfold_eq hkind, structural, hkind]
      exact .name ((h.underlying c name u hkind).behind hunique)
  | _ =>
    rw [structural, hkind, h.interned.unfold_eq hkind]
    exact .itself rfl

theorem Valid.shows_structure? (hc : c < s.size) : ∃ kind, s.structure? c = some kind ∧
    g.Shows (s.unfold c) (kind.unfoldWith s.unfold) := by
  obtain ⟨kind, hkind⟩ := exists_kind? (h.bounded.structural_lt hc)
  refine ⟨kind, hkind, ?_⟩
  rw [← h.interned.unfold_eq hkind]
  exact h.shows hresolved hunique hc

/-- What stands behind a name is not a name. -/
theorem Valid.structure?_ne_named {name : String} {u : Option CanonId} :
    s.structure? c ≠ some (.named name u) := by
  intro hc
  have hlt := lt_size_of_structure? hc
  obtain ⟨kind, hkind⟩ := exists_kind? hlt
  rw [structure?, structural, hkind] at hc
  cases kind with
  | named outer underlying =>
    cases underlying with
    | none => exact hresolved outer ⟨c, hkind⟩
    | some found =>
      obtain ⟨type, last, _, hlast, hunfolds⟩ := (h.underlying c outer found hkind).behind hunique
      rw [h.interned.unfold_eq hc] at hunfolds
      obtain ⟨id, hops, _, _, hid⟩ := TypeGraph.exists_named_of_unfolds hunfolds
      rcases hops.cases_head with rfl | ⟨b, hop, _⟩
      · obtain ⟨_, node, hnode, hnamed, _⟩ := hlast
        cases hnode.symm.trans hid
        cases hnamed
      · exact hlast.not_hop (.inr hop)
  | _ => cases hkind.symm.trans hc

theorem Valid.endsInSlice_iff {params : List CanonId} (hparams : ∀ p ∈ params, p < s.size) :
    s.EndsInSlice params ↔ ∃ last element,
      (params.map s.unfold).getLast? = some last ∧ g.Shows last (.slice element) := by
  rw [List.getLast?_map]
  constructor
  · rintro ⟨p, element, hlast, hslice⟩
    obtain ⟨kind, hkind, hshows⟩ :=
      h.shows_structure? hresolved hunique (hparams p (List.mem_of_getLast? hlast))
    cases hslice.symm.trans hkind
    exact ⟨_, _, Option.map_eq_some_iff.2 ⟨p, hlast, rfl⟩, hshows⟩
  · rintro ⟨last, element, hlast, hslice⟩
    obtain ⟨p, hp, rfl⟩ := Option.map_eq_some_iff.1 hlast
    obtain ⟨kind, hkind, hshows⟩ :=
      h.shows_structure? hresolved hunique (hparams p (List.mem_of_getLast? hp))
    have heq := hslice.unique hunique hshows
    cases kind with
    | slice element => exact ⟨p, element, hp, hkind⟩
    | _ => cases heq

theorem Valid.barredFunc_iff {f : CanonFunc} (hf : ∀ r ∈ f.refs, r < s.size) :
    s.BarredFunc f ↔ g.BarredFunc (f.unfoldWith s.unfold) := by
  have hends := h.endsInSlice_iff hresolved hunique fun p hp => hf p (List.mem_append_left _ hp)
  exact or_congr Iff.rfl (and_congr_right fun _ => not_congr hends)

theorem Valid.shows_string_iff (hc : c < s.size) :
    g.Shows (s.unfold c) .string ↔ s.structure? c = some .string := by
  obtain ⟨kind, hkind, hshows⟩ := h.shows_structure? hresolved hunique hc
  rw [hkind]
  constructor
  · intro hstring
    have heq := hstring.unique hunique hshows
    cases kind with
    | string => rfl
    | _ => cases heq
  · intro heq
    cases heq
    exact hshows

theorem Valid.barred_iff (hc : c < s.size) {v : Unfolding} (hv : g.Shows (s.unfold c) v) :
    s.Barred (s.structure? c) ↔ g.Barred v := by
  obtain ⟨kind, hkind, hshows⟩ := h.shows_structure? hresolved hunique hc
  rw [hv.unique hunique hshows, hkind]
  have hrefs := h.interned.refs_lt_size hkind
  cases kind with
  | func f => exact h.barredFunc_iff hresolved hunique hrefs
  | interface methods =>
    have hfunc : ∀ m ∈ methods, s.BarredFunc m.func ↔ g.BarredFunc (m.func.unfoldWith s.unfold) :=
      fun m hm => h.barredFunc_iff hresolved hunique fun r hr =>
        hrefs r (List.mem_flatMap.2 ⟨m, hm, hr⟩)
    constructor
    · rintro ⟨m, hm, hbarred⟩
      exact ⟨_, List.mem_map_of_mem hm, (hfunc m hm).1 hbarred⟩
    · rintro ⟨p, hp, hbarred⟩
      obtain ⟨m, hm, rfl⟩ := List.mem_map.1 hp
      exact ⟨m, hm, (hfunc m hm).2 hbarred⟩
  | map key value =>
    have hkey := hrefs key List.mem_cons_self
    exact not_congr (h.shows_string_iff hresolved hunique hkey).symm
  | named name u => exact absurd hkind (h.structure?_ne_named hresolved hunique)
  | _ => exact Iff.rfl

theorem Valid.contains (hd : s.Contains c d) : g.Contains (s.unfold c) (s.unfold d) := by
  obtain ⟨kind, hkind, hd⟩ := hd
  obtain ⟨kind', hkind', hshows⟩ :=
    h.shows_structure? hresolved hunique (lt_size_of_structure? hkind)
  cases hkind.symm.trans hkind'
  refine ⟨_, hshows, ?_⟩
  rw [CanonKind.inner_unfoldWith]
  exact List.mem_map_of_mem hd

theorem Valid.hasField_iff (hc : c < s.size) {v : Unfolding} :
    g.HasField (s.unfold c) v ↔ ∃ d, s.HasField c d ∧ s.unfold d = v := by
  obtain ⟨kind, hkind, hshows⟩ := h.shows_structure? hresolved hunique hc
  constructor
  · rintro ⟨w, hw, hv⟩
    rw [hw.unique hunique hshows, CanonKind.fieldTypes_unfoldWith] at hv
    obtain ⟨d, hd, rfl⟩ := List.mem_map.1 hv
    exact ⟨d, ⟨kind, hkind, hd⟩, rfl⟩
  · rintro ⟨d, ⟨kind', hkind', hd⟩, rfl⟩
    cases hkind.symm.trans hkind'
    refine ⟨_, hshows, ?_⟩
    rw [CanonKind.fieldTypes_unfoldWith]
    exact List.mem_map_of_mem hd

theorem Valid.unconvertible_iff (hc : c < s.size) :
    s.Unconvertible c ↔ g.Unconvertible (s.unfold c) := by
  constructor
  · intro hu
    induction hu with
    | barred hbarred =>
      obtain ⟨kind, _, hshows⟩ := h.shows_structure? hresolved hunique hc
      exact .barred hshows ((h.barred_iff hresolved hunique hc hshows).1 hbarred)
    | field hd _ ih =>
      exact .field ((h.hasField_iff hresolved hunique hc).2 ⟨_, hd, rfl⟩)
        (ih (h.bounded.lt_size hd.contains))
  · intro hu
    generalize htree : s.unfold c = u at hu
    induction hu generalizing c with
    | barred hshows hbarred =>
      subst htree
      exact .barred ((h.barred_iff hresolved hunique hc hshows).2 hbarred)
    | field hfield _ ih =>
      subst htree
      obtain ⟨d, hd, rfl⟩ := (h.hasField_iff hresolved hunique hc).1 hfield
      exact .field hd (ih (h.bounded.lt_size hd.contains) rfl)

end Shows
end Session
end ScriptBind
