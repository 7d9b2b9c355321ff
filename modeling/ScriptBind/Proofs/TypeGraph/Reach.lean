import ScriptBind.Proofs.Canon.Unfolding
import ScriptBind.Proofs.Height

/-!
# ScriptBind.Proofs.TypeGraph.Reach

Which nodes of a type graph lead to which.

* `TypeGraph.Reaches` - over any number of references.
* `TypeGraph.Inside` - one reference of a node that is not a named type.
* `TypeGraph.DefinedBy` - the body of a named type is another named type.
* `TypeGraph.WellFormed` - what a complete graph of types keeps to.
* `TypeGraph.height` - a measure that falls with each reference inside a type, if every cycle passes
  through a named type.
-/

namespace ScriptBind

/-- All types that a signature mentions, the receiver first. -/
def FuncSig.refs (sig : FuncSig) : List TypeId := sig.inputs ++ sig.outputs

/-- Type parameters on the receiver and on the signature. -/
def FuncSig.Conflicts (sig : FuncSig) : Prop :=
  ∃ receiver, sig.receiver = some receiver ∧ receiver.typeParams ≠ [] ∧ sig.typeParams ≠ []

namespace TypeKind

def refs : TypeKind → List TypeId
  | .slice element => [element]
  | .array _ element => [element]
  | .map key value => [key, value]
  | .struct fields => fields.map (·.type)
  | .pointer element => [element]
  | .func sig => sig.refs
  | .chan _ element => [element]
  | .interface methods => methods.flatMap (·.sig.refs)
  | .named _ body _ => body.toList
  | .aliasOf _ target => [target]
  | _ => []

/-- The signatures that stand in a node. -/
def sigs : TypeKind → List FuncSig
  | .func sig => [sig]
  | .interface methods => methods.map (·.sig)
  | _ => []

def isNamed : TypeKind → Bool
  | .named _ _ _ => true
  | _ => false

def isAlias : TypeKind → Bool
  | .aliasOf _ _ => true
  | _ => false

end TypeKind

namespace TypeGraph

variable (g : TypeGraph)

def Refers (a b : TypeId) : Prop := ∃ kind, g.nodes[a]? = some kind ∧ b ∈ kind.refs

def Reaches : TypeId → TypeId → Prop := Relation.ReflTransGen g.Refers

/-- `b` is a part of `a`, and not merely what stands behind a name. -/
def Inside (a b : TypeId) : Prop :=
  ∃ kind, g.nodes[a]? = some kind ∧ kind.isNamed = false ∧ b ∈ kind.refs

def IsNamed (id : TypeId) (name : String) : Prop :=
  ∃ body typeParams, g.nodes[id]? = some (.named name body typeParams)

/-- From a named type to its body. -/
def BodyHop (a b : TypeId) : Prop :=
  ∃ name typeParams, g.nodes[a]? = some (.named name (some b) typeParams)

def AliasHop (a b : TypeId) : Prop := ∃ name, g.nodes[a]? = some (.aliasOf name b)

/-- The body of the named type `a` is, but for aliases, the named type `b`. -/
def DefinedBy (a b : TypeId) : Prop :=
  ∃ body name, g.BodyHop a body ∧ Relation.ReflTransGen g.AliasHop body b ∧ g.IsNamed b name

/-- What `a` is once aliases and bodies of named types are looked through. -/
structure Behind (a last : TypeId) : Prop where
  hops : Relation.ReflTransGen (fun a b => g.BodyHop a b ∨ g.AliasHop a b) a last
  plain : ∃ kind, g.nodes[last]? = some kind ∧ kind.isNamed = false ∧ kind.isAlias = false

def UniqueNames : Prop := ∀ a b name, g.IsNamed a name → g.IsNamed b name → a = b

structure WellFormed : Prop where
  closed : ∀ a b, g.Refers a b → b < g.size
  defined : ∀ (id : TypeId) name body typeParams,
    g.nodes[id]? = some (.named name body typeParams) → body.isSome
  unique : g.UniqueNames
  /-- Every cycle passes through a named type. -/
  guarded : ∀ id, ¬ Relation.TransGen g.Inside id id
  consistent : ∀ (id : TypeId) kind, g.nodes[id]? = some kind → ∀ sig ∈ kind.sigs, ¬ sig.Conflicts
  /-- Bodies and aliases lead from a named type to a type that is neither. -/
  grounded : ∀ id name, g.IsNamed id name → ∃ last kind,
    Relation.ReflTransGen (fun a b => g.BodyHop a b ∨ g.AliasHop a b) id last ∧
      g.nodes[last]? = some kind ∧ kind.isNamed = false ∧ kind.isAlias = false

variable {g}

theorem AliasHop.behind {a b last : TypeId} (hops : Relation.ReflTransGen g.AliasHop a b)
    (h : g.Behind b last) : g.Behind a last := by
  refine ⟨?_, h.plain⟩
  induction hops using Relation.ReflTransGen.head_induction_on with
  | refl => exact h.hops
  | head hop _ ih => exact .head (.inr hop) ih

theorem BodyHop.behind {a b last : TypeId} (hop : g.BodyHop a b) (h : g.Behind b last) :
    g.Behind a last :=
  ⟨.head (.inl hop) h.hops, h.plain⟩

theorem Inside.refers {a b : TypeId} (h : g.Inside a b) : g.Refers a b := by
  obtain ⟨kind, hkind, _, hb⟩ := h
  exact ⟨kind, hkind, hb⟩

theorem AliasHop.inside {a b : TypeId} (h : g.AliasHop a b) : g.Inside a b := by
  obtain ⟨name, hkind⟩ := h
  exact ⟨_, hkind, rfl, List.mem_singleton_self b⟩

theorem BodyHop.refers {a b : TypeId} (h : g.BodyHop a b) : g.Refers a b := by
  obtain ⟨name, typeParams, hkind⟩ := h
  exact ⟨_, hkind, by simp [TypeKind.refs]⟩

theorem lt_size_of_node {id : TypeId} {kind : TypeKind} (h : g.nodes[id]? = some kind) :
    id < g.size :=
  (Array.getElem?_eq_some_iff.1 h).1

theorem WellFormed.lt_size_of_reaches (h : g.WellFormed) {a b : TypeId}
    (hreach : g.Reaches a b) (ha : a < g.size) : b < g.size := by
  induction hreach with
  | refl => exact ha
  | tail _ hrefers _ => exact h.closed _ _ hrefers

/-- A tree comes, but for aliases, from a node of its own form. -/
theorem exists_node_of_unfolds {type : TypeId} {u : Unfolding} (h : g.Unfolds type u) :
    ∃ last kind depth, Relation.ReflTransGen g.AliasHop type last ∧ g.nodes[last]? = some kind ∧
      kind.isAlias = false ∧ kind.unfoldWith (g.unfoldIn depth) = some u := by
  obtain ⟨depth, h⟩ := h
  induction depth generalizing type with
  | zero => cases h
  | succ depth ih =>
    obtain ⟨_, kind, ⟨⟩, hkind, h⟩ := unfoldIn_eq_some_iff.1 h
    cases kind with
    | aliasOf name target =>
      obtain ⟨last, kind, depth', hops, hrest⟩ := ih h
      exact ⟨last, kind, depth', .head ⟨name, hkind⟩ hops, hrest⟩
    | _ => exact ⟨type, _, depth, .refl, hkind, rfl, h⟩

/-- The trees of structs and of named types come from such nodes only, if not from an alias. -/
theorem unfoldWith_cases {kind : TypeKind} {f : TypeId → Option Unfolding} {u : Unfolding}
    (h : kind.unfoldWith f = some u) (hplain : kind.isAlias = false) :
    (∃ fields us, kind = .struct fields ∧ u = .struct us) ∨
    (∃ name body typeParams, kind = .named name body typeParams ∧ u = .named name) ∨
    (∀ us, u ≠ .struct us) ∧ ∀ name, u ≠ .named name := by
  cases kind with
  | aliasOf aliasName target => cases hplain
  | struct fields =>
    obtain ⟨us, _, rfl⟩ := TypeKind.unfoldWith_struct_iff.1 h
    exact .inl ⟨fields, us, rfl, rfl⟩
  | named name body typeParams =>
    cases h
    exact .inr (.inl ⟨name, body, typeParams, rfl, rfl⟩)
  | func sig =>
    obtain ⟨params, results, _, _, rfl⟩ := FuncSig.unfoldWith_eq_some_iff.1 h
    exact .inr (.inr ⟨nofun, nofun⟩)
  | interface methods =>
    refine .inr (.inr ?_)
    cases methods with
    | nil =>
      cases h
      exact ⟨nofun, nofun⟩
    | cons m rest =>
      obtain ⟨found, _, rfl⟩ := (TypeKind.unfoldWith_interface_iff (List.cons_ne_nil m rest)).1 h
      exact ⟨nofun, nofun⟩
  | map key value =>
    obtain ⟨k, _, h⟩ := Option.bind_eq_some_iff.1 h
    obtain ⟨v, _, h⟩ := Option.bind_eq_some_iff.1 h
    cases h
    exact .inr (.inr ⟨nofun, nofun⟩)
  | slice element | array length element | pointer element | chan direction element =>
    obtain ⟨v, _, h⟩ := Option.bind_eq_some_iff.1 h
    cases h
    exact .inr (.inr ⟨nofun, nofun⟩)
  | _ =>
    cases h
    exact .inr (.inr ⟨nofun, nofun⟩)

/-- A node whose tree is the name of a type is that type, but for aliases. -/
theorem exists_named_of_unfolds {type : TypeId} {name : String}
    (h : g.Unfolds type (.named name)) :
    ∃ id, Relation.ReflTransGen g.AliasHop type id ∧ g.IsNamed id name := by
  obtain ⟨last, kind, depth, hops, hkind, hplain, h⟩ := exists_node_of_unfolds h
  obtain ⟨_, _, _, heq⟩ | ⟨found, body, typeParams, rfl, heq⟩ | ⟨_, hother⟩ :=
    unfoldWith_cases h hplain
  · cases heq
  · cases heq
    exact ⟨last, hops, body, typeParams, hkind⟩
  · exact absurd rfl (hother name)

theorem IsNamed.unfolds {id : TypeId} {name : String} (h : g.IsNamed id name) :
    g.Unfolds id (.named name) := by
  obtain ⟨body, typeParams, hkind⟩ := h
  have hnamed : (TypeKind.named name body typeParams).unfoldWith (g.unfoldIn 0) =
      some (.named name) := rfl
  exact unfolds_of_unfoldWith hkind hnamed

theorem unfolds_of_aliasHops {type id : TypeId} {name : String}
    (hops : Relation.ReflTransGen g.AliasHop type id) (hid : g.IsNamed id name) :
    g.Unfolds type (.named name) := by
  induction hops using Relation.ReflTransGen.head_induction_on with
  | refl => exact hid.unfolds
  | head hop _ ih =>
    obtain ⟨aliasName, hkind⟩ := hop
    obtain ⟨depth, hdepth⟩ := ih
    exact unfolds_of_unfoldWith hkind hdepth

/-! ### Height -/

open Classical in
/-- The number of nodes inside a node, at any depth, and the node itself. -/
noncomputable def height (g : TypeGraph) (id : TypeId) : Nat :=
  if id < g.size then
    (Finset.univ.filter fun b : Fin g.size => Relation.TransGen g.Inside id b).card + 1
  else 0

variable (hguarded : ∀ id, ¬ Relation.TransGen g.Inside id id)

include hguarded

theorem height_le_size (id : TypeId) : g.height id ≤ g.size :=
  ScriptBind.height_le (hguarded id)

theorem height_lt {a b : TypeId} (hin : g.Inside a b) : g.height b < g.height a := by
  have ha : a < g.size := by
    obtain ⟨_, hkind, _⟩ := hin
    exact lt_size_of_node hkind
  exact ScriptBind.height_lt ha hin (hguarded b)

end TypeGraph
end ScriptBind
