import ScriptBind.Proofs.Canon.Sessions
import ScriptBind.Proofs.TypeExpr.Scan

/-!
# ScriptBind.Proofs.Canon.Plain

Types whose written forms can be told apart: without type parameters, with names that are single
names, and with a slice for the arguments that a function collects.

* `TypeGraph.Plain` - a graph of such types.
* `Unfolding.RootOf` - a node with the names at the root of a tree.
* `Session.Plain` - a table of such types.
* `Session.Valid.plain` - the canonical types of a plain graph are plain.
-/

namespace ScriptBind

open Relation (ReflTransGen)

/-- A name in front of a dot, and a name after it. -/
def IsQualified (name : String) : Prop :=
  ∃ scope base, Token.IsIdent scope ∧ Token.IsIdent base ∧ name = scope ++ "." ++ base

/-- The name of a type that is not built in. -/
def IsOwnName (name : String) : Prop := IsQualified name ∧ name ≠ "unsafe.Pointer"

/-! ### Graphs -/

/-- Without type parameters, and the last parameter is a slice, but for aliases, if it collects
arguments. -/
structure FuncSig.Plain (g : TypeGraph) (sig : FuncSig) : Prop where
  typeParams : sig.allTypeParams = []
  variadic : sig.variadic = true → ∃ last slice element, sig.inputs.getLast? = some last ∧
    ReflTransGen g.AliasHop last slice ∧ g.nodes[slice]? = some (.slice element)

def TypeKind.Plain (g : TypeGraph) : TypeKind → Prop
  | .func sig => sig.Plain g
  | .interface methods => ∀ m ∈ methods, Token.IsIdent m.name ∧ m.sig.Plain g
  | .struct fields => ∀ f ∈ fields, Token.IsIdent f.name
  | .named name _ _ => IsOwnName name
  | .typeParam _ => False
  | _ => True

def TypeGraph.Plain (g : TypeGraph) : Prop := ∀ kind ∈ g.nodes, kind.Plain g

/-! ### Trees -/

namespace Unfolding

def PlainFunc : Unfolding → Prop
  | .func params _ variadic typeParams =>
    typeParams = [] ∧ (variadic = true → ∃ element, params.getLast? = some (.slice element))
  | _ => False

/-- As to its root. -/
def Plain : Unfolding → Prop
  | .func params results variadic typeParams =>
    PlainFunc (.func params results variadic typeParams)
  | .interface methods => ∀ m ∈ methods, Token.IsIdent m.1 ∧ m.2.PlainFunc
  | .struct fields => ∀ f ∈ fields, Token.IsIdent f.1
  | .named name => IsOwnName name
  | .typeParam _ => False
  | _ => True

/-- The node has the names that stand at the root. -/
def RootOf (f : TypeId → Option Unfolding) (kind : TypeKind) : Unfolding → Prop
  | .func params results variadic typeParams =>
    ∃ sig, kind = .func sig ∧ sig.unfoldWith f = some (.func params results variadic typeParams)
  | .interface methods => ∃ ms, kind = .interface ms ∧
    ∀ p ∈ methods, ∃ m ∈ ms, m.name = p.1 ∧ m.sig.unfoldWith f = some p.2
  | .struct fields => ∃ fs, kind = .struct fs ∧ ∀ p ∈ fields, ∃ f ∈ fs, f.name = p.1
  | .named name => ∃ body typeParams, kind = .named name body typeParams
  | .typeParam name => kind = .typeParam name
  | _ => True

end Unfolding

namespace TypeGraph

variable {g : TypeGraph} {u : Unfolding}

theorem Unfolds.of_aliasHops {a b : TypeId} (hops : ReflTransGen g.AliasHop a b)
    (h : g.Unfolds a u) : g.Unfolds b u := by
  induction hops with
  | refl => exact h
  | tail _ hop ih =>
    obtain ⟨name, hnode⟩ := hop
    exact ih.exists_unfoldWith hnode

theorem plainFunc_of_unfoldWith {sig : FuncSig} {depth : Nat} (h : sig.Plain g)
    (hu : sig.unfoldWith (g.unfoldIn depth) = some u) : u.PlainFunc := by
  obtain ⟨params, results, hparams, _, rfl⟩ := FuncSig.unfoldWith_eq_some_iff.1 hu
  refine ⟨h.typeParams, fun hvariadic => ?_⟩
  obtain ⟨last, slice, element, hlast, hops, hslice⟩ := h.variadic hvariadic
  obtain ⟨v, hv, hdepth⟩ := exists_getLast?_of_mapM hparams hlast
  obtain ⟨w, rfl⟩ := (Unfolds.of_aliasHops hops ⟨depth, hdepth⟩).exists_slice hslice
  exact ⟨w, hv⟩

/-- The names at the root of a tree are those of the node that it is the tree of. -/
theorem rootOf_of_unfoldWith {kind : TypeKind} {f : TypeId → Option Unfolding}
    (halias : kind.isAlias = false) (hu : kind.unfoldWith f = some u) : u.RootOf f kind := by
  cases kind with
  | func sig =>
    obtain ⟨params, results, _, _, rfl⟩ := FuncSig.unfoldWith_eq_some_iff.1 hu
    exact ⟨sig, rfl, hu⟩
  | interface methods =>
    cases methods with
    | nil =>
      cases hu
      trivial
    | cons m rest =>
      obtain ⟨found, hfound, rfl⟩ :=
        (TypeKind.unfoldWith_interface_iff (List.cons_ne_nil m rest)).1 hu
      refine ⟨_, rfl, fun p hp => ?_⟩
      obtain ⟨m', hm', hname, hp⟩ := exists_mem_of_forall₂ hfound (List.mem_mergeSort.1 hp)
      exact ⟨m', hm', hname.symm, hp⟩
  | struct fields =>
    obtain ⟨found, hfound, rfl⟩ := TypeKind.unfoldWith_struct_iff.1 hu
    refine ⟨_, rfl, fun p hp => ?_⟩
    obtain ⟨field, hfield, hname, _⟩ := exists_mem_of_forall₂ hfound hp
    exact ⟨field, hfield, hname.symm⟩
  | named name body typeParams =>
    cases hu
    exact ⟨body, typeParams, rfl⟩
  | typeParam name =>
    cases hu
    rfl
  | aliasOf name target => cases halias
  | map key value =>
    obtain ⟨k, _, hu⟩ := Option.bind_eq_some_iff.1 hu
    obtain ⟨v, _, hu⟩ := Option.bind_eq_some_iff.1 hu
    cases hu
    trivial
  | slice element | array length element | pointer element | chan direction element =>
    obtain ⟨v, _, hu⟩ := Option.bind_eq_some_iff.1 hu
    cases hu
    trivial
  | _ =>
    cases hu
    trivial

/-- Of some node the tree has the names at its root. -/
theorem Unfolds.exists_rootOf {type : TypeId} (hu : g.Unfolds type u) :
    ∃ kind ∈ g.nodes, ∃ depth, u.RootOf (g.unfoldIn depth) kind := by
  obtain ⟨last, kind, depth, _, hkind, halias, hu⟩ := exists_node_of_unfolds hu
  exact ⟨kind, Array.mem_of_getElem? hkind, depth, rootOf_of_unfoldWith halias hu⟩

theorem Plain.unfolding (h : g.Plain) {type : TypeId} (hu : g.Unfolds type u) : u.Plain := by
  obtain ⟨kind, hkind, depth, hroot⟩ := hu.exists_rootOf
  have hplain := h kind hkind
  cases u with
  | func params results variadic typeParams =>
    obtain ⟨sig, rfl, hsig⟩ := hroot
    exact plainFunc_of_unfoldWith hplain hsig
  | interface methods =>
    obtain ⟨ms, rfl, hmethods⟩ := hroot
    intro p hp
    obtain ⟨m, hm, hname, hsig⟩ := hmethods p hp
    exact ⟨hname ▸ (hplain m hm).1, plainFunc_of_unfoldWith (hplain m hm).2 hsig⟩
  | struct fields =>
    obtain ⟨fs, rfl, hfields⟩ := hroot
    intro p hp
    obtain ⟨f, hf, hname⟩ := hfields p hp
    exact hname ▸ hplain f hf
  | named name =>
    obtain ⟨body, typeParams, rfl⟩ := hroot
    exact hplain
  | typeParam name =>
    cases hroot
    exact hplain.elim
  | _ => trivial

end TypeGraph

/-! ### Canonical types -/

/-- Without type parameters, and its last parameter is a slice if it collects arguments. -/
structure CanonFunc.Plain (s : Session) (f : CanonFunc) : Prop where
  typeParams : f.typeParams = []
  variadic : f.variadic = true →
    ∃ last element, f.params.getLast? = some last ∧ s.kind? last = some (.slice element)

def CanonKind.Plain (s : Session) : CanonKind → Prop
  | .func f => f.Plain s
  | .interface methods => ∀ m ∈ methods, Token.IsIdent m.name ∧ m.func.Plain s
  | .struct aliasName fields =>
    aliasName = structAlias (s.fieldListing fields) ∧ ∀ f ∈ fields, Token.IsIdent f.1
  | .named name _ => IsOwnName name
  | .typeParam _ => False
  | _ => True

namespace Session

variable {g : TypeGraph} {s : Session}

def Plain (s : Session) : Prop := ∀ id kind, s.kind? id = some kind → kind.Plain s

theorem Interned.kind?_eq_slice (h : s.Interned) {id : CanonId} {v : Unfolding}
    (hid : s.unfold id = .slice v) : ∃ element, s.kind? id = some (.slice element) := by
  cases hkind : s.kind? id with
  | none =>
    rw [unfold, unfoldIn, hkind] at hid
    cases hid
  | some kind =>
    rw [h.unfold_eq hkind] at hid
    cases kind with
    | slice element => exact ⟨element, rfl⟩
    | _ => cases hid

theorem Interned.plain_func (h : s.Interned) {f : CanonFunc}
    (hplain : (f.unfoldWith s.unfold).PlainFunc) : f.Plain s := by
  obtain ⟨htypeParams, hvariadic⟩ := hplain
  refine ⟨htypeParams, fun hv => ?_⟩
  obtain ⟨v, hlast⟩ := hvariadic hv
  rw [List.getLast?_map] at hlast
  obtain ⟨last, hlast, hslice⟩ := Option.map_eq_some_iff.1 hlast
  obtain ⟨element, helement⟩ := h.kind?_eq_slice hslice
  exact ⟨last, element, hlast, helement⟩

theorem Valid.plain (h : s.Valid g) (hg : g.Plain) : s.Plain := by
  intro id kind hkind
  obtain ⟨type, htype⟩ := h.origin id (lt_size_of_kind? hkind)
  have hplain := hg.unfolding htype
  rw [h.interned.unfold_eq hkind] at hplain
  cases kind with
  | func f => exact h.interned.plain_func hplain
  | interface methods =>
    intro m hm
    obtain ⟨hname, hfunc⟩ := hplain _ (List.mem_map_of_mem hm)
    exact ⟨hname, h.interned.plain_func hfunc⟩
  | struct aliasName fields =>
    refine ⟨h.interned.aliased id _ _ hkind, fun f hf => ?_⟩
    exact hplain _ (List.mem_map_of_mem hf)
  | _ => exact hplain

end Session
end ScriptBind
