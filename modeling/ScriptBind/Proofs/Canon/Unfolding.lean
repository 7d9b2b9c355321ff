import Mathlib.Logic.Relation
import ScriptBind.Canon.Normalize
import ScriptBind.Proofs.Lists

/-!
# ScriptBind.Proofs.Canon.Unfolding

What a type means, written out as a tree. A type graph and a table of canonical types are two ways
to hold such trees, and a type is canonical when its tree is in the table.

* `Unfolding` - the trees; a named type is a leaf.
* `TypeGraph.unfoldIn`, `TypeGraph.Unfolds` - the tree of a graph node.
* `Session.unfold` - the tree of a canonical type.
* `FuncSig.unfoldWith_eq_some_iff`, `TypeKind.unfoldWith_struct_iff`,
  `TypeKind.unfoldWith_interface_iff` - a tree of several parts, taken apart.
* `TypeGraph.Unfolds.unique` - a node has one tree at most.
-/

namespace ScriptBind

/-- A canonical type without sharing. The parameters of a function have no names, and its receiver
is the first of them. -/
inductive Unfolding where
  | bool
  | int (width : Nat) (signedness : Signedness)
  | float (precision : Precision)
  | complex (bits : Nat)
  | unsafePointer
  | string
  | slice (element : Unfolding)
  | array (length : Nat) (element : Unfolding)
  | map (key value : Unfolding)
  | pointer (element : Unfolding)
  | func (params results : List Unfolding) (variadic : Bool) (typeParams : List String)
  | chan (direction : ChanDir) (element : Unfolding)
  /-- Each method is a function; they stand in the order of their names. -/
  | interface (methods : List (String × Unfolding))
  | any
  | error
  | struct (fields : List (String × Unfolding))
  /-- Whatever stands behind the name. -/
  | named (name : String)
  | typeParam (name : String)

/-! ### Of a graph node -/

namespace FuncSig

/-- The types of the receiver, if any, and of the parameters. -/
def inputs (sig : FuncSig) : List TypeId :=
  sig.receiver.toList.map (·.type) ++ sig.params.map (·.type)

def outputs (sig : FuncSig) : List TypeId := sig.results.map (·.type)

/-- Those of the receiver count when the signature has none. -/
def allTypeParams (sig : FuncSig) : List String :=
  match sig.receiver with
  | none => sig.typeParams
  | some receiver => if sig.typeParams.isEmpty then receiver.typeParams else sig.typeParams

def unfoldWith (unfold : TypeId → Option Unfolding) (sig : FuncSig) : Option Unfolding := do
  let params ← sig.inputs.mapM unfold
  let results ← sig.outputs.mapM unfold
  return .func params results sig.variadic sig.allTypeParams

end FuncSig

namespace TypeKind

/-- The tree of a node, given the trees of the nodes that it refers to. -/
def unfoldWith (unfold : TypeId → Option Unfolding) : TypeKind → Option Unfolding
  | .bool => some .bool
  | .int width signedness => some (.int width signedness)
  | .float precision => some (.float precision)
  | .complex bits => some (.complex bits)
  | .unsafePointer => some .unsafePointer
  | .string => some .string
  | .error => some .error
  | .typeParam name => some (.typeParam name)
  | .slice element => return .slice (← unfold element)
  | .array length element => return .array length (← unfold element)
  | .map key value => return .map (← unfold key) (← unfold value)
  | .pointer element => return .pointer (← unfold element)
  | .chan direction element => return .chan direction (← unfold element)
  | .func sig => sig.unfoldWith unfold
  | .interface [] => some .any
  | .interface methods => do
    let found ← methods.mapM fun m => return (m.name, ← m.sig.unfoldWith unfold)
    return .interface (found.mergeSort fun a b => a.1 ≤ b.1)
  | .struct fields => return .struct (← fields.mapM fun f => return (f.name, ← unfold f.type))
  | .aliasOf _ target => unfold target
  | .named name _ _ => some (.named name)

end TypeKind

namespace TypeGraph

/-- Missing when the node does not exist or lies deeper than the number allows. -/
def unfoldIn (g : TypeGraph) : Nat → TypeId → Option Unfolding
  | 0, _ => none
  | depth + 1, type => do (← g.nodes[type]?).unfoldWith (g.unfoldIn depth)

/-- The node has this tree. -/
def Unfolds (g : TypeGraph) (type : TypeId) (u : Unfolding) : Prop :=
  ∃ depth, g.unfoldIn depth type = some u

end TypeGraph

/-! ### Of a canonical type -/

def CanonFunc.unfoldWith (unfold : CanonId → Unfolding) (f : CanonFunc) : Unfolding :=
  .func (f.params.map unfold) (f.results.map unfold) f.variadic f.typeParams

def CanonKind.unfoldWith (unfold : CanonId → Unfolding) : CanonKind → Unfolding
  | .bool => .bool
  | .int width signedness => .int width signedness
  | .float precision => .float precision
  | .complex bits => .complex bits
  | .unsafePointer => .unsafePointer
  | .string => .string
  | .slice element => .slice (unfold element)
  | .array length element => .array length (unfold element)
  | .map key value => .map (unfold key) (unfold value)
  | .pointer element => .pointer (unfold element)
  | .func f => f.unfoldWith unfold
  | .chan direction element => .chan direction (unfold element)
  | .interface methods => .interface (methods.map fun m => (m.name, m.func.unfoldWith unfold))
  | .any => .any
  | .error => .error
  | .struct _ fields => .struct (fields.map fun f => (f.1, unfold f.2))
  | .named name _ => .named name
  | .typeParam name => .typeParam name

namespace Session

def unfoldIn (s : Session) : Nat → CanonId → Unfolding
  | 0, _ => .any
  | depth + 1, id =>
    match s.kind? id with
    | none => .any
    | some kind => kind.unfoldWith (s.unfoldIn depth)

/-- The tree of a canonical type, which refers to earlier ones only. -/
def unfold (s : Session) (id : CanonId) : Unfolding := s.unfoldIn (id + 1) id

end Session

/-! ### A tree and its parts -/

/-- Parts with names: the methods of an interface or the fields of a struct. -/
theorem mapM_named_eq_some_iff {α : Type} {items : List α} {found : List (String × Unfolding)}
    {name : α → String} {t : α → Option Unfolding} :
    items.mapM (fun x => do return (name x, ← t x)) = some found ↔
      List.Forall₂ (fun x p => p.1 = name x ∧ t x = some p.2) items found := by
  have hpart : ∀ x p, (do return (name x, ← t x)) = some p ↔ p.1 = name x ∧ t x = some p.2 := by
    rintro x ⟨found, u⟩
    constructor
    · intro h
      obtain ⟨v, hv, h⟩ := Option.bind_eq_some_iff.1 h
      cases h
      exact ⟨rfl, hv⟩
    · rintro ⟨rfl, hu⟩
      rw [hu]
      rfl
  rw [mapM_eq_some_iff]
  exact ⟨fun h => h.imp fun x p => (hpart x p).1, fun h => h.imp fun x p => (hpart x p).2⟩

section Parts

variable {f : TypeId → Option Unfolding} {u : Unfolding}

theorem FuncSig.unfoldWith_eq_some_iff {sig : FuncSig} :
    sig.unfoldWith f = some u ↔ ∃ params results, sig.inputs.mapM f = some params ∧
      sig.outputs.mapM f = some results ∧
      u = .func params results sig.variadic sig.allTypeParams := by
  constructor
  · intro h
    obtain ⟨params, hparams, h⟩ := Option.bind_eq_some_iff.1 h
    obtain ⟨results, hresults, h⟩ := Option.bind_eq_some_iff.1 h
    exact ⟨params, results, hparams, hresults, (Option.some.inj h).symm⟩
  · rintro ⟨params, results, hparams, hresults, rfl⟩
    rw [unfoldWith, hparams, hresults]
    rfl

theorem TypeKind.unfoldWith_struct_iff {fields : List Field} :
    (TypeKind.struct fields).unfoldWith f = some u ↔ ∃ found,
      List.Forall₂ (fun field p => p.1 = field.name ∧ f field.type = some p.2) fields found ∧
      u = .struct found := by
  constructor
  · intro h
    obtain ⟨found, hfound, h⟩ := Option.bind_eq_some_iff.1 h
    exact ⟨found, mapM_named_eq_some_iff.1 hfound, (Option.some.inj h).symm⟩
  · rintro ⟨found, hfound, rfl⟩
    exact Option.bind_eq_some_iff.2 ⟨found, mapM_named_eq_some_iff.2 hfound, rfl⟩

/-- An interface with methods; one without is `any`. -/
theorem TypeKind.unfoldWith_interface_iff {methods : List Method} (hne : methods ≠ []) :
    (TypeKind.interface methods).unfoldWith f = some u ↔ ∃ found,
      List.Forall₂ (fun m p => p.1 = m.name ∧ m.sig.unfoldWith f = some p.2) methods found ∧
      u = .interface (found.mergeSort fun a b => a.1 ≤ b.1) := by
  rw [unfoldWith]
  · constructor
    · intro h
      obtain ⟨found, hfound, h⟩ := Option.bind_eq_some_iff.1 h
      exact ⟨found, mapM_named_eq_some_iff.1 hfound, (Option.some.inj h).symm⟩
    · rintro ⟨found, hfound, rfl⟩
      exact Option.bind_eq_some_iff.2 ⟨found, mapM_named_eq_some_iff.2 hfound, rfl⟩
  · exact hne

end Parts

/-! ### Depth -/

section Mono

variable {f f' : TypeId → Option Unfolding} (h : ∀ type u, f type = some u → f' type = some u)

include h

theorem mapM_mono {types : List TypeId} {us : List Unfolding} (hf : types.mapM f = some us) :
    types.mapM f' = some us :=
  mapM_eq_some_iff.2 ((mapM_eq_some_iff.1 hf).imp h)

theorem FuncSig.unfoldWith_mono {sig : FuncSig} {u : Unfolding}
    (hf : sig.unfoldWith f = some u) : sig.unfoldWith f' = some u := by
  obtain ⟨params, results, hparams, hresults, rfl⟩ := FuncSig.unfoldWith_eq_some_iff.1 hf
  exact FuncSig.unfoldWith_eq_some_iff.2
    ⟨params, results, mapM_mono h hparams, mapM_mono h hresults, rfl⟩

theorem TypeKind.unfoldWith_mono {kind : TypeKind} {u : Unfolding}
    (hf : kind.unfoldWith f = some u) : kind.unfoldWith f' = some u := by
  cases kind with
  | slice element | pointer element | array length element | chan direction element =>
    obtain ⟨v, hv, hf⟩ := Option.bind_eq_some_iff.1 hf
    exact Option.bind_eq_some_iff.2 ⟨v, h _ _ hv, hf⟩
  | map key value =>
    obtain ⟨k, hk, hf⟩ := Option.bind_eq_some_iff.1 hf
    obtain ⟨v, hv, hf⟩ := Option.bind_eq_some_iff.1 hf
    refine Option.bind_eq_some_iff.2 ⟨k, h _ _ hk, ?_⟩
    exact Option.bind_eq_some_iff.2 ⟨v, h _ _ hv, hf⟩
  | func sig => exact FuncSig.unfoldWith_mono h hf
  | interface methods =>
    cases methods with
    | nil => exact hf
    | cons m rest =>
      have hne := List.cons_ne_nil m rest
      obtain ⟨found, hfound, rfl⟩ := (TypeKind.unfoldWith_interface_iff hne).1 hf
      refine (TypeKind.unfoldWith_interface_iff hne).2 ⟨found, hfound.imp fun m p hp => ?_, rfl⟩
      exact ⟨hp.1, FuncSig.unfoldWith_mono h hp.2⟩
  | struct fields =>
    obtain ⟨found, hfound, rfl⟩ := TypeKind.unfoldWith_struct_iff.1 hf
    refine TypeKind.unfoldWith_struct_iff.2 ⟨found, hfound.imp fun field p hp => ?_, rfl⟩
    exact ⟨hp.1, h _ _ hp.2⟩
  | aliasOf name target => exact h _ _ hf
  | _ => exact hf

end Mono

namespace TypeGraph

variable {g : TypeGraph} {type : TypeId} {u : Unfolding}

theorem unfoldIn_eq_some_iff {depth : Nat} :
    g.unfoldIn depth type = some u ↔ ∃ less kind, depth = less + 1 ∧
      g.nodes[type]? = some kind ∧ kind.unfoldWith (g.unfoldIn less) = some u := by
  cases depth with
  | zero => simp [unfoldIn]
  | succ depth =>
    rw [unfoldIn]
    constructor
    · intro h
      obtain ⟨kind, hkind, h⟩ := Option.bind_eq_some_iff.1 h
      exact ⟨depth, kind, rfl, hkind, h⟩
    · rintro ⟨_, kind, ⟨⟩, hkind, h⟩
      exact Option.bind_eq_some_iff.2 ⟨kind, hkind, h⟩

theorem Unfolds.exists_kind (h : g.Unfolds type u) :
    ∃ kind depth, g.nodes[type]? = some kind ∧ kind.unfoldWith (g.unfoldIn depth) = some u := by
  obtain ⟨depth, h⟩ := h
  obtain ⟨less, kind, _, hkind, h⟩ := unfoldIn_eq_some_iff.1 h
  exact ⟨kind, less, hkind, h⟩

theorem Unfolds.exists_unfoldWith {kind : TypeKind} (h : g.Unfolds type u)
    (hkind : g.nodes[type]? = some kind) :
    ∃ depth, kind.unfoldWith (g.unfoldIn depth) = some u := by
  obtain ⟨found, depth, hfound, h⟩ := h.exists_kind
  cases hkind.symm.trans hfound
  exact ⟨depth, h⟩

theorem Unfolds.exists_slice {element : TypeId} (h : g.Unfolds type u)
    (hnode : g.nodes[type]? = some (.slice element)) : ∃ v, u = .slice v := by
  obtain ⟨depth, h⟩ := h.exists_unfoldWith hnode
  obtain ⟨v, _, hv⟩ := Option.bind_eq_some_iff.1 h
  exact ⟨v, (Option.some.inj hv).symm⟩

theorem unfolds_of_unfoldWith {kind : TypeKind} {depth : Nat} (hkind : g.nodes[type]? = some kind)
    (h : kind.unfoldWith (g.unfoldIn depth) = some u) : g.Unfolds type u :=
  ⟨depth + 1, unfoldIn_eq_some_iff.2 ⟨depth, kind, rfl, hkind, h⟩⟩

theorem unfoldIn_succ {depth : Nat} : ∀ {type : TypeId} {u : Unfolding},
    g.unfoldIn depth type = some u → g.unfoldIn (depth + 1) type = some u := by
  induction depth with
  | zero =>
    intro type u h
    cases h
  | succ depth ih =>
    intro type u h
    obtain ⟨_, kind, ⟨⟩, hkind, h⟩ := unfoldIn_eq_some_iff.1 h
    exact unfoldIn_eq_some_iff.2
      ⟨_, kind, rfl, hkind, TypeKind.unfoldWith_mono (fun _ _ => ih) h⟩

theorem unfoldIn_of_le {depth depth' : Nat} (hle : depth ≤ depth')
    (h : g.unfoldIn depth type = some u) : g.unfoldIn depth' type = some u := by
  induction hle with
  | refl => exact h
  | step _ ih => exact unfoldIn_succ ih

theorem exists_mapM_unfoldIn {types : List TypeId} {us : List Unfolding}
    (h : List.Forall₂ g.Unfolds types us) : ∃ depth, types.mapM (g.unfoldIn depth) = some us := by
  obtain ⟨depth, h⟩ := exists_depth (P := fun n type u => g.unfoldIn n type = some u)
    (fun _ _ _ _ => unfoldIn_of_le) h
  exact ⟨depth, mapM_eq_some_iff.2 h⟩

theorem exists_unfoldWith_sig {sig : FuncSig} {us vs : List Unfolding}
    (hinputs : List.Forall₂ g.Unfolds sig.inputs us)
    (houtputs : List.Forall₂ g.Unfolds sig.outputs vs) :
    ∃ depth, sig.unfoldWith (g.unfoldIn depth) =
      some (.func us vs sig.variadic sig.allTypeParams) := by
  obtain ⟨n, hn⟩ := exists_mapM_unfoldIn hinputs
  obtain ⟨m, hm⟩ := exists_mapM_unfoldIn houtputs
  exact ⟨max n m, FuncSig.unfoldWith_eq_some_iff.2 ⟨us, vs,
    mapM_mono (fun _ _ => unfoldIn_of_le (Nat.le_max_left n m)) hn,
    mapM_mono (fun _ _ => unfoldIn_of_le (Nat.le_max_right n m)) hm, rfl⟩⟩

theorem exists_unfoldWith_struct {fields : List Field} {found : List (String × Unfolding)}
    (h : List.Forall₂ (fun f p => p.1 = f.name ∧ g.Unfolds f.type p.2) fields found) :
    ∃ depth, (TypeKind.struct fields).unfoldWith (g.unfoldIn depth) = some (.struct found) := by
  have hmono : ∀ (n m : Nat) (f : Field) (p : String × Unfolding), n ≤ m →
      p.1 = f.name ∧ g.unfoldIn n f.type = some p.2 →
      p.1 = f.name ∧ g.unfoldIn m f.type = some p.2 :=
    fun n m f p hle hp => ⟨hp.1, unfoldIn_of_le hle hp.2⟩
  obtain ⟨depth, h⟩ := exists_depth hmono (h.imp fun _ _ ⟨hname, depth, hp⟩ => ⟨depth, hname, hp⟩)
  exact ⟨depth, TypeKind.unfoldWith_struct_iff.2 ⟨found, h, rfl⟩⟩

theorem exists_unfoldWith_interface {methods : List Method} {found : List (String × Unfolding)}
    (hne : methods ≠ [])
    (h : List.Forall₂ (fun m p => p.1 = m.name ∧
      ∃ depth, m.sig.unfoldWith (g.unfoldIn depth) = some p.2) methods found) :
    ∃ depth, (TypeKind.interface methods).unfoldWith (g.unfoldIn depth) =
      some (.interface (found.mergeSort fun a b => a.1 ≤ b.1)) := by
  have hmono : ∀ (n k : Nat) (m : Method) (p : String × Unfolding), n ≤ k →
      p.1 = m.name ∧ m.sig.unfoldWith (g.unfoldIn n) = some p.2 →
      p.1 = m.name ∧ m.sig.unfoldWith (g.unfoldIn k) = some p.2 :=
    fun n k m p hle hp => ⟨hp.1, FuncSig.unfoldWith_mono (fun _ _ => unfoldIn_of_le hle) hp.2⟩
  obtain ⟨depth, h⟩ := exists_depth hmono (h.imp fun _ _ ⟨hname, depth, hp⟩ => ⟨depth, hname, hp⟩)
  exact ⟨depth, (TypeKind.unfoldWith_interface_iff hne).2 ⟨found, h, rfl⟩⟩

theorem Unfolds.unique {v : Unfolding} (hu : g.Unfolds type u) (hv : g.Unfolds type v) :
    u = v := by
  obtain ⟨n, hn⟩ := hu
  obtain ⟨m, hm⟩ := hv
  have hn' := unfoldIn_of_le (Nat.le_max_left n m) hn
  have hm' := unfoldIn_of_le (Nat.le_max_right n m) hm
  exact Option.some.inj (hn'.symm.trans hm')

end TypeGraph
end ScriptBind
