import ScriptBind.Proofs.Canon.Plain
import ScriptBind.Proofs.Canon.Written
import ScriptBind.Proofs.Text.Over

/-!
# ScriptBind.Proofs.Canon.Lettering

Which characters types are written in: those of the names in them, and printable ones.

* `TypeKind.Over`, `CanonKind.Over` - the names that a node or a canonical type holds.
* `Session.typeString_over` - what a type is called, given the names in the table.
* `Session.Valid.over` - the names in the table are names of the graph, or made from a hash.
-/

namespace ScriptBind

open Text (IsShown)

variable {Q : Char → Prop}

/-! ### Names -/

def FuncSig.Over (Q : Char → Prop) (sig : FuncSig) : Prop :=
  ∀ param ∈ sig.allTypeParams, Text.Over Q param

/-- The names that stand in the node itself and are part of what it means. -/
def TypeKind.Over (Q : Char → Prop) : TypeKind → Prop
  | .func sig => sig.Over Q
  | .interface methods => ∀ m ∈ methods, Text.Over Q m.name ∧ m.sig.Over Q
  | .struct fields => ∀ f ∈ fields, Text.Over Q f.name
  | .named name _ _ => Text.Over Q name
  | .typeParam name => Text.Over Q name
  | _ => True

def TypeGraph.Over (Q : Char → Prop) (g : TypeGraph) : Prop := ∀ kind ∈ g.nodes, kind.Over Q

def Unfolding.OverFunc (Q : Char → Prop) : Unfolding → Prop
  | .func _ _ _ typeParams => ∀ param ∈ typeParams, Text.Over Q param
  | _ => False

/-- As to its root. -/
def Unfolding.Over (Q : Char → Prop) : Unfolding → Prop
  | .func params results variadic typeParams =>
    OverFunc Q (.func params results variadic typeParams)
  | .interface methods => ∀ m ∈ methods, Text.Over Q m.1 ∧ m.2.OverFunc Q
  | .struct fields => ∀ f ∈ fields, Text.Over Q f.1
  | .named name => Text.Over Q name
  | .typeParam name => Text.Over Q name
  | _ => True

def CanonFunc.Over (Q : Char → Prop) (f : CanonFunc) : Prop :=
  ∀ param ∈ f.typeParams, Text.Over Q param

def CanonKind.Over (Q : Char → Prop) : CanonKind → Prop
  | .func f => f.Over Q
  | .interface methods => ∀ m ∈ methods, Text.Over Q m.name ∧ m.func.Over Q
  | .struct aliasName fields => Text.Over Q aliasName ∧ ∀ f ∈ fields, Text.Over Q f.1
  | .named name _ => Text.Over Q name
  | .typeParam name => Text.Over Q name
  | _ => True

/-! ### Types in writing -/

section Written

variable {text elementText : CanonId → String} (hshown : Text.Shows Q)
  (htext : ∀ r, Text.Over Q (text r)) (helement : ∀ r, Text.Over Q (elementText r))

include hshown htext

theorem over_resultString (results : List CanonId) :
    Text.Over Q (Session.resultString text results) := by
  match results with
  | [] => exact Text.over_empty
  | [r] => exact (hshown.fixed (by decide)).append (htext r)
  | r :: r' :: rest =>
    refine ((hshown.fixed (by decide)).append (Text.over_intercalate ?_ ?_)).append
      (hshown.fixed (by decide))
    · exact hshown.fixed (by decide)
    · exact List.forall_mem_map.2 fun r _ => htext r

include helement

theorem over_paramStrings (variadic : Bool) (params : List CanonId) :
    ∀ part ∈ Session.paramStrings text elementText variadic params, Text.Over Q part := by
  induction params with
  | nil => exact List.forall_mem_nil _
  | cons p rest ih =>
    cases rest with
    | nil =>
      rw [Session.paramStrings]
      split
      · exact List.forall_mem_singleton.2 ((hshown.fixed (by decide)).append (helement p))
      · exact List.forall_mem_singleton.2 (htext p)
    | cons q rest => exact List.forall_mem_cons.2 ⟨htext p, ih⟩

theorem over_funcStringWith {f : CanonFunc} (hf : f.Over Q) :
    Text.Over Q (Session.funcStringWith text elementText f) := by
  have hcomma : Text.Over Q ", " := hshown.fixed (by decide)
  have hparams : Text.Over Q (", ".intercalate
      (Session.paramStrings text elementText f.variadic f.params)) :=
    Text.over_intercalate hcomma (over_paramStrings hshown htext helement f.variadic f.params)
  refine ((Text.Over.append ?_ (hshown.fixed (by decide))).append hparams).append
    (hshown.fixed (by decide)) |>.append (over_resultString hshown htext f.results)
  split
  · exact Text.over_empty
  · exact ((hshown.fixed (by decide)).append (Text.over_intercalate hcomma hf)).append
      (hshown.fixed (by decide))

theorem CanonKind.over_written {kind : CanonKind} (hkind : kind.Over Q) :
    Text.Over Q (kind.written text elementText) := by
  cases kind with
  | bool | unsafePointer | string | any | error =>
    rw [written]
    exact hshown.fixed (by decide)
  | int width signedness =>
    cases signedness <;>
      exact (hshown.fixed (by decide)).append (hshown.number width)
  | float precision =>
    rw [written]
    cases precision <;> exact hshown.fixed (by decide)
  | complex bits => exact (hshown.fixed (by decide)).append (hshown.number bits)
  | slice element | pointer element =>
    exact (hshown.fixed (by decide)).append (htext element)
  | array length element =>
    exact (((hshown.fixed (by decide)).append (hshown.number length)).append
      (hshown.fixed (by decide))).append (htext element)
  | map key value =>
    exact (((hshown.fixed (by decide)).append (htext key)).append
      (hshown.fixed (by decide))).append (htext value)
  | func f =>
    exact (hshown.fixed (by decide)).append (over_funcStringWith hshown htext helement hkind)
  | chan direction element =>
    cases direction <;> exact (hshown.fixed (by decide)).append (htext element)
  | interface methods =>
    refine ((hshown.fixed (by decide)).append (Text.over_intercalate
      (hshown.fixed (by decide)) (List.forall_mem_map.2 fun m hm => ?_))).append
      (hshown.fixed (by decide))
    exact (hkind m hm).1.append (over_funcStringWith hshown htext helement (hkind m hm).2)
  | struct aliasName fields => exact hkind.1
  | named name underlying | typeParam name => exact hkind

end Written

namespace Session

variable {g : TypeGraph} {s : Session}

theorem typeStringIn_over (hshown : Text.Shows Q)
    (h : ∀ id kind, s.kind? id = some kind → kind.Over Q) (fuel : Nat) :
    ∀ id, Text.Over Q (s.typeStringIn fuel id) := by
  induction fuel with
  | zero => exact fun _ => Text.over_empty
  | succ fuel ih =>
    intro id
    cases hid : s.kind? id with
    | none =>
      rw [typeStringIn, hid]
      exact Text.over_empty
    | some kind =>
      rw [typeStringIn_succ hid]
      exact CanonKind.over_written hshown ih (fun r => ih (s.element r)) (h id kind hid)

theorem typeString_over (hshown : Text.Shows Q)
    (h : ∀ id kind, s.kind? id = some kind → kind.Over Q) (id : CanonId) :
    Text.Over Q (s.typeString id) :=
  typeStringIn_over hshown h (id + 1) id

end Session

/-! ### Names of the graph and of the table -/

theorem isShown_digitChar : ∀ d < 16, IsShown (Nat.digitChar d) := by decide

theorem over_structAlias (listing : String) : Text.Over IsShown (structAlias listing) := by
  refine Text.Over.append (by decide) fun c hc => ?_
  obtain ⟨d, hd, rfl⟩ := mem_hexPadded hc
  exact isShown_digitChar d hd

namespace TypeGraph

variable {g : TypeGraph} {u : Unfolding}

theorem overFunc_of_unfoldWith {sig : FuncSig} {unfold : TypeId → Option Unfolding}
    (h : sig.Over Q) (hu : sig.unfoldWith unfold = some u) : u.OverFunc Q := by
  obtain ⟨params, results, _, _, rfl⟩ := FuncSig.unfoldWith_eq_some_iff.1 hu
  exact h

theorem Over.unfolding (h : g.Over Q) {type : TypeId} (hu : g.Unfolds type u) : u.Over Q := by
  obtain ⟨kind, hkind, depth, hroot⟩ := hu.exists_rootOf
  have hover := h kind hkind
  cases u with
  | func params results variadic typeParams =>
    obtain ⟨sig, rfl, hsig⟩ := hroot
    exact overFunc_of_unfoldWith hover hsig
  | interface methods =>
    obtain ⟨ms, rfl, hmethods⟩ := hroot
    intro p hp
    obtain ⟨m, hm, hname, hsig⟩ := hmethods p hp
    exact ⟨hname ▸ (hover m hm).1, overFunc_of_unfoldWith (hover m hm).2 hsig⟩
  | struct fields =>
    obtain ⟨fs, rfl, hfields⟩ := hroot
    intro p hp
    obtain ⟨f, hf, hname⟩ := hfields p hp
    exact hname ▸ hover f hf
  | named name =>
    obtain ⟨body, typeParams, rfl⟩ := hroot
    exact hover
  | typeParam name =>
    cases hroot
    exact hover
  | _ => trivial

end TypeGraph

theorem Session.Valid.over {g : TypeGraph} {s : Session} (h : s.Valid g)
    (hshown : Text.Shows Q) (hg : g.Over Q) {id : CanonId} {kind : CanonKind}
    (hkind : s.kind? id = some kind) : kind.Over Q := by
  obtain ⟨type, htype⟩ := h.origin id (lt_size_of_kind? hkind)
  have hover := hg.unfolding htype
  rw [h.interned.unfold_eq hkind] at hover
  cases kind with
  | func f => exact hover
  | interface methods => exact fun m hm => hover _ (List.mem_map_of_mem hm)
  | struct aliasName fields =>
    rw [h.interned.aliased id _ _ hkind]
    exact ⟨(over_structAlias _).mono hshown.shown, fun f hf => hover _ (List.mem_map_of_mem hf)⟩
  | _ => exact hover

end ScriptBind
