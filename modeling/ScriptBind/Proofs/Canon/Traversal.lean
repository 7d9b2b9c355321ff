import ScriptBind.Proofs.Canon.Steps
import ScriptBind.Proofs.TypeGraph.Reach

/-!
# ScriptBind.Proofs.Canon.Traversal

What it means to normalize a node, from any session and whatever the graph.

* `CanonError.Justified` - what an error says about the graph and the session.
* `Session.meets_normalizeIn_succ` - one step, given what the steps to the parts of a node meet.
* `Session.meets_normalizeIn` - an answer has the tree of the node, and an error is justified; by
  induction on the bound.
-/

namespace ScriptBind

open CanonM (Meets)

/-! ### Errors -/

open Classical in
/-- The number of named types whose names are not in the table. -/
noncomputable def TypeGraph.pending (g : TypeGraph) (s : Session) : Nat :=
  ((Finset.range g.size).filter fun id =>
    ∃ name, g.IsNamed id name ∧ s.findNamed name = none).card

/-- What an error says about the graph, when it came up at `type` in the session `s` with a bound of
`fuel`. A name that is unresolved was so in `s`, or its type leads to the type that it defines. -/
def CanonError.Justified (g : TypeGraph) (fuel : Nat) (s : Session) (type : TypeId) :
    CanonError → Prop
  | .graph e => ∃ id, e = .unknownType id ∧ g.Reaches type id ∧ g.nodes[id]? = none
  | .undefinedNamed name =>
    ∃ (id : TypeId) (typeParams : List String),
      g.Reaches type id ∧ g.nodes[id]? = some (.named name none typeParams)
  | .unresolvedNamed name other =>
    ∃ a b, g.Reaches type a ∧ g.IsNamed a name ∧ g.DefinedBy a b ∧ g.IsNamed b other ∧
      (s.Unresolved other ∨ ∃ c, g.IsNamed c other ∧ g.Reaches type c ∧ g.Reaches c a)
  | .conflictingTypeParams _ _ _ =>
    ∃ (id : TypeId) (kind : TypeKind) (sig : FuncSig),
      g.Reaches type id ∧ g.nodes[id]? = some kind ∧ sig ∈ kind.sigs ∧ sig.Conflicts
  | .endless _ =>
    ∀ height : TypeId → Nat, (∀ a b, g.Inside a b → height b < height a) →
      (∀ a, height a ≤ g.size) → fuel ≤ g.pending s * (g.size + 1) + height type

namespace Session

variable {g : TypeGraph} {s s' : Session} {type child : TypeId} {fuel : Nat} {e : CanonError}

theorem findNamed_eq_none_iff {name : String} :
    s.findNamed name = none ↔ ∀ id underlying, s.kind? id ≠ some (.named name underlying) := by
  refine ⟨not_named_of_findNamed, fun h => ?_⟩
  cases hfound : s.findNamed name with
  | none => rfl
  | some id =>
    obtain ⟨underlying, hid⟩ := kind?_of_findNamed hfound
    exact absurd hid (h id underlying)

theorem findNamed_eq_none_of_extends {name : String} (hext : s.Extends s')
    (h : s'.findNamed name = none) : s.findNamed name = none := by
  rw [findNamed_eq_none_iff] at h ⊢
  intro id underlying hid
  obtain ⟨underlying', hid'⟩ := hext.named hid
  exact h id underlying' hid'

theorem pending_le (hext : s.Extends s') : g.pending s' ≤ g.pending s := by
  classical
  refine Finset.card_le_card fun id hid => ?_
  rw [Finset.mem_filter] at hid ⊢
  obtain ⟨hrange, name, hname, hnone⟩ := hid
  exact ⟨hrange, name, hname, findNamed_eq_none_of_extends hext hnone⟩

theorem pending_lt {name : String} (hext : s.Extends s') (hname : g.IsNamed type name)
    (hnone : s.findNamed name = none) (hsome : s'.findNamed name ≠ none) :
    g.pending s' < g.pending s := by
  classical
  have hmem : type ∈ Finset.range g.size := by
    obtain ⟨_, _, hnode⟩ := hname
    exact Finset.mem_range.2 (TypeGraph.lt_size_of_node hnode)
  refine Finset.card_lt_card ((Finset.ssubset_iff_of_subset fun id hid => ?_).2 ⟨type, ?_, ?_⟩)
  · rw [Finset.mem_filter] at hid ⊢
    obtain ⟨hrange, found, hfound, hid⟩ := hid
    exact ⟨hrange, found, hfound, findNamed_eq_none_of_extends hext hid⟩
  · exact Finset.mem_filter.2 ⟨hmem, name, hname, hnone⟩
  · intro hid
    obtain ⟨_, found, ⟨_, _, hfound⟩, hid⟩ := Finset.mem_filter.1 hid
    obtain ⟨_, _, hnode⟩ := hname
    rw [hnode] at hfound
    cases hfound
    exact hsome hid

/-- From a part of a type to the type. -/
theorem justified_of_inside (hin : g.Inside type child) (hgrows : s.Grows s')
    (h : e.Justified g fuel s' child) : e.Justified g (fuel + 1) s type := by
  have hstep : ∀ {id}, g.Reaches child id → g.Reaches type id := .head hin.refers
  cases e with
  | graph e =>
    obtain ⟨id, he, hid, hnode⟩ := h
    exact ⟨id, he, hstep hid, hnode⟩
  | undefinedNamed name =>
    obtain ⟨id, typeParams, hid, hnode⟩ := h
    exact ⟨id, typeParams, hstep hid, hnode⟩
  | unresolvedNamed name other =>
    obtain ⟨a, b, ha, hname, hdef, hother, hwhy⟩ := h
    refine ⟨a, b, hstep ha, hname, hdef, hother, ?_⟩
    rcases hwhy with hwhy | ⟨c, hc, hchild, hca⟩
    · exact .inl (hgrows.unresolved other hwhy)
    · exact .inr ⟨c, hc, hstep hchild, hca⟩
  | conflictingTypeParams receiver ofReceiver own =>
    obtain ⟨id, kind, sig, hid, hrest⟩ := h
    exact ⟨id, kind, sig, hstep hid, hrest⟩
  | endless id =>
    intro height hheight hsize
    have hle := h height hheight hsize
    have hlt := hheight type child hin
    have hpending := Nat.mul_le_mul_right (g.size + 1) (pending_le (g := g) hgrows.extend)
    omega

/-- From the body of a named type, whose name was entered in between, to the type. -/
theorem justified_of_body {name : String} (hbody : g.BodyHop type child)
    (hname : g.IsNamed type name) (hnone : s.findNamed name = none)
    (h : e.Justified g fuel (s.reserve type name).1 child) :
    e.Justified g (fuel + 1) s type := by
  have hstep : ∀ {id}, g.Reaches child id → g.Reaches type id := .head hbody.refers
  have hsome : (s.reserve type name).1.findNamed name ≠ none := fun hnone =>
    not_named_of_findNamed hnone _ _ (kind?_reserve type)
  cases e with
  | graph e =>
    obtain ⟨id, he, hid, hnode⟩ := h
    exact ⟨id, he, hstep hid, hnode⟩
  | undefinedNamed found =>
    obtain ⟨id, typeParams, hid, hnode⟩ := h
    exact ⟨id, typeParams, hstep hid, hnode⟩
  | unresolvedNamed found other =>
    obtain ⟨a, b, ha, hfound, hdef, hother, hwhy⟩ := h
    refine ⟨a, b, hstep ha, hfound, hdef, hother, ?_⟩
    rcases hwhy with ⟨id, hid⟩ | ⟨c, hc, hchild, hca⟩
    · rcases kind?_push (s := s) hid with hid | ⟨_, hkind⟩
      · exact .inl ⟨id, hid⟩
      · cases hkind
        exact .inr ⟨type, hname, .refl, hstep ha⟩
    · exact .inr ⟨c, hc, hstep hchild, hca⟩
  | conflictingTypeParams receiver ofReceiver own =>
    obtain ⟨id, kind, sig, hid, hrest⟩ := h
    exact ⟨id, kind, sig, hstep hid, hrest⟩
  | endless id =>
    intro height hheight hsize
    have hle := h height hheight hsize
    have hchild := hsize child
    have hpending := Nat.mul_le_mul_right (g.size + 1)
      (pending_lt (extends_reserve type) hname hnone hsome)
    rw [Nat.succ_mul] at hpending
    omega

/-! ### Functions -/

/-- The canonical function has the tree of the signature. -/
structure RepresentsFunc (g : TypeGraph) (s : Session) (sig : FuncSig) (f : CanonFunc) : Prop where
  below : ∀ r ∈ f.refs, r < s.size
  entered : ∀ type ∈ sig.refs, s.Entered g type
  unfolds : ∃ depth, sig.unfoldWith (g.unfoldIn depth) = some (f.unfoldWith s.unfold)

theorem representsFunc_of_forall₂ {sig : FuncSig} {params results : List CanonId}
    (hparams : List.Forall₂ (s.Represents g) sig.inputs params)
    (hresults : List.Forall₂ (s.Represents g) sig.outputs results) :
    s.RepresentsFunc g sig ⟨params, results, sig.variadic, sig.allTypeParams⟩ := by
  refine ⟨fun r hr => ?_, fun type htype => ?_, ?_⟩
  · rcases List.mem_append.1 hr with hr | hr
    · exact forall_mem_of_forall₂ hparams (fun _ _ h => h.lt_size) r hr
    · exact forall_mem_of_forall₂ hresults (fun _ _ h => h.lt_size) r hr
  · rcases List.mem_append.1 htype with htype | htype
    · exact forall_mem_of_forall₂_left hparams (fun _ _ h => h.entered) type htype
    · exact forall_mem_of_forall₂_left hresults (fun _ _ h => h.entered) type htype
  · exact TypeGraph.exists_unfoldWith_sig
      (List.forall₂_map_right_iff.2 (hparams.imp fun _ _ h => h.unfolds))
      (List.forall₂_map_right_iff.2 (hresults.imp fun _ _ h => h.unfolds))

theorem RepresentsFunc.mono {sig : FuncSig} {f : CanonFunc} (h : s.RepresentsFunc g sig f)
    (hs : s.Interned) (hs' : s'.Interned) (hext : s.Extends s') :
    s'.RepresentsFunc g sig f := by
  obtain ⟨hbelow, hentered, depth, hdepth⟩ := h
  refine ⟨fun r hr => hext.lt_size (hbelow r hr), fun type htype => (hentered type htype).mono hext,
    depth, ?_⟩
  rw [CanonFunc.unfoldWith_congr fun r hr => hext.unfold_eq hs hs' (hbelow r hr)]
  exact hdepth

theorem exists_unfoldWith_interface {methods : List Method} {found : List CanonMethod}
    (hne : methods ≠ [])
    (h : List.Forall₂ (fun m f => f.name = m.name ∧ s.RepresentsFunc g m.sig f.func) methods
      found) :
    ∃ depth, (TypeKind.interface methods).unfoldWith (g.unfoldIn depth) =
      some ((CanonKind.interface (found.mergeSort fun a b => a.name ≤ b.name)).unfoldWith
        s.unfold) := by
  have hsort := List.map_mergeSort (l := found) (r := fun a b => a.name ≤ b.name)
    (s := fun a b : String × Unfolding => a.1 ≤ b.1)
    (f := fun m => (m.name, m.func.unfoldWith s.unfold)) fun _ _ _ _ => rfl
  rw [CanonKind.unfoldWith, hsort]
  exact TypeGraph.exists_unfoldWith_interface hne
    (List.forall₂_map_right_iff.2 (h.imp fun _ _ h => ⟨h.1, h.2.unfolds⟩))

theorem exists_unfoldWith_struct {fields : List Field} {found : List (String × CanonId)}
    (h : List.Forall₂ (fun f p => p.1 = f.name ∧ s.Represents g f.type p.2) fields found)
    (aliasName : String) :
    ∃ depth, (TypeKind.struct fields).unfoldWith (g.unfoldIn depth) =
      some ((CanonKind.struct aliasName found).unfoldWith s.unfold) :=
  TypeGraph.exists_unfoldWith_struct
    (List.forall₂_map_right_iff.2 (h.imp fun _ _ h => ⟨h.1, h.2.unfolds⟩))

section Normal

variable {normal : TypeId → CanonM CanonId} {E : CanonError → Prop}

/-- Whatever the parts of a node are, one after the other. -/
theorem meets_mapM_type {α : Type} {items : List α} {typeOf : α → TypeId} (hs : s.Valid g)
    (hnormal : ∀ x ∈ items, ∀ s', s'.Valid g → s.Grows s' →
      Meets g s' (normal (typeOf x)) E fun id s'' => s''.Represents g (typeOf x) id) :
    Meets g s (items.mapM fun x => normal (typeOf x)) E fun ids s' =>
      List.Forall₂ (s'.Represents g) (items.map typeOf) ids := by
  have h := Meets.mapM (P := fun x id s' => s'.Represents g (typeOf x) id)
    (fun _ _ _ _ hs hs' hext h => h.mono hs.interned hs'.interned hext) hs hnormal
  exact ⟨h.valid, h.extend, fun ids hids => (h.ok ids hids).imp_right List.forall₂_map_left_iff.2,
    h.error⟩

/-- The parameters and then the results, in a session that grew from `s`. -/
theorem meets_operands {β : Type} {Q : β → Session → Prop} {sig : FuncSig}
    {k : List CanonId → List CanonId → CanonM β} {s₁ : Session}
    (hnormal : ∀ type ∈ sig.refs, ∀ s', s'.Valid g → s.Grows s' →
      Meets g s' (normal type) E fun id s'' => s''.Represents g type id)
    (hs₁ : s₁.Valid g) (hgrows₁ : s.Grows s₁)
    (hk : ∀ params results s₂, s₂.Valid g → s₁.Grows s₂ →
      List.Forall₂ (s₂.Represents g) (sig.params.map (·.type)) params →
      List.Forall₂ (s₂.Represents g) sig.outputs results → Meets g s₂ (k params results) E Q) :
    Meets g s₁ (do
      let params ← sig.params.mapM fun p => normal p.type
      let results ← sig.results.mapM fun r => normal r.type
      k params results) E Q := by
  have hparam : ∀ p ∈ sig.params, p.type ∈ sig.refs := fun p hp =>
    List.mem_append_left _ (List.mem_append_right _ (List.mem_map_of_mem hp))
  have hresult : ∀ r ∈ sig.results, r.type ∈ sig.refs := fun r hr =>
    List.mem_append_right _ (List.mem_map_of_mem hr)
  refine (meets_mapM_type hs₁ fun p hp s' hs' hgrows =>
    hnormal p.type (hparam p hp) s' hs' (hgrows₁.trans hgrows)).bind
      fun params s₂ hs₂ hgrows₂ hparams => ?_
  refine (meets_mapM_type hs₂ fun r hr s' hs' hgrows =>
    hnormal r.type (hresult r hr) s' hs' ((hgrows₁.trans hgrows₂).trans hgrows)).bind
      fun results s₃ hs₃ hgrows₃ hresults => ?_
  have hparams := hparams.imp fun _ _ h => h.mono hs₂.interned hs₃.interned hgrows₃.extend
  exact hk params results s₃ hs₃ (hgrows₂.trans hgrows₃) hparams hresults

theorem meets_funcWith {sig : FuncSig} (hs : s.Valid g)
    (hnormal : ∀ type ∈ sig.refs, ∀ s', s'.Valid g → s.Grows s' →
      Meets g s' (normal type) E fun id s'' => s''.Represents g type id)
    (hconflict : sig.Conflicts → ∀ receiver ofReceiver own,
      E (.conflictingTypeParams receiver ofReceiver own)) :
    Meets g s (funcWith normal sig) E fun f s' => s'.RepresentsFunc g sig f := by
  rw [funcWith]
  split
  · rename_i hreceiver
    refine meets_operands hnormal hs (.refl s) fun params results s₁ hs₁ _ hparams hresults =>
      .pure hs₁ ?_
    have hinputs : sig.inputs = sig.params.map (·.type) := by rw [FuncSig.inputs, hreceiver]; rfl
    have htypeParams : sig.allTypeParams = sig.typeParams := by
      rw [FuncSig.allTypeParams, hreceiver]
    rw [← htypeParams]
    exact representsFunc_of_forall₂ (hinputs ▸ hparams) hresults
  · rename_i receiver hreceiver
    have hinputs : sig.inputs = receiver.type :: sig.params.map (·.type) := by
      rw [FuncSig.inputs, hreceiver]; rfl
    have htypeParams : sig.allTypeParams =
        if sig.typeParams.isEmpty then receiver.typeParams else sig.typeParams := by
      rw [FuncSig.allTypeParams, hreceiver]
    have hmem : receiver.type ∈ sig.refs := List.mem_append_left _ (hinputs ▸ List.mem_cons_self)
    refine (hnormal receiver.type hmem s hs (.refl s)).bind fun first s₁ hs₁ hgrows₁ hfirst => ?_
    refine Meets.ite (fun h => ?_) fun _ => ?_
    · have hsig : sig.Conflicts := ⟨receiver, hreceiver, by simpa using h⟩
      exact Meets.get ((Meets.throw (Q := fun _ _ => False) hs₁ (hconflict hsig _ _ _)).bind
        fun _ _ _ _ h => h.elim)
    · refine meets_operands hnormal hs₁ hgrows₁
        fun params results s₂ hs₂ hgrows₂ hparams hresults => .pure hs₂ ?_
      have hfirst := hfirst.mono hs₁.interned hs₂.interned hgrows₂.extend
      rw [← htypeParams]
      exact representsFunc_of_forall₂ (hinputs ▸ .cons hfirst hparams) hresults

theorem meets_methodsWith {methods : List Method} (hs : s.Valid g)
    (hnormal : ∀ m ∈ methods, ∀ type ∈ m.sig.refs, ∀ s', s'.Valid g → s.Grows s' →
      Meets g s' (normal type) E fun id s'' => s''.Represents g type id)
    (hconflict : ∀ m ∈ methods, m.sig.Conflicts → ∀ receiver ofReceiver own,
      E (.conflictingTypeParams receiver ofReceiver own)) :
    Meets g s (methodsWith normal methods) E fun found s' =>
      (∀ m ∈ found, ∀ r ∈ m.func.refs, r < s'.size) ∧
        (∀ m ∈ methods, ∀ type ∈ m.sig.refs, s'.Entered g type) ∧
        (methods ≠ [] → ∃ depth, (TypeKind.interface methods).unfoldWith (g.unfoldIn depth) =
          some ((CanonKind.interface found).unfoldWith s'.unfold)) := by
  refine (Meets.mapM (P := fun m found s' =>
    found.name = m.name ∧ s'.RepresentsFunc g m.sig found.func) ?_ hs ?_).bind
    fun found s₁ hs₁ _ hfound => .pure hs₁ ⟨fun m hm => ?_, ?_, fun hne => ?_⟩
  · exact fun _ _ _ _ hs hs' hext h => ⟨h.1, h.2.mono hs.interned hs'.interned hext⟩
  · intro m hm s' hs' hgrows'
    refine (meets_funcWith hs' (fun type htype s'' hs'' hgrows'' =>
      hnormal m hm type htype s'' hs'' (hgrows'.trans hgrows'')) (hconflict m hm)).bind
      fun f s'' hs'' _ hf => .pure hs'' ⟨rfl, hf⟩
  · exact forall_mem_of_forall₂ hfound (fun _ _ h => h.2.below) m (List.mem_mergeSort.1 hm)
  · exact forall_mem_of_forall₂_left hfound fun _ _ h => h.2.entered
  · exact exists_unfoldWith_interface hne hfound

end Normal

/-! ### Types -/

theorem represents_alias {target : TypeId} {id : CanonId} {name : String}
    (hnode : g.nodes[type]? = some (.aliasOf name target)) (h : s.Represents g target id) :
    s.Represents g type id := by
  obtain ⟨hlt, ⟨depth, hdepth⟩, hentered⟩ := h
  refine ⟨hlt, TypeGraph.unfolds_of_unfoldWith hnode hdepth, ?_⟩
  exact entered_of_refs hnode rfl (List.forall_mem_singleton.2 hentered)

theorem represents_named {id : CanonId} {name : String} {body : Option TypeId}
    {typeParams : List String} {underlying : Option CanonId} (hs : s.Interned)
    (hnode : g.nodes[type]? = some (.named name body typeParams))
    (hid : s.kind? id = some (.named name underlying)) : s.Represents g type id :=
  represents_of_kind hs hnode hid (entered_of_named ⟨_, _, hnode⟩ ⟨_, _, hid⟩) ⟨0, rfl⟩

theorem exists_unfoldWith_map {key value : TypeId} {k v : CanonId} (hk : s.Represents g key k)
    (hv : s.Represents g value v) :
    ∃ depth, (TypeKind.map key value).unfoldWith (g.unfoldIn depth) =
      some ((CanonKind.map k v).unfoldWith s.unfold) := by
  obtain ⟨n, hn⟩ := hk.unfolds
  obtain ⟨m, hm⟩ := hv.unfolds
  refine ⟨max n m, ?_⟩
  rw [TypeKind.unfoldWith, TypeGraph.unfoldIn_of_le (Nat.le_max_left n m) hn,
    TypeGraph.unfoldIn_of_le (Nat.le_max_right n m) hm]
  rfl

/-- To enter a type among those seen so far. -/
theorem meets_remember {E : CanonError → Prop} {id : CanonId} (hs : s.Valid g)
    (hid : s.Represents g type id) :
    Meets g s (do
      modify fun s => s.remember type id
      return id) E fun id' s' => s'.Represents g type id' ∧ s'.kinds = s.kinds := by
  refine (Meets.modify (hs.remember hid) rfl).bind fun _ s' hs' hgrows h => .pure hs' ⟨?_, ?_⟩
  · exact hid.mono hs.interned hs'.interned hgrows.extend
  · rw [h]
    rfl

section Named

variable {name : String} {body : TypeId} {typeParams : List String}

theorem unresolved_of_reserve {other : String}
    (h : (s.reserve type name).1.Unresolved other) : s.Unresolved other ∨ other = name := by
  obtain ⟨id, hid⟩ := h
  rcases kind?_push (s := s) hid with hid | ⟨_, hkind⟩
  · exact .inl ⟨id, hid⟩
  · cases hkind
    exact .inr rfl

theorem resolved_of_reserve {other : String} (h : (s.reserve type name).1.Resolved other) :
    s.Resolved other := by
  obtain ⟨id, underlying, hid⟩ := h
  rcases kind?_push (s := s) hid with hid | ⟨_, hkind⟩
  · exact ⟨id, underlying, hid⟩
  · cases hkind

/-- A type that is defined by the new name would have led to its entry before. -/
theorem Valid.reserve {body : Option TypeId} (hs : s.Valid g)
    (hnode : g.nodes[type]? = some (.named name body typeParams))
    (hnone : s.findNamed name = none) : (s.reserve type name).1.Valid g := by
  have hinterned := hs.interned.reserve type hnone
  have hrep : (s.reserve type name).1.Represents g type (s.reserve type name).2 :=
    represents_named hinterned hnode (kind?_reserve type)
  refine ⟨hinterned, fun p hp => ?_, fun hunique a found ha hres => ?_, fun i hi => ?_,
    fun i found u hi => ?_⟩
  · rcases List.mem_cons.1 hp with rfl | hp
    · exact hrep
    · exact (hs.memo p hp).mono hs.interned hinterned (extends_reserve type)
  · have hsettled := hs.settled hunique a found ha (resolved_of_reserve hres)
    refine ⟨fun body hbody => (hsettled.entered body hbody).mono (extends_reserve type), ?_⟩
    intro b other hdef hb hwait
    rcases unresolved_of_reserve hwait with hwait | rfl
    · exact hsettled.direct b other hdef hb hwait
    · obtain ⟨body, _, hbody, hops, _⟩ := hdef
      obtain ⟨id, underlying, hid⟩ := hsettled.entered body hbody b other
        (hops.lift id fun _ _ => TypeGraph.AliasHop.inside) hb
      exact not_named_of_findNamed hnone id underlying hid
  · rcases lt_size_push (s := s) hi with hi | rfl
    · exact hs.origin_of_extends hinterned (extends_reserve type) hi
    · exact ⟨type, hrep.unfolds⟩
  · rcases kind?_push (s := s) hi with hi | ⟨_, hkind⟩
    · exact (hs.underlying i found u hi).mono hs.interned hinterned (extends_reserve type)
    · cases hkind

theorem kind?_of_unfold_eq {id : CanonId} (hs : s.Interned) (hid : id < s.size)
    (h : s.unfold id = .named name) : ∃ underlying, s.kind? id = some (.named name underlying) := by
  obtain ⟨kind, hkind⟩ := exists_kind? hid
  rw [hs.unfold_eq hkind] at h
  cases kind with
  | named found underlying =>
    cases h
    exact ⟨underlying, hkind⟩
  | _ => cases h

section Underlying

variable {id underlying : CanonId} {before : Option CanonId}

/-- An entry is the completed one, or it was there before. -/
theorem kind?_setUnderlying_cases (hid : s.kind? id = some (.named name before)) {i : CanonId}
    {kind : CanonKind} (hi : (s.setUnderlying id name underlying).kind? i = some kind) :
    i = id ∧ kind = .named name (some underlying) ∨ i ≠ id ∧ s.kind? i = some kind := by
  rw [kind?_setUnderlying hid underlying] at hi
  split at hi
  · exact .inl ⟨‹_›, (Option.some.inj hi).symm⟩
  · exact .inr ⟨‹_›, hi⟩

theorem grows_setUnderlying (hid : s.kind? id = some (.named name before)) :
    s.Grows (s.setUnderlying id name underlying) := by
  refine ⟨extends_setUnderlying hid underlying, fun other ⟨i, hi⟩ => ?_⟩
  rcases kind?_setUnderlying_cases hid hi with ⟨_, heq⟩ | ⟨_, hi⟩
  · cases heq
  · exact ⟨i, hi⟩

theorem not_unresolved_setUnderlying (hs : s.Interned)
    (hid : s.kind? id = some (.named name before)) :
    ¬ (s.setUnderlying id name underlying).Unresolved name := by
  rintro ⟨i, hi⟩
  rcases kind?_setUnderlying_cases hid hi with ⟨_, heq⟩ | ⟨hne, hi⟩
  · cases heq
  · exact hne (hs.distinct i id _ _ hi hid rfl)

variable {found : CanonId}

theorem settled_setUnderlying (hs : s.Valid g)
    (hnode : g.nodes[type]? = some (.named name (some body) typeParams))
    (hid : s.kind? id = some (.named name before)) (hfound : s.Represents g body found)
    (hdirect : ∀ other, s.kind? found ≠ some (.named other none)) :
    (s.setUnderlying id name underlying).Settled g type := by
  refine ⟨fun body' hbody' => ?_, fun b other hdef hb hwait => ?_⟩
  · obtain ⟨_, _, hnode'⟩ := hbody'
    rw [hnode] at hnode'
    cases hnode'
    exact hfound.entered.mono (extends_setUnderlying hid underlying)
  · -- the body means the name `other`, and a name stands in one place
    obtain ⟨body', _, ⟨_, _, hnode'⟩, hops, _⟩ := hdef
    rw [hnode] at hnode'
    cases hnode'
    have hunfold := hfound.unfolds.unique (TypeGraph.unfolds_of_aliasHops hops hb)
    obtain ⟨u, hu⟩ := kind?_of_unfold_eq hs.interned hfound.lt_size hunfold
    obtain ⟨i, hi⟩ := (grows_setUnderlying hid).unresolved other hwait
    have heq := hs.interned.distinct i found _ _ hi hu rfl
    exact hdirect other (heq ▸ hi)

theorem Valid.setUnderlying (hs : s.Valid g)
    (hnode : g.nodes[type]? = some (.named name (some body) typeParams))
    (hid : s.kind? id = some (.named name before)) (hfound : s.Represents g body found)
    (hdirect : ∀ other, s.kind? found ≠ some (.named other none))
    (hunder : s.Underlies g name underlying) :
    (s.setUnderlying id name underlying).Valid g := by
  have hinterned := hs.interned.setUnderlying hid underlying
  have hgrows : s.Grows (s.setUnderlying id name underlying) := grows_setUnderlying hid
  refine ⟨hinterned, fun p hp => (hs.memo p hp).mono hs.interned hinterned hgrows.extend, ?_,
    fun i hi => ?_, fun i found' u hi => ?_⟩
  · intro hunique a found' ha hres
    obtain ⟨i, u, hi⟩ := hres
    rcases kind?_setUnderlying_cases hid hi with ⟨_, heq⟩ | ⟨_, hi⟩
    · cases heq
      rw [hunique a type name ha ⟨_, _, hnode⟩]
      exact settled_setUnderlying hs hnode hid hfound hdirect
    · exact (hs.settled hunique a found' ha ⟨i, u, hi⟩).mono hgrows
  · exact hs.origin_of_extends hinterned hgrows.extend (hi.trans_eq Array.size_setIfInBounds)
  · rcases kind?_setUnderlying_cases hid hi with ⟨_, heq⟩ | ⟨_, hi⟩
    · cases heq
      exact hunder.mono hs.interned hinterned hgrows.extend
    · exact (hs.underlying i found' u hi).mono hs.interned hinterned hgrows.extend

/-- The name of a type no longer waits once its underlying type is there. -/
theorem meets_setUnderlying {E : CanonError → Prop} (hs : s.Valid g)
    (hnode : g.nodes[type]? = some (.named name (some body) typeParams))
    (hid : s.kind? id = some (.named name before)) (hfound : s.Represents g body found)
    (hdirect : ∀ other, s.kind? found ≠ some (.named other none))
    (hunder : s.Underlies g name underlying) :
    Meets g s (modify (setUnderlying id name underlying) : CanonM PUnit) E fun _ s' =>
      s'.kind? id = some (.named name (some underlying)) ∧ ¬ s'.Unresolved name := by
  have hgrows : s.Grows (s.setUnderlying id name underlying) := grows_setUnderlying hid
  have hkind : (s.setUnderlying id name underlying).kind? id =
      some (.named name (some underlying)) :=
    (kind?_setUnderlying hid underlying id).trans (if_pos rfl)
  have hdone : ¬ (s.setUnderlying id name underlying).Unresolved name :=
    not_unresolved_setUnderlying hs.interned hid
  exact ⟨hs.setUnderlying hnode hid hfound hdirect hunder, hgrows.extend,
    fun _ _ => ⟨hgrows, hkind, hdone⟩, fun e he => by cases he⟩

end Underlying

/-- The body of a named type is in the table, and the name was in it already while the body was
looked at. -/
theorem meets_underlyingOf {id : CanonId} (hs : s'.Valid g)
    (hnode : g.nodes[type]? = some (.named name (some body) typeParams))
    (hgrows : (s.reserve type name).1.Grows s') (hfound : s'.Represents g body id) :
    Meets g s' (underlyingOf name id) (fun e => e.Justified g fuel s type)
      fun underlying s'' => s'' = s' ∧ (∀ other, s'.kind? id ≠ some (.named other none)) ∧
        s'.Underlies g name underlying := by
  have hbody : g.BodyHop type body := ⟨name, typeParams, hnode⟩
  have hnamed : ∀ {other underlying}, s'.kind? id = some (.named other underlying) →
      ∃ b, Relation.ReflTransGen g.AliasHop body b ∧ g.IsNamed b other := by
    intro other underlying hkind
    have h := hfound.unfolds
    rw [hs.interned.unfold_eq hkind] at h
    exact TypeGraph.exists_named_of_unfolds h
  refine Meets.get ?_
  split
  · rename_i other underlying hkind
    obtain ⟨hlt, hplain, hbehind⟩ := hs.underlying id other underlying hkind
    refine .pure hs ⟨rfl, fun other h => ?_, hlt, hplain, fun hunique => ?_⟩
    · rw [hkind] at h
      cases h
    obtain ⟨b, hops, hb⟩ := hnamed hkind
    obtain ⟨c, last, hc, hlast, hunfolds⟩ := hbehind hunique
    rw [hunique c b other hc hb] at hlast
    exact ⟨type, last, ⟨_, _, hnode⟩, hbody.behind (TypeGraph.AliasHop.behind hops hlast),
      hunfolds⟩
  · rename_i other hkind
    refine .throw hs ?_
    obtain ⟨b, hops, hb⟩ := hnamed hkind
    refine ⟨type, b, .refl, ⟨_, _, hnode⟩, ⟨body, other, hbody, hops, hb⟩, hb, ?_⟩
    rcases unresolved_of_reserve (hgrows.unresolved other ⟨id, hkind⟩) with h | rfl
    · exact .inl h
    · exact .inr ⟨type, ⟨_, _, hnode⟩, .refl, .refl⟩
  · rename_i hsome hnone
    refine .pure hs ⟨rfl, hnone, hfound.lt_size, fun kind hkind => ?_, fun _ => ⟨type, ?_⟩⟩
    · cases kind with
      | named other underlying =>
        cases underlying with
        | none => exact absurd hkind (hnone other)
        | some underlying => exact absurd hkind (hsome other underlying)
      | _ => rfl
    obtain ⟨last, kind, depth, hops, hkind, halias, hunfold⟩ :=
      TypeGraph.exists_node_of_unfolds hfound.unfolds
    have hplain : kind.isNamed = false := by
      cases kind with
      | named other _ _ =>
        obtain ⟨underlying, hid⟩ :=
          kind?_of_unfold_eq hs.interned hfound.lt_size (Option.some.inj hunfold).symm
        cases underlying with
        | none => exact absurd hid (hnone other)
        | some underlying => exact absurd hid (hsome other underlying)
      | _ => rfl
    have hlast : g.Behind last last := ⟨.refl, kind, hkind, hplain, halias⟩
    exact ⟨last, ⟨_, _, hnode⟩, hbody.behind (TypeGraph.AliasHop.behind hops hlast),
      TypeGraph.unfolds_of_unfoldWith hkind hunfold⟩

theorem grows_of_reserve (hgrows : (s.reserve type name).1.Grows s')
    (hname : ¬ s'.Unresolved name) : s.Grows s' := by
  refine ⟨(extends_reserve type).trans hgrows.extend, fun other hother => ?_⟩
  rcases unresolved_of_reserve (hgrows.unresolved other hother) with h | rfl
  · exact h
  · exact absurd hother hname

/-- The body of a named type, from the session in which its name is entered. -/
theorem meets_body {normal : Bool → CanonM CanonId} (hs : s.Valid g)
    (hnode : g.nodes[type]? = some (.named name (some body) typeParams))
    (hnone : s.findNamed name = none)
    (hnormal : ∀ register, Meets g (s.reserve type name).1 (normal register)
      (fun e => e.Justified g fuel (s.reserve type name).1 body)
      fun id s' => s'.Represents g body id) :
    Meets g (s.reserve type name).1 (do
        let direct := isStruct (← node g body)
        let found ← normal (!direct)
        let underlying ← underlyingOf name found
        modify (setUnderlying (s.reserve type name).2 name underlying)
        let id ← pure (s.reserve type name).2
        modify fun s => s.remember type id
        return id) (fun e => e.Justified g (fuel + 1) s type)
      fun id s' => s'.Represents g type id ∧ ¬ s'.Unresolved name := by
  have hbody : g.BodyHop type body := ⟨name, typeParams, hnode⟩
  refine Meets.node (hs.reserve hnode hnone) (fun h => ⟨body, rfl, .single hbody.refers, h⟩)
    fun kind _ => ?_
  have hnormal := (hnormal (!isStruct kind)).mono fun e =>
    justified_of_body hbody ⟨_, _, hnode⟩ hnone
  refine hnormal.bind fun found s₁ hs₁ hgrows₁ hfound => ?_
  refine (meets_underlyingOf hs₁ hnode hgrows₁ hfound).bind fun underlying s₂ hs₂ _ hdirect => ?_
  obtain ⟨rfl, hdirect, hunder⟩ := hdirect
  obtain ⟨before, hid⟩ := hgrows₁.extend.named (kind?_reserve type)
  refine (meets_setUnderlying hs₂ hnode hid hfound hdirect hunder).bind fun _ s₃ hs₃ _ hset => ?_
  have hrep := represents_named hs₃.interned hnode hset.1
  have hdone := meets_remember (E := fun e => e.Justified g (fuel + 1) s type) hs₃ hrep
  refine ⟨hdone.valid, hdone.extend, fun a ha => (hdone.ok a ha).imp_right fun h => ⟨h.1, ?_⟩,
    hdone.error⟩
  rintro ⟨i, hi⟩
  exact hset.2 ⟨i, by rw [kind?, ← h.2]; exact hi⟩

end Named

/-- The fields of a struct, from which its name is made. -/
theorem meets_struct {normal : TypeId → CanonM CanonId} {E : CanonError → Prop}
    {Q : CanonId → Session → Prop} {k : CanonId → CanonM CanonId} {fields : List Field}
    (register : Bool) (hs : s.Valid g) (hnode : g.nodes[type]? = some (.struct fields))
    (hnormal : ∀ f ∈ fields, ∀ s', s'.Valid g → s.Grows s' →
      Meets g s' (normal f.type) E fun id s'' => s''.Represents g f.type id)
    (hk : ∀ id s', s'.Valid g → s.Grows s' → s'.Represents g type id → Meets g s' (k id) E Q) :
    Meets g s (do
      let found ← fields.mapM fun f => return (f.name, ← normal f.type)
      let aliasName := structAlias ((← get).fieldListing found)
      let id ← internM (.struct aliasName found)
      if register then modify (registerAlias id)
      k id) E Q := by
  refine (Meets.mapM (P := fun f p s' => p.1 = f.name ∧ s'.Represents g f.type p.2)
    ?_ hs ?_).bind fun found s₁ hs₁ hgrows₁ hfound => ?_
  · exact fun _ _ _ _ hs hs' hext h => ⟨h.1, h.2.mono hs.interned hs'.interned hext⟩
  · exact fun f hf s' hs' hgrows => (hnormal f hf s' hs' hgrows).bind
      fun id s'' hs'' _ hid => .pure hs'' ⟨rfl, hid⟩
  refine Meets.get ?_
  have hbelow : ∀ p ∈ found, p.2 < s₁.size :=
    forall_mem_of_forall₂ hfound fun _ _ h => h.2.lt_size
  have hentered : ∀ f ∈ fields, s₁.Entered g f.type :=
    forall_mem_of_forall₂_left hfound fun _ _ h => h.2.entered
  refine (Meets.internM hs₁ hnode rfl (List.forall_mem_map.2 hentered) rfl
    (List.forall_mem_map.2 hbelow) ?_ (exists_unfoldWith_struct hfound _)).bind
      fun id s₂ hs₂ hgrows₂ hid => ?_
  · intro name fields' heq
    cases heq
    rfl
  have hgrows := hgrows₁.trans hgrows₂
  refine Meets.ite (fun _ => ?_) fun _ => hk id s₂ hs₂ hgrows hid
  have hkinds := kinds_registerAlias id s₂
  refine (Meets.modify (hs₂.of_kinds_eq hkinds (memo_registerAlias id s₂)) hkinds).bind
    fun _ s₃ hs₃ hgrows₃ _ => hk id s₃ hs₃ (hgrows.trans hgrows₃) ?_
  exact hid.mono hs₂.interned hs₃.interned hgrows₃.extend

/-- One step, given what a step to each part of the node meets. It is left open what happens where
the name of a named type is new. -/
theorem meets_normalizeIn_succ {E : CanonError → Prop} {register : Bool} (hs : s.Valid g)
    (hnone : g.nodes[type]? = none → E (.graph (.unknownType type)))
    (hpart : ∀ child, g.Inside type child → ∀ register s', s'.Valid g → s.Grows s' →
      Meets g s' (normalizeIn g fuel register child) E fun id s'' => s''.Represents g child id)
    (hconflict : ∀ kind sig, g.nodes[type]? = some kind → sig ∈ kind.sigs → sig.Conflicts →
      ∀ receiver ofReceiver own, E (.conflictingTypeParams receiver ofReceiver own))
    (hnew : ∀ name body typeParams, s.memo.lookup type = none →
      g.nodes[type]? = some (.named name body typeParams) → s.findNamed name = none →
      Meets g s (normalizeIn g (fuel + 1) register type) E fun id s' => s'.Represents g type id) :
    Meets g s (normalizeIn g (fuel + 1) register type) E fun id s' => s'.Represents g type id := by
  by_cases hcase : ∃ name body typeParams, s.memo.lookup type = none ∧
      g.nodes[type]? = some (.named name body typeParams) ∧ s.findNamed name = none
  · obtain ⟨name, body, typeParams, hmemo, hnode, hname⟩ := hcase
    exact hnew name body typeParams hmemo hnode hname
  rw [normalizeIn]
  refine Meets.get ?_
  split
  · rename_i id hid
    have hid := hs.memo _ (mem_of_lookup hid)
    refine Meets.ite (fun _ => ?_) fun _ => .pure hs hid
    have hkinds := kinds_registerAlias id s
    have hvalid := hs.of_kinds_eq hkinds (memo_registerAlias id s)
    refine (Meets.modify hvalid hkinds).bind fun _ s' hs' hgrows h => .pure hs' ?_
    exact hid.mono hs.interned hs'.interned hgrows.extend
  · rename_i hmemo
    refine Meets.node hs hnone fun kind hnode => ?_
    have hpart : ∀ child ∈ kind.refs, kind.isNamed = false → ∀ register s', s'.Valid g →
        s.Grows s' → Meets g s' (normalizeIn g fuel register child) E
          fun id s'' => s''.Represents g child id :=
      fun child hchild hnamed => hpart child ⟨kind, hnode, hnamed, hchild⟩
    have hdone : ∀ {s₀ : Session} id s', s'.Valid g → s₀.Grows s' → s'.Represents g type id →
        Meets g s' (do
          modify fun s => s.remember type id
          return id) E fun id s'' => s''.Represents g type id := by
      intro s₀ id s' hs' _ hid
      have h := meets_remember (E := E) hs' hid
      exact ⟨h.valid, h.extend, fun a ha => (h.ok a ha).imp_right And.left, h.error⟩
    cases kind with
    | slice element | pointer element | array length element | chan direction element =>
      have hmem := List.mem_singleton_self element
      refine (hpart element hmem rfl true s hs (.refl s)).bind fun id s₁ hs₁ _ hid => ?_
      refine (Meets.internM hs₁ hnode rfl (List.forall_mem_singleton.2 hid.entered) rfl ?_
        (by simp) ?_).bind hdone
      · exact List.forall_mem_singleton.2 hid.lt_size
      · exact hid.unfolds.imp fun depth h => by rw [TypeKind.unfoldWith, h]; rfl
    | map key value =>
      have hkey : key ∈ (TypeKind.map key value).refs := by simp [TypeKind.refs]
      have hvalue : value ∈ (TypeKind.map key value).refs := by simp [TypeKind.refs]
      refine (hpart key hkey rfl true s hs (.refl s)).bind fun k s₁ hs₁ hgrows₁ hk => ?_
      refine (hpart value hvalue rfl true s₁ hs₁ hgrows₁).bind fun v s₂ hs₂ hgrows₂ hv => ?_
      have hk := hk.mono hs₁.interned hs₂.interned hgrows₂.extend
      refine (Meets.internM hs₂ hnode rfl ?_ rfl ?_ (by simp) (exists_unfoldWith_map hk hv)).bind
        hdone
      · simp [TypeKind.refs, hk.entered, hv.entered]
      · simp [CanonKind.refs, hk.lt_size, hv.lt_size]
    | func sig =>
      refine (meets_funcWith hs (fun child hchild => hpart child hchild rfl true)
        (hconflict _ sig hnode (List.mem_singleton_self sig))).bind
          fun f s₁ hs₁ _ hf => ?_
      have hbelow : ∀ r ∈ (CanonKind.func f).refs, r < s₁.size := hf.below
      exact (Meets.internM hs₁ hnode rfl hf.entered rfl hbelow (by simp) hf.unfolds).bind hdone
    | interface methods =>
      cases methods with
      | nil =>
        exact (Meets.internM hs hnode rfl (by simp [TypeKind.refs]) rfl
          (by simp [CanonKind.refs]) (by simp) ⟨0, rfl⟩).bind hdone
      | cons m rest =>
        refine (meets_methodsWith hs
          (fun m hm child hchild => hpart child (List.mem_flatMap.2 ⟨m, hm, hchild⟩) rfl true)
          fun m hm => hconflict _ m.sig hnode (List.mem_map_of_mem hm)).bind
            fun found s₁ hs₁ _ hfound => ?_
        obtain ⟨hbelow, hentered, hunfold⟩ := hfound
        refine (Meets.internM hs₁ hnode rfl (List.forall_mem_flatMap.2 hentered) rfl ?_ (by simp)
          (hunfold (List.cons_ne_nil m rest))).bind hdone
        exact List.forall_mem_flatMap.2 hbelow
    | struct fields =>
      refine meets_struct register hs hnode
        (fun f hf => hpart f.type (List.mem_map_of_mem hf) rfl true)
        fun id s' hs' _ hid => ?_
      exact (Meets.pure hs' hid).bind hdone
    | aliasOf name target =>
      refine (hpart target (List.mem_singleton_self target) rfl register s hs (.refl s)).bind
        fun id s₁ hs₁ hgrows₁ hid => hdone id s₁ hs₁ hgrows₁ (represents_alias hnode hid)
    | named name body typeParams =>
      refine Meets.get ?_
      split
      · rename_i id hid
        obtain ⟨underlying, hid⟩ := kind?_of_findNamed hid
        exact (Meets.pure hs (represents_named hs.interned hnode hid)).bind hdone
      · rename_i hname
        exact absurd ⟨name, body, typeParams, hmemo, hnode, hname⟩ hcase
    | _ =>
      exact (Meets.internM hs hnode rfl (by simp [TypeKind.refs]) rfl (by simp [CanonKind.refs])
        (by simp) ⟨0, rfl⟩).bind hdone

theorem meets_normalizeIn (g : TypeGraph) : ∀ (fuel : Nat) (register : Bool) (type : TypeId)
    (s : Session), s.Valid g → Meets g s (normalizeIn g fuel register type)
      (fun e => e.Justified g fuel s type) fun id s' => s'.Represents g type id := by
  intro fuel
  induction fuel with
  | zero =>
    intro register type s hs
    exact Meets.throw hs fun height _ _ => Nat.zero_le _
  | succ fuel ih =>
    intro register type s hs
    refine meets_normalizeIn_succ hs (fun hnone => ⟨type, rfl, .refl, hnone⟩)
      (fun child hin register s' hs' hgrows => (ih register child s' hs').mono fun e =>
        justified_of_inside hin hgrows)
      (fun kind sig hnode hsig hconflicts _ _ _ => ⟨type, kind, sig, .refl, hnode, hsig, hconflicts⟩)
      fun name body typeParams hmemo hnode hname => ?_
    rw [normalizeIn]
    refine Meets.get ?_
    rw [hmemo]
    refine Meets.node hs (fun hnone => ⟨type, rfl, .refl, hnone⟩) fun kind hkind => ?_
    cases hnode.symm.trans hkind
    refine Meets.get ?_
    rw [hname]
    have hs₁ := hs.reserve hnode hname
    refine Meets.get (Meets.set (extends_reserve type) (R := fun id s' =>
      s'.Represents g type id ∧ ¬ s'.Unresolved name) ?_ fun id s₂ hgrows h =>
        ⟨grows_of_reserve hgrows h.2, h.1⟩)
    split
    · exact (Meets.throw (Q := fun _ _ => False) hs₁ ⟨type, typeParams, .refl, hnode⟩).bind
        fun _ _ _ _ h => h.elim
    · exact meets_body hs hnode hname fun register => ih register _ _ hs₁

end Session
end ScriptBind
