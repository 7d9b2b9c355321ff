import ScriptBind.Proofs.Declaration.Layout
import ScriptBind.Proofs.TypeGraph.Ordered

/-!
# ScriptBind.Proofs.Declaration.Ordered

Lowering adds a node after the nodes that it refers to, and what it refers to is there.

* `Lowering.Placed` - the graph is ordered, and the predeclared types have their nodes.
* `Lowering.Orders` - a step keeps that, and does not fail because of the graph.
* `Lowering.Adding` - a step that does so and adds nodes without names.
* `Lowering.adding_type`, `Lowering.adding_func` - so do types and functions.
* `Lowering.adding_functions`, `adding_methodDecls`, `adding_conversions` - and what they are in.
-/

namespace ScriptBind
namespace Lowering

variable {α β : Type} {single : Prop} {s s' : State} {package : String} {scope : List String}

structure Placed (s : State) : Prop where
  graph : s.graph.Ordered
  predeclared : ∀ p ∈ s.predeclared, p.2 < s.graph.size

theorem placed_empty : Placed ⟨.empty, []⟩ := ⟨TypeGraph.ordered_empty, nofun⟩

theorem Placed.grow (hs : Placed s) {g : TypeGraph} (hg : g.Ordered)
    (hle : s.graph.size ≤ g.size) : Placed ⟨g, s.predeclared⟩ :=
  ⟨hg, fun p hp => (hs.predeclared p hp).trans_le hle⟩

/-- What a name leads to is there. -/
theorem Placed.lt_size_of_lookup (hs : Placed s) {n : String} {id : TypeId}
    (hid : s.graph.lookup n = some id) : id < s.graph.size := by
  rcases hs.graph.titled _ (mem_of_lookup hid) with ⟨body, typeParams, hnode⟩ | ⟨target, hnode⟩
  · exact TypeGraph.lt_size_of_node hnode
  · exact TypeGraph.lt_size_of_node hnode

/-! ### Steps -/

/-- Taken from `s`, the step leaves a state that is in order, and its result is as `Q` says. If the
names are single, it does not fail because of the graph. -/
structure Orders (single : Prop) (s : State) (m : LowerM α) (Q : State → α → Prop) : Prop where
  ok : ∀ a s', m s = .ok (a, s') → Placed s' ∧ Q s' a
  error : ∀ e, m s = .error e → single → ∀ cause, e ≠ .graph cause

namespace Orders

variable {Q R : State → α → Prop}

theorem pure {a : α} (hs : Placed s) (h : Q s a) : Orders single s (Pure.pure a) Q where
  ok := by
    rintro _ _ ⟨⟩
    exact ⟨hs, h⟩
  error := nofun

theorem fail {e : LowerError} (h : ∀ cause, e ≠ .graph cause) :
    Orders single s (Lowering.fail e) Q where
  ok := nofun
  error := by
    rintro _ ⟨⟩ _
    exact h

theorem bind {Q' : State → β → Prop} {m : LowerM α} {k : α → LowerM β}
    (hm : Orders single s m Q)
    (hk : ∀ a s', Placed s' → Q s' a → Orders single s' (k a) Q') :
    Orders single s (m >>= k) Q' where
  ok b s₂ hrun := by
    obtain ⟨a, s₁, hms, hrun⟩ := bind_eq_ok hrun
    obtain ⟨hs₁, ha⟩ := hm.ok a s₁ hms
    exact (hk a s₁ hs₁ ha).ok b s₂ hrun
  error e hrun := by
    change (m s >>= fun p => k p.1 p.2) = _ at hrun
    cases hms : m s with
    | error e' =>
      rw [hms] at hrun
      cases hrun
      exact hm.error e hms
    | ok p =>
      rw [hms] at hrun
      obtain ⟨hs₁, ha⟩ := hm.ok p.1 p.2 hms
      exact (hk p.1 p.2 hs₁ ha).error e hrun

theorem mono {m : LowerM α} (h : Orders single s m Q)
    (hQ : ∀ s' a, Placed s' → Q s' a → R s' a) : Orders single s m R where
  ok a s' hrun := by
    obtain ⟨hs', ha⟩ := h.ok a s' hrun
    exact ⟨hs', hQ s' a hs' ha⟩
  error := h.error

theorem liftRead {result : Except ReadError α} (hs : Placed s) :
    Orders single s (Lowering.liftRead result) fun s' _ => s' = s := by
  cases result with
  | ok a => exact .pure hs rfl
  | error e => exact .fail nofun

theorem of_eq {m m' : LowerM α} (h : Orders single s m' Q) (heq : m s = m' s) :
    Orders single s m Q where
  ok a s' hrun := h.ok a s' (heq ▸ hrun)
  error e hrun := h.error e (heq ▸ hrun)

/-- A step of the graph. -/
theorem liftGraph {step : TypeGraph → Except GraphError (TypeGraph × α)}
    (hok : ∀ g a, step s.graph = .ok (g, a) →
      Placed ⟨g, s.predeclared⟩ ∧ Q ⟨g, s.predeclared⟩ a)
    (herror : single → ∃ done, step s.graph = .ok done) :
    Orders single s (Lowering.liftGraph step) Q where
  ok a s' hrun := by
    obtain ⟨g, hstep, rfl⟩ := liftGraph_eq_ok hrun
    exact hok g a hstep
  error e hrun hsingle := by
    obtain ⟨done, hstep⟩ := herror hsingle
    rw [Lowering.liftGraph, hstep] at hrun
    cases hrun

end Orders

/-! ### Steps that add nodes without names -/

abbrev Adding (single : Prop) (s : State) (m : LowerM α) (Q : TypeGraph → α → Prop) : Prop :=
  Orders single s m fun s' a => s.graph.Adds s'.graph ∧ Q s'.graph a

namespace Adding

variable {Q R : TypeGraph → α → Prop}

theorem pure {a : α} (hs : Placed s) (h : Q s.graph a) : Adding single s (Pure.pure a) Q :=
  Orders.pure hs ⟨.refl _, h⟩

theorem bind {Q' : TypeGraph → β → Prop} {m : LowerM α} {k : α → LowerM β}
    (hm : Adding single s m Q)
    (hk : ∀ a s', Placed s' → s.graph.Adds s'.graph → Q s'.graph a → Adding single s' (k a) Q') :
    Adding single s (m >>= k) Q' :=
  Orders.bind hm fun a s' hs' ⟨hadds, ha⟩ =>
    (hk a s' hs' hadds ha).mono fun _ _ _ h => ⟨hadds.trans h.1, h.2⟩

theorem liftRead {result : Except ReadError α} (hs : Placed s) :
    Adding single s (Lowering.liftRead result) fun _ _ => True := by
  refine (Orders.liftRead hs).mono fun s' _ _ heq => ?_
  rw [heq]
  exact ⟨.refl _, trivial⟩

/-- A new node is the last one. -/
theorem add {kind : TypeKind} (hs : Placed s) (hkind : kind.isNamed = false)
    (hrefs : ∀ b ∈ kind.refs, b < s.graph.size) :
    Adding single s (Lowering.add kind) fun g id => id < g.size where
  ok := by
    rintro _ _ ⟨⟩
    have hadds := s.graph.adds_add hkind
    exact ⟨hs.grow (hs.graph.add hkind hrefs) hadds.size_le, hadds,
      TypeGraph.lt_size_of_node (s.graph.node_add kind)⟩
  error := nofun

theorem predeclaredNode {n key : String} {kind : TypeKind} (hs : Placed s)
    (hkind : predeclaredKind? n = some (key, kind)) :
    Adding single s (predeclaredNode key kind) fun g id => id < g.size where
  ok id s' hrun := by
    obtain ⟨hfound, rfl⟩ | ⟨rfl, rfl⟩ := predeclaredNode_eq_ok hrun
    · exact ⟨hs, .refl _, hs.predeclared _ (mem_of_lookup hfound)⟩
    · have hrefs : kind.refs = [] := by
        unfold predeclaredKind? at hkind
        split at hkind <;> cases hkind <;> rfl
      have hadds := s.graph.adds_add (isNamed_of_predeclaredKind? hkind)
      have hnew := TypeGraph.lt_size_of_node (s.graph.node_add kind)
      have hg := hs.graph.add (isNamed_of_predeclaredKind? hkind) fun b hb => by
        rw [hrefs] at hb
        cases hb
      obtain ⟨_, hold⟩ := hs.grow hg hadds.size_le
      exact ⟨⟨hg, List.forall_mem_cons.2 ⟨hnew, hold⟩⟩, hadds, hnew⟩
  error e hrun := by
    rw [Lowering.predeclaredNode] at hrun
    split at hrun <;> cases hrun

theorem name (package : String) (scope : List String) (n : String) (hs : Placed s) :
    Adding single s (name package scope n) fun g id => id < g.size := by
  rw [Lowering.name]
  split
  · exact .add hs rfl (List.forall_mem_nil _)
  cases hkind : predeclaredKind? n with
  | some found => exact .predeclaredNode hs hkind
  | none =>
    refine ⟨fun id s' hrun => ?_, fun e hrun => ?_⟩
    · dsimp only at hrun
      split at hrun
      · cases hrun
        exact ⟨hs, .refl _, hs.lt_size_of_lookup ‹_›⟩
      · split at hrun <;> cases hrun
        exact ⟨hs, .refl _, hs.lt_size_of_lookup ‹_›⟩
    · dsimp only at hrun
      split at hrun
      · cases hrun
      · split at hrun <;> cases hrun
        rintro - _ ⟨⟩

/-- An expression with one part. -/
theorem part {m : LowerM TypeId} {kind : TypeId → TypeKind}
    (hkind : ∀ id, (kind id).isNamed = false ∧ (kind id).refs = [id])
    (hm : Adding single s m fun g id => id < g.size) :
    Adding single s (m >>= fun id => Lowering.add (kind id)) fun g id => id < g.size := by
  refine hm.bind fun id s' hs' _ hid => .add hs' (hkind id).1 ?_
  rw [(hkind id).2]
  exact List.forall_mem_singleton.2 hid

end Adding

theorem refs_func (params results : List Param) (variadic : Bool) (typeParams : List String) :
    FuncSig.refs ⟨params, results, variadic, none, typeParams⟩ =
      params.map (·.type) ++ results.map (·.type) :=
  rfl

mutual

theorem adding_type (package : String) (scope : List String) : ∀ (e : TypeExpr) (s : State),
    Placed s → Adding single s (type package scope e) fun g id => id < g.size
  | .name n [], s, hs => by
    rw [type]
    exact .name package scope n hs
  | .name n (arg :: args), s, hs => by
    rw [type]
    exact .fail nofun
  | .slice element, s, hs => by
    rw [type]
    exact .part (fun _ => ⟨rfl, rfl⟩) (adding_type package scope element s hs)
  | .array length element, s, hs => by
    rw [type]
    exact .part (fun _ => ⟨rfl, rfl⟩) (adding_type package scope element s hs)
  | .pointer element, s, hs => by
    rw [type]
    exact .part (fun _ => ⟨rfl, rfl⟩) (adding_type package scope element s hs)
  | .chan direction element, s, hs => by
    rw [type]
    exact .part (fun _ => ⟨rfl, rfl⟩) (adding_type package scope element s hs)
  | .map key value, s, hs => by
    rw [type]
    refine (adding_type package scope key s hs).bind fun k s₁ hs₁ _ hk => ?_
    refine (adding_type package scope value s₁ hs₁).bind fun v s₂ hs₂ hadds hv => ?_
    exact .add hs₂ rfl
      (List.forall_mem_cons.2 ⟨hk.trans_le hadds.size_le, List.forall_mem_singleton.2 hv⟩)
  | .func signature, s, hs => by
    rw [type]
    exact (adding_func package scope signature s hs).bind fun sig s' hs' _ hsig =>
      .add hs' rfl hsig
  | .struct fs, s, hs => by
    rw [type]
    exact (adding_fields package scope fs s hs).bind fun found s' hs' _ hfound =>
      .add hs' rfl (List.forall_mem_map.2 hfound)
  | .interface ms, s, hs => by
    rw [type]
    refine (adding_methods package scope ms s hs).bind fun found s' hs' _ hfound =>
      .add hs' rfl fun b hb => ?_
    obtain ⟨m, hm, hb⟩ := List.mem_flatMap.1 hb
    exact hfound m hm b hb

theorem adding_fields (package : String) (scope : List String) :
    ∀ (fs : List FieldExpr) (s : State), Placed s →
      Adding single s (fields package scope fs) fun g found => ∀ f ∈ found, f.type < g.size
  | [], s, hs => by
    rw [fields]
    exact .pure hs (List.forall_mem_nil _)
  | ⟨n, t⟩ :: rest, s, hs => by
    rw [fields]
    refine (adding_type package scope t s hs).bind fun id s₁ hs₁ _ hid => ?_
    refine (adding_fields package scope rest s₁ hs₁).bind fun found s₂ hs₂ hadds hfound => ?_
    exact .pure hs₂ (List.forall_mem_cons.2 ⟨hid.trans_le hadds.size_le, hfound⟩)

theorem adding_methods (package : String) (scope : List String) :
    ∀ (ms : List MethodExpr) (s : State), Placed s →
      Adding single s (methods package scope ms) fun g found =>
        ∀ m ∈ found, ∀ b ∈ m.sig.refs, b < g.size
  | [], s, hs => by
    rw [methods]
    exact .pure hs (List.forall_mem_nil _)
  | ⟨n, f⟩ :: rest, s, hs => by
    rw [methods]
    refine (adding_func package scope f s hs).bind fun sig s₁ hs₁ _ hsig => ?_
    refine (adding_methods package scope rest s₁ hs₁).bind fun found s₂ hs₂ hadds hfound => ?_
    exact .pure hs₂ (List.forall_mem_cons.2
      ⟨fun b hb => (hsig b hb).trans_le hadds.size_le, hfound⟩)

theorem adding_func (package : String) (outer : List String) : ∀ (f : FuncExpr) (s : State),
    Placed s → Adding single s (func package outer f) fun g sig => ∀ b ∈ sig.refs, b < g.size
  | ⟨typeParams, ps, rs, variadic⟩, s, hs => by
    rw [func]
    refine (adding_params package _ ps s hs).bind fun params s₁ hs₁ _ hparams => ?_
    refine (adding_params package _ rs s₁ hs₁).bind fun results s₂ hs₂ hadds hresults => ?_
    refine .pure hs₂ ?_
    rw [refs_func]
    exact List.forall_mem_append.2
      ⟨List.forall_mem_map.2 fun p hp => (hparams p hp).trans_le hadds.size_le,
        List.forall_mem_map.2 hresults⟩

theorem adding_params (package : String) (scope : List String) :
    ∀ (ps : List ParamExpr) (s : State), Placed s →
      Adding single s (params package scope ps) fun g found => ∀ p ∈ found, p.type < g.size
  | [], s, hs => by
    rw [params]
    exact .pure hs (List.forall_mem_nil _)
  | ⟨n, t⟩ :: rest, s, hs => by
    rw [params]
    refine (adding_type package scope t s hs).bind fun id s₁ hs₁ _ hid => ?_
    refine (adding_params package scope rest s₁ hs₁).bind fun found s₂ hs₂ hadds hfound => ?_
    exact .pure hs₂ (List.forall_mem_cons.2 ⟨hid.trans_le hadds.size_le, hfound⟩)

end

theorem adding_typeText (hs : Placed s) (package : String) (scope : List String) (text : String) :
    Adding single s (typeText package scope text) fun g id => id < g.size :=
  (Adding.liftRead hs).bind fun e s' hs' _ _ => adding_type package scope e s' hs'

/-! ### Parts of a declaration -/

/-- The types of the requests are there. -/
def Requested (g : TypeGraph) (requests : List Request) : Prop :=
  ∀ q ∈ requests, q.type < g.size

theorem requested_nil (g : TypeGraph) : Requested g [] := List.forall_mem_nil _

theorem Requested.append {g g' : TypeGraph} {requests others : List Request}
    (h : Requested g requests) (hadds : g.Adds g') (h' : Requested g' others) :
    Requested g' (requests ++ others) :=
  List.forall_mem_append.2 ⟨fun q hq => (h q hq).trans_le hadds.size_le, h'⟩

theorem requested_bothWays {g : TypeGraph} {id : TypeId} (h : id < g.size) (label : String) :
    Requested g (bothWays label id) :=
  List.forall_mem_cons.2 ⟨h, List.forall_mem_singleton.2 h⟩

theorem requested_if {g : TypeGraph} {id : TypeId} (h : id < g.size) (wanted : Bool)
    (label : String) : Requested g (if wanted then bothWays label id else []) := by
  cases wanted with
  | true => exact requested_bothWays h label
  | false => exact requested_nil g

theorem adding_declaredId (hs : Placed s) (package : String) (t : TypeDecl) :
    Adding single s (declaredId package t) fun g id =>
      g.lookup (qualify package t.name) = some id ∧ id < g.size where
  ok id s' hrun := by
    rw [declaredId] at hrun
    split at hrun <;> cases hrun
    exact ⟨hs, .refl _, ‹_›, hs.lt_size_of_lookup ‹_›⟩
  error e hrun := by
    rw [declaredId] at hrun
    split at hrun <;> cases hrun
    rintro - _ ⟨⟩

theorem adding_requestTypes (hs : Placed s) (package : String) (types : List TypeDecl) :
    Adding single s (requestTypes package types) Requested := by
  induction types generalizing s with
  | nil => exact .pure hs (requested_nil _)
  | cons t rest ih =>
    rw [requestTypes]
    split
    · refine (adding_declaredId hs package t).bind fun id s₁ hs₁ _ hid => ?_
      refine (ih hs₁).bind fun others s₂ hs₂ hadds hothers => .pure hs₂ ?_
      exact (requested_bothWays hid.2 _).append hadds hothers
    · exact ih hs

theorem adding_functions (hs : Placed s) (package : String) (fs : List FunctionDecl) :
    Adding single s (functions package fs) Requested := by
  induction fs generalizing s with
  | nil => exact .pure hs (requested_nil _)
  | cons f rest ih =>
    rw [functions]
    refine (Adding.liftRead hs).bind fun e s₁ hs₁ _ _ => ?_
    refine (adding_func package [] e s₁ hs₁).bind fun sig s₂ hs₂ _ hsig => ?_
    have hfunc : Adding single s₂ (Lowering.add (.func sig)) fun g id => id < g.size :=
      .add hs₂ rfl hsig
    refine hfunc.bind fun id s₃ hs₃ _ hid => ?_
    refine (ih hs₃).bind fun others s₄ hs₄ hadds hothers => .pure hs₄ ?_
    exact (requested_if hid f.request _).append hadds hothers

theorem Adding.lookup {Q : TypeGraph → α → Prop} {name : String} {e : LowerError}
    {k : TypeId → LowerM α} (he : ∀ cause, e ≠ .graph cause)
    (h : ∀ id, s.graph.lookup name = some id → Adding single s (k id) Q) :
    Adding single s (do
      match (← get).graph.lookup name with
      | none => Lowering.fail e
      | some id => k id) Q := by
  cases hid : s.graph.lookup name with
  | none =>
    refine (Orders.fail he).of_eq ?_
    show (match s.graph.lookup name with
      | none => Lowering.fail e
      | some id => k id) s = _
    rw [hid]
  | some id =>
    refine (h id hid).of_eq ?_
    show (match s.graph.lookup name with
      | none => Lowering.fail e
      | some id => k id) s = _
    rw [hid]

theorem ne_graph_of_bareNames {args : List TypeExpr} {e : LowerError}
    (h : bareNames args = .error e) (cause : GraphError) : e ≠ .graph cause := by
  induction args with
  | nil => cases h
  | cons arg rest ih =>
    cases arg with
    | name n inner =>
      cases inner with
      | nil =>
        rw [bareNames] at h
        split at h
        · cases h
        · cases h
          exact ih ‹_›
      | cons _ _ =>
        cases h
        rintro ⟨⟩
    | _ =>
      cases h
      rintro ⟨⟩

/-- The receiver is there. -/
theorem adding_receiver (hs : Placed s) (package text : String) :
    Adding single s (receiver package text) fun g r => r.1.type < g.size := by
  rw [receiver]
  refine (Adding.liftRead hs).bind fun e s₁ hs₁ _ _ => ?_
  cases e with
  | name n args =>
    dsimp only
    split
    · exact Orders.fail (ne_graph_of_bareNames ‹_›)
    · exact .lookup (by rintro _ ⟨⟩) fun id hid => .pure hs₁ (hs₁.lt_size_of_lookup hid)
  | pointer inner =>
    cases inner with
    | name n args =>
      dsimp only
      split
      · exact Orders.fail (ne_graph_of_bareNames ‹_›)
      · refine .lookup (by rintro _ ⟨⟩) fun id hid => ?_
        have hrefs : ∀ b ∈ (TypeKind.pointer id).refs, b < s₁.graph.size :=
          List.forall_mem_singleton.2 (hs₁.lt_size_of_lookup hid)
        exact (Adding.add hs₁ rfl hrefs).bind fun pointer s₂ hs₂ _ hpointer => .pure hs₂ hpointer
    | _ => exact Orders.fail (by rintro _ ⟨⟩)
  | _ => exact Orders.fail (by rintro _ ⟨⟩)

theorem mem_refs_withReceiver {sig : FuncSig} {receiver : Receiver} {b : TypeId}
    (h : b ∈ FuncSig.refs { sig with receiver := some receiver }) :
    b = receiver.type ∨ b ∈ sig.refs := by
  have hparts : b ∈ receiver.type :: (sig.params.map (·.type) ++ sig.results.map (·.type)) := h
  refine (List.mem_cons.1 hparts).imp_right fun hrest => ?_
  rw [FuncSig.refs, FuncSig.inputs, FuncSig.outputs, List.append_assoc]
  exact List.mem_append_right _ hrest

theorem adding_methodDecls (hs : Placed s) (package : String) (ms : List MethodDecl) :
    Adding single s (methodDecls package ms) Requested := by
  induction ms generalizing s with
  | nil => exact .pure hs (requested_nil _)
  | cons m rest ih =>
    rw [methodDecls]
    refine (adding_receiver hs package m.receiver).bind fun found s₁ hs₁ _ hreceiver => ?_
    obtain ⟨receiver, base⟩ := found
    refine (Adding.liftRead hs₁).bind fun e s₂ hs₂ hadds₂ _ => ?_
    refine (adding_func package receiver.typeParams e s₂ hs₂).bind fun sig s₃ hs₃ hadds₃ hsig => ?_
    have hrefs : ∀ b ∈ (TypeKind.func { sig with receiver := some receiver }).refs,
        b < s₃.graph.size := by
      intro b hb
      rcases mem_refs_withReceiver hb with rfl | hb
      · exact hreceiver.trans_le (hadds₂.trans hadds₃).size_le
      · exact hsig b hb
    refine (Adding.add hs₃ rfl hrefs).bind fun id s₄ hs₄ _ hid => ?_
    refine (ih hs₄).bind fun others s₅ hs₅ hadds hothers => .pure hs₅ ?_
    exact (requested_if hid m.request _).append hadds hothers

theorem adding_conversions (hs : Placed s) (package : String) (cs : List ConvertDecl) :
    Adding single s (conversions package cs) Requested := by
  induction cs generalizing s with
  | nil => exact .pure hs (requested_nil _)
  | cons c rest ih =>
    rw [conversions]
    refine (adding_typeText hs package [] c.type).bind fun id s₁ hs₁ _ hid => ?_
    refine (ih hs₁).bind fun others s₂ hs₂ hadds hothers => .pure hs₂ ?_
    have hown : Requested s₁.graph (c.direction.directions.map fun d => ⟨c.type, id, d⟩) :=
      List.forall_mem_map.2 fun _ _ => hid
    exact hown.append hadds hothers

end Lowering
end ScriptBind
