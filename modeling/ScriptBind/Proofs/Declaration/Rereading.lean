import ScriptBind.Proofs.Canon.Completion
import ScriptBind.Proofs.Canon.Known
import ScriptBind.Proofs.Canon.Legible
import ScriptBind.Proofs.Declaration.Layout

/-!
# ScriptBind.Proofs.Declaration.Rereading

The written form of a canonical type, read as an expression of the declaration that the type is
from. The expression lowers, and its node has a canonical type in the same session; which one it is
depends on the arrows of channels.

* `Lowering.Succeeds` - a step of lowering that has a result.
* `Lowering.succeeds_type` - the expression of a tree lowers to a node with that tree.
* `CanonKind.Expressible` - neither a struct nor a type parameter.
* `Declaration.reread_eq_iff` - which canonical types are found again.
-/

namespace ScriptBind

open Unfolding (Throughout Legible Clear PlainFunc)

/-! ### Declared names -/

theorem Names.mem_withAliases? {names final : Names} {types : List TypeDecl} {p : String × String}
    (h : names.withAliases? types = some final) (hp : p ∈ final.declared) :
    p ∈ names.declared ∨ ∃ t ∈ types, p.1 = qualify names.package t.name := by
  induction types generalizing names with
  | nil =>
    cases h
    exact .inl hp
  | cons t rest ih =>
    rw [withAliases?] at h
    split at h
    · obtain ⟨text, _, h⟩ := Option.bind_eq_some_iff.1 h
      rcases ih h with hmem | ⟨t', ht', hname⟩
      · rcases List.mem_append.1 hmem with hmem | hmem
        · exact .inl hmem
        · rw [List.mem_singleton.1 hmem]
          exact .inr ⟨t, List.mem_cons_self, rfl⟩
      · exact .inr ⟨t', List.mem_cons_of_mem _ ht', hname⟩
    · rcases ih h with hmem | ⟨t', ht', hname⟩
      · exact .inl hmem
      · exact .inr ⟨t', List.mem_cons_of_mem _ ht', hname⟩

/-- Whatever has a name in writing is declared. -/
theorem Declaration.exists_type_of_mem_names? {d : Declaration} {names : Names}
    {p : String × String} (h : d.names? = some names) (hp : p ∈ names.declared) :
    ∃ t ∈ d.types, p.1 = d.qualifiedName t.name := by
  rcases Names.mem_withAliases? h hp with hmem | hmem
  · obtain ⟨name, hname, rfl⟩ := List.mem_map.1 hmem
    obtain ⟨t, ht, rfl⟩ := List.mem_map.1 hname
    exact ⟨t, (List.mem_filter.1 ht).1, rfl⟩
  · exact hmem

/-! ### Built-in types -/

theorem predeclaredKind?_text {u : Unfolding} {kind : TypeKind} {named : String → Prop}
    (h : u.predeclared? = some kind) (hu : u.Legible named) :
    (Lowering.predeclaredKind? u.text).map (·.2) = some kind := by
  have hwidth : ∀ width ∈ [8, 16, 32, 64], ∀ signedness : Signedness,
      (Lowering.predeclaredKind? (signedness.typeName width)).map (·.2) =
        some (.int width signedness) := by
    intro width hmem signedness
    cases signedness <;> revert width <;> decide
  have hbits : ∀ bits ∈ [64, 128],
      (Lowering.predeclaredKind? ("complex" ++ toString bits)).map (·.2) =
        some (.complex bits) := by
    decide
  cases u with
  | int width signedness =>
    cases h
    rw [Unfolding.text]
    exact hwidth width hu signedness
  | complex bits =>
    cases h
    rw [Unfolding.text]
    exact hbits bits hu
  | float precision =>
    cases h
    rw [Unfolding.text]
    cases precision <;> decide
  | bool | unsafePointer | string | any | error =>
    cases h
    rw [Unfolding.text]
    decide
  | _ => cases h

namespace Lowering

/-! ### Steps with a result -/

/-- The names are declared, and predeclared types stand where they are noted. -/
structure Ready (named : String → Prop) (s : State) : Prop where
  predeclared : ∀ p ∈ s.predeclared, ∃ kind,
    predeclaredKind? p.1 = some (p.1, kind) ∧ s.graph.nodes[p.2]? = some kind
  declared : ∀ n, named n → predeclaredKind? n = none ∧
    ∃ id, s.graph.lookup n = some id ∧ s.graph.IsNamed id n

variable {α β : Type} {named : String → Prop} {s : State} {Q R : TypeGraph → α → Prop}

theorem Ready.grow (hs : Ready named s) {g : TypeGraph} (hgrows : s.graph.Grows g) :
    Ready named ⟨g, s.predeclared⟩ where
  predeclared p hp := by
    obtain ⟨kind, hkind, hnode⟩ := hs.predeclared p hp
    exact ⟨kind, hkind, hgrows.node hnode (isNamed_of_predeclaredKind? hkind)⟩
  declared n hn := by
    obtain ⟨hkind, id, hid, hname⟩ := hs.declared n hn
    exact ⟨hkind, id, hgrows.lookup hid, hgrows.extend.isNamed hname⟩

/-- Taken from `s`, the step has a result, which is as `Q` says, and the graph only grows. -/
def Succeeds (named : String → Prop) (s : State) (m : LowerM α) (Q : TypeGraph → α → Prop) : Prop :=
  ∃ a s', m s = .ok (a, s') ∧ Ready named s' ∧ s.graph.Grows s'.graph ∧ Q s'.graph a

namespace Succeeds

theorem pure {a : α} (hs : Ready named s) (h : Q s.graph a) : Succeeds named s (Pure.pure a) Q :=
  ⟨a, s, rfl, hs, .refl _, h⟩

theorem bind {Q' : TypeGraph → β → Prop} {m : LowerM α} {k : α → LowerM β}
    (hm : Succeeds named s m Q)
    (hk : ∀ a s', Ready named s' → s.graph.Grows s'.graph → Q s'.graph a →
      Succeeds named s' (k a) Q') : Succeeds named s (m >>= k) Q' := by
  obtain ⟨a, s₁, hrun, hs₁, hgrows₁, ha⟩ := hm
  obtain ⟨b, s₂, hrun', hs₂, hgrows₂, hb⟩ := hk a s₁ hs₁ hgrows₁ ha
  refine ⟨b, s₂, ?_, hs₂, hgrows₁.trans hgrows₂, hb⟩
  change (m s >>= fun p => k p.1 p.2) = _
  rw [hrun]
  exact hrun'

theorem mono {m : LowerM α} (h : Succeeds named s m Q) (hQ : ∀ g a, Q g a → R g a) :
    Succeeds named s m R := by
  obtain ⟨a, s', hrun, hs', hgrows, ha⟩ := h
  exact ⟨a, s', hrun, hs', hgrows, hQ _ a ha⟩

theorem add {kind : TypeKind} {u : Unfolding} (hs : Ready named s)
    (hu : s.graph.UnfoldsKind kind u) :
    Succeeds named s (Lowering.add kind) fun g id => g.Unfolds id u := by
  have hgrows := grows_add s.graph kind
  exact ⟨_, _, rfl, hs.grow hgrows, hgrows,
    (hu.mono hgrows.extend).unfolds (s.graph.node_add kind)⟩

/-- A node with one part. -/
theorem part {m : LowerM TypeId} {u : Unfolding} {kind : TypeId → TypeKind}
    {make : Unfolding → Unfolding}
    (hkind : ∀ id unfold, (kind id).unfoldWith unfold = (do return make (← unfold id)))
    (hm : Succeeds named s m fun g id => g.Unfolds id u) :
    Succeeds named s (m >>= fun id => Lowering.add (kind id)) fun g id => g.Unfolds id (make u) :=
  hm.bind fun id _ hs' _ hid => .add hs' (.of_part (hkind id) hid)

end Succeeds

/-! ### Names -/

theorem succeeds_predeclaredNode {n key : String} {kind : TypeKind} (hs : Ready named s)
    (hkind : predeclaredKind? n = some (key, kind)) :
    Succeeds named s (predeclaredNode key kind) fun g id => g.nodes[id]? = some kind := by
  cases hfound : s.predeclared.lookup key with
  | some id =>
    obtain ⟨kind', hkind', hnode⟩ := hs.predeclared _ (mem_of_lookup hfound)
    cases (predeclaredKind?_key hkind).symm.trans hkind'
    refine ⟨id, s, ?_, hs, .refl _, hnode⟩
    rw [predeclaredNode, hfound]
  | none =>
    have hgrows := grows_add s.graph kind
    have hnode := s.graph.node_add kind
    have hs' := hs.grow hgrows
    have hnoted : Ready named ⟨(s.graph.add kind).1, (key, s.graph.size) :: s.predeclared⟩ :=
      ⟨List.forall_mem_cons.2 ⟨⟨kind, predeclaredKind?_key hkind, hnode⟩, hs'.predeclared⟩,
        hs'.declared⟩
    refine ⟨s.graph.size, _, ?_, hnoted, hgrows, hnode⟩
    rw [predeclaredNode, hfound]
    rfl

variable {package : String} {u : Unfolding}

theorem succeeds_predeclared (hs : Ready named s) {kind : TypeKind}
    (h : u.predeclared? = some kind) (hu : u.Legible named) :
    Succeeds named s (name package [] u.text) fun g id => g.Unfolds id u := by
  obtain ⟨⟨key, _⟩, hkind, rfl⟩ := Option.map_eq_some_iff.1 (predeclaredKind?_text h hu)
  rw [name, if_neg (by simp), hkind]
  refine (succeeds_predeclaredNode hs hkind).mono fun g id hnode => ?_
  have hunfolds : g.UnfoldsKind _ u := ⟨0, Unfolding.unfoldWith_of_predeclared? h _⟩
  exact hunfolds.unfolds hnode

theorem succeeds_named (hs : Ready named s) {n : String} (hn : named n) :
    Succeeds named s (name package [] n) fun g id => g.Unfolds id (.named n) := by
  obtain ⟨hkind, id, hid, hnamed⟩ := hs.declared n hn
  refine ⟨id, s, ?_, hs, .refl _, hnamed.unfolds⟩
  rw [name, if_neg (by simp), hkind]
  dsimp only
  rw [hid]

/-! ### Expressions -/

/-- Wherever the names are declared, the expression of the tree lowers to a node with that tree. -/
def Lowers (package : String) (named : String → Prop) (u : Unfolding) : Prop :=
  ∀ s, Ready named s → Succeeds named s (type package [] u.expr) fun g id => g.Unfolds id u

theorem succeeds_params {us : List Unfolding} (h : ∀ v ∈ us, Lowers package named v)
    (hs : Ready named s) :
    Succeeds named s (params package [] (paramExprs us)) fun g found =>
      List.Forall₂ g.Unfolds (found.map (·.type)) us := by
  induction us generalizing s with
  | nil =>
    rw [paramExprs, params]
    exact .pure hs .nil
  | cons v rest ih =>
    obtain ⟨hv, hrest⟩ := List.forall_mem_cons.1 h
    rw [paramExprs, params]
    refine (hv s hs).bind fun id s₁ hs₁ _ hid => ?_
    refine (ih hrest hs₁).bind fun found s₂ hs₂ hgrows₂ hfound => .pure hs₂ ?_
    exact .cons (hgrows₂.extend.unfolds hid) hfound

theorem succeeds_func {inputs outputs : List Unfolding} {variadic : Bool}
    (h : ∀ v ∈ inputs ++ outputs, Lowers package named v) (hs : Ready named s) :
    Succeeds named s (func package [] ⟨[], paramExprs inputs, paramExprs outputs, variadic⟩)
      fun g sig => g.UnfoldsSig sig (.func inputs outputs variadic []) := by
  rw [func]
  refine (succeeds_params (fun v hv => h v (List.mem_append_left _ hv)) hs).bind
    fun ps s₁ hs₁ _ hps => ?_
  refine (succeeds_params (fun v hv => h v (List.mem_append_right _ hv)) hs₁).bind
    fun rs s₂ hs₂ hgrows₂ hrs => .pure hs₂ ?_
  have hps : List.Forall₂ s₂.graph.Unfolds (FuncSig.inputs ⟨ps, rs, variadic, none, []⟩) inputs :=
    hps.imp fun _ _ => hgrows₂.extend.unfolds
  exact TypeGraph.unfoldsSig_of_forall₂ hps hrs

theorem succeeds_methods {found : List (String × Unfolding)} (hplain : ∀ m ∈ found, m.2.PlainFunc)
    (h : ∀ m ∈ found, ∀ v ∈ m.2.operands, Lowers package named v) (hs : Ready named s) :
    Succeeds named s (methods package [] (methodExprs found)) fun g ms =>
      List.Forall₂ (fun m p => p.1 = m.name ∧ g.UnfoldsSig m.sig p.2) ms found := by
  induction found generalizing s with
  | nil =>
    rw [methodExprs, methods]
    exact .pure hs .nil
  | cons m rest ih =>
    obtain ⟨hm, hrest⟩ := List.forall_mem_cons.1 hplain
    obtain ⟨hown, hother⟩ := List.forall_mem_cons.1 h
    obtain ⟨name, v⟩ := m
    cases v with
    | func inputs outputs variadic typeParams =>
      obtain ⟨rfl, _⟩ := hm
      rw [methodExprs, methods]
      refine (succeeds_func hown hs).bind fun sig s₁ hs₁ _ hsig => ?_
      refine (ih hrest hother hs₁).bind fun ms s₂ hs₂ hgrows₂ hms => .pure hs₂ ?_
      exact .cons ⟨rfl, hsig.mono hgrows₂.extend⟩ hms
    | _ => exact hm.elim

theorem succeeds_type (h : u.Throughout (Legible named)) : Lowers package named u := by
  induction h with
  | @mk u hu _ ih =>
    intro s hs
    cases u with
    | slice element | pointer element | array length element | chan direction element =>
      rw [Unfolding.expr, type]
      exact .part (fun _ _ => rfl) (ih element (List.mem_singleton_self element) s hs)
    | map key value =>
      rw [Unfolding.expr, type]
      refine (ih key List.mem_cons_self s hs).bind fun k s₁ hs₁ _ hk => ?_
      refine (ih value (List.mem_cons_of_mem _ List.mem_cons_self) s₁ hs₁).bind
        fun v s₂ hs₂ hgrows₂ hv => ?_
      exact .add hs₂ (.map (hgrows₂.extend.unfolds hk) hv)
    | func inputs outputs variadic typeParams =>
      obtain ⟨rfl, _⟩ := hu
      rw [Unfolding.expr, type]
      refine (succeeds_func ih hs).bind fun sig s₁ hs₁ _ hsig => ?_
      have hunfolds : s₁.graph.UnfoldsKind (.func sig) _ := hsig
      exact .add hs₁ hunfolds
    | interface found =>
      obtain ⟨hne, _, hsorted, hplain⟩ := hu
      rw [Unfolding.expr, type]
      refine (succeeds_methods (fun m hm => (hplain m hm).2)
        (fun m hm v hv => ih v (List.mem_flatMap.2 ⟨m, hm, hv⟩)) hs).bind
        fun ms s₁ hs₁ _ hms => ?_
      have hms_ne : ms ≠ [] := by
        rintro rfl
        cases hms
        exact hne rfl
      have hunfolds := TypeGraph.UnfoldsKind.interface hms_ne hms
      -- The methods are in the order of their names already.
      rw [List.mergeSort_of_pairwise (hsorted.imp fun h => by simpa using h)] at hunfolds
      exact .add hs₁ hunfolds
    | struct fields => exact hu.elim
    | typeParam name => exact hu.elim
    | named n =>
      rw [Unfolding.expr_named, type]
      exact succeeds_named hs hu
    | _ =>
      rw [Unfolding.expr_of_predeclared? rfl, type]
      exact succeeds_predeclared hs rfl hu

end Lowering

/-- A legible tree has no type parameters that could be in conflict. -/
theorem Unfolding.Legible.monomorphic {u : Unfolding} {named : String → Prop}
    (h : u.Legible named) : u.Monomorphic := by
  have hplain : ∀ {v : Unfolding}, v.PlainFunc → v.typeParams = [] := by
    intro v hv
    cases v with
    | func params results variadic typeParams => exact hv.1
    | _ => exact hv.elim
  cases u with
  | func params results variadic typeParams => exact List.forall_mem_singleton.2 (hplain h)
  | interface methods =>
    obtain ⟨_, _, _, hmethods⟩ := h
    exact List.forall_mem_map.2 fun m hm => hplain (hmethods m hm).2
  | _ => exact List.forall_mem_nil _

/-! ### Canonical types that can be written down -/

/-- As to the root: neither a struct nor a type parameter, and no type parameters of its own. -/
def Unfolding.Expressible : Unfolding → Prop
  | .struct _ => False
  | .typeParam _ => False
  | .func _ _ _ typeParams => typeParams = []
  | _ => True

def CanonKind.Expressible : CanonKind → Prop
  | .struct _ _ => False
  | .typeParam _ => False
  | .func f => f.typeParams = []
  | _ => True

instance : DecidablePred CanonKind.Expressible
  | .struct _ _ | .typeParam _ => isFalse id
  | .func f => inferInstanceAs (Decidable (f.typeParams = []))
  | .bool | .int _ _ | .float _ | .complex _ | .unsafePointer | .string | .slice _ | .array _ _
  | .map _ _ | .pointer _ | .chan _ _ | .interface _ | .any | .error | .named _ _ => isTrue trivial

theorem CanonKind.Expressible.unfoldWith {kind : CanonKind} (h : kind.Expressible)
    (unfold : CanonId → Unfolding) : (kind.unfoldWith unfold).Expressible := by
  cases kind with
  | _ => exact h

theorem FuncSig.Regular.plain {g : TypeGraph} {sig : FuncSig} (h : sig.Regular g)
    (hnone : sig.allTypeParams = []) : sig.Plain g where
  typeParams := hnone
  variadic hvariadic := by
    obtain ⟨last, element, hlast, hnode⟩ := h hvariadic
    exact ⟨last, last, element, hlast, .refl, hnode⟩

theorem map_fst_eq_of_forall₂ {methods : List Method} {found : List (String × Unfolding)}
    (h : List.Forall₂ (fun m p => p.1 = m.name) methods found) :
    found.map (·.1) = methods.map (·.name) := by
  induction h with
  | nil => rfl
  | cons hname _ ih => rw [List.map_cons, List.map_cons, hname, ih]

namespace Lowering

variable {g : TypeGraph} {type : TypeId} {u : Unfolding} {named : String → Prop}

/-- Of what an expression or a declared name makes, all but structs and type parameters can be
written down and read. -/
theorem legible_of_regular
    (hregular : ∀ (id : TypeId) kind, g.nodes[id]? = some kind → kind.Regular g id)
    (hu : g.Unfolds type u) (hexpr : u.Expressible)
    (hnamed : ∀ id n, g.IsNamed id n → u = .named n → named n) : u.Legible named := by
  obtain ⟨last, kind, depth, _, hkind, halias, hu⟩ := TypeGraph.exists_node_of_unfolds hu
  have hregular := hregular last kind hkind
  cases kind with
  | func sig =>
    have hregular : sig.Regular g := hregular.1
    have hsig : sig.unfoldWith (g.unfoldIn depth) = some u := hu
    obtain ⟨params, results, _, _, rfl⟩ := FuncSig.unfoldWith_eq_some_iff.1 hu
    exact TypeGraph.plainFunc_of_unfoldWith (hregular.plain hexpr) hsig
  | interface methods =>
    cases methods with
    | nil =>
      cases hu
      trivial
    | cons m rest =>
      obtain ⟨hnodup, hmethods⟩ := hregular
      obtain ⟨found, hfound, rfl⟩ :=
        (TypeKind.unfoldWith_interface_iff (List.cons_ne_nil m rest)).1 hu
      have hperm := (List.mergeSort_perm found fun a b => a.1 ≤ b.1).map (·.1)
      have hnames := map_fst_eq_of_forall₂ (hfound.imp fun _ _ h => h.1)
      refine ⟨fun hnil => ?_, hperm.nodup_iff.2 (hnames ▸ hnodup),
        pairwise_mergeSort_name found, fun p hp => ?_⟩
      · rw [hnil, List.map_nil, hnames] at hperm
        exact absurd hperm.nil_eq (List.cons_ne_nil _ _).symm
      · obtain ⟨m', hm', heq, hv⟩ := exists_mem_of_forall₂ hfound (List.mem_mergeSort.1 hp)
        obtain ⟨hname, hnone, hsig⟩ := hmethods m' hm'
        exact ⟨heq ▸ hname, TypeGraph.plainFunc_of_unfoldWith (hsig.plain hnone) hv⟩
  | struct fields =>
    obtain ⟨found, _, rfl⟩ := TypeKind.unfoldWith_struct_iff.1 hu
    exact hexpr
  | named n body typeParams =>
    cases hu
    exact hnamed last n ⟨body, typeParams, hkind⟩ rfl
  | typeParam n =>
    cases hu
    exact hexpr
  | aliasOf n target => cases halias
  | map key value =>
    obtain ⟨k, _, hu⟩ := Option.bind_eq_some_iff.1 hu
    obtain ⟨v, _, hu⟩ := Option.bind_eq_some_iff.1 hu
    cases hu
    trivial
  | slice element | array length element | pointer element | chan direction element =>
    obtain ⟨v, _, hu⟩ := Option.bind_eq_some_iff.1 hu
    cases hu
    exact hregular
  | _ =>
    cases hu
    exact hregular

/-- A name that can be written down, that leads to its node, and that the session has met. -/
structure Met (g : TypeGraph) (s : Session) (n : String) : Prop where
  name : IsTypeName n
  declared : predeclaredKind? n = none ∧ ∃ id, g.lookup n = some id ∧ g.IsNamed id n
  known : s.Knows n

end Lowering

open Lowering (Met)

namespace Session

variable {g : TypeGraph} {s : Session} {c : CanonId}

theorem Interned.clear_unfold_iff (h : s.Interned) {a : CanonId} (ha : a < s.size) :
    (s.unfold a).Clear ↔ ¬ ∃ b element,
      s.kind? a = some (.chan .both b) ∧ s.kind? b = some (.chan .recvOnly element) := by
  constructor
  · rintro hclear ⟨b, element, ha, hb⟩
    rw [h.unfold_eq ha, CanonKind.unfoldWith, h.unfold_eq hb] at hclear
    exact hclear
  · intro hnone
    obtain ⟨kind, hkind⟩ := exists_kind? ha
    rw [h.unfold_eq hkind]
    cases kind with
    | chan direction b =>
      cases direction with
      | both =>
        refine Unfolding.clear_chan fun v hv => ?_
        obtain ⟨kind', hkind'⟩ := exists_kind? (h.refs_lt_size hkind b (List.mem_singleton_self b))
        rw [h.unfold_eq hkind'] at hv
        cases kind' with
        | chan direction' element =>
          cases hv
          exact hnone ⟨b, element, hkind, hkind'⟩
        | _ => cases hv
      | _ => trivial
    | _ => trivial

/-- What is read from a legible tree has only names that the session has met. -/
theorem entered_of_met {g' : TypeGraph} {type : TypeId} {u : Unfolding} (hu : g'.Unfolds type u)
    (h : u.Throughout (Legible (Met g s))) : s.Entered g' type := by
  rintro id name hin ⟨body, typeParams, hnode⟩
  obtain ⟨v, hv, hlegible⟩ := hu.throughout_of_insides h hin
  obtain ⟨kind, depth, hkind, hv⟩ := hv.exists_kind
  cases hnode.symm.trans hkind
  cases hv
  exact hlegible.root.known

variable {st : Lowering.State} (hs : Lowering.Sound st)
  (hnames : ∀ id n, st.graph.IsNamed id n → IsTypeName n ∧ Lowering.predeclaredKind? n = none)
  (hvalid : s.Valid st.graph) (hc : c < s.size)
  (hexpr : ∀ a kind, s.Within c a → s.kind? a = some kind → kind.Expressible)

include hs hnames hvalid hc hexpr

theorem Valid.throughout_legible : (s.unfold c).Throughout (Legible (Met st.graph s)) := by
  refine (hvalid.interned.throughout_iff hc).2 fun a ha => ?_
  have hlt := hvalid.interned.lt_size_of_within hc ha
  obtain ⟨kind, hkind⟩ := exists_kind? hlt
  -- Each canonical type was made for some node, so what lowering says of nodes holds of it.
  obtain ⟨type, htype⟩ := hvalid.origin a hlt
  have hroot := (hexpr a kind ha hkind).unfoldWith s.unfold
  rw [← hvalid.interned.unfold_eq hkind] at hroot
  refine Lowering.legible_of_regular hs.regular htype hroot fun id n hname heq => ?_
  obtain ⟨hword, hown⟩ := hnames id n hname
  have hid : st.graph.lookup n = some id := by
    obtain ⟨body, typeParams, hnode⟩ := hname
    exact hs.regular id _ hnode
  exact ⟨hword, ⟨hown, id, hid, hname⟩, a, kind?_of_unfold_eq hvalid.interned hlt heq⟩

/-- The written form is read, lowers, and has a canonical type in the same session. -/
theorem Valid.exists_reread (package : String) : ∃ e id st' c' s',
    TypeExpr.read (s.typeString c) = .ok e ∧ Lowering.type package [] e st = .ok (id, st') ∧
      normalize st'.graph id s = (.ok c', s') ∧ s'.Valid st'.graph ∧ s.Extends s' ∧ c' < s'.size ∧
      s'.unfold c' = (s.unfold c).reading := by
  have hlegible := hvalid.throughout_legible hs hnames hc hexpr
  have hread := Unfolding.read_text hlegible fun n hn => hn.name
  rw [← hvalid.interned.typeString_eq_text hc] at hread
  have hreading := (Unfolding.throughout_reading hlegible).mono fun _ h => h.1
  have hready : Lowering.Ready (Met st.graph s) st := ⟨hs.predeclared, fun n hn => hn.declared⟩
  -- No body is looked at: every name in the new nodes is one that the session has met.
  obtain ⟨id, st', hrun, _, hgrows, hunfolds⟩ := Lowering.succeeds_type hreading st hready
  obtain ⟨c', s', hnormalize, hs', hextends, hrepresents⟩ :=
    normalize_of_entered (hvalid.completed hgrows.extend) hunfolds
      (hreading.mono fun _ h => h.monomorphic) (entered_of_met hunfolds hreading)
  exact ⟨_, id, st', c', s', hread, hrun, hnormalize, hs', hextends, hrepresents.lt_size,
    hrepresents.unfolds.unique hunfolds⟩

theorem Valid.reading_eq_iff : (s.unfold c).reading = s.unfold c ↔
    ¬ ∃ a b element, s.Within c a ∧ s.kind? a = some (.chan .both b) ∧
      s.kind? b = some (.chan .recvOnly element) := by
  rw [Unfolding.reading_eq_iff (hvalid.throughout_legible hs hnames hc hexpr),
    hvalid.interned.throughout_iff hc]
  constructor
  · rintro hclear ⟨a, b, element, ha, hab⟩
    have hlt := hvalid.interned.lt_size_of_within hc ha
    exact (hvalid.interned.clear_unfold_iff hlt).1 (hclear a ha) ⟨b, element, hab⟩
  · intro hnone a ha
    have hlt := hvalid.interned.lt_size_of_within hc ha
    refine (hvalid.interned.clear_unfold_iff hlt).2 ?_
    rintro ⟨b, element, hab⟩
    exact hnone ⟨a, b, element, ha, hab⟩

end Session

open Lowering

theorem not_mem_typeKeywords {name : String} (h : hasDot name = true) : name ∉ typeKeywords := by
  intro hmem
  have hplain : ∀ word ∈ typeKeywords, hasDot word = false := by decide
  rw [hplain name hmem] at h
  cases h

theorem predeclaredKind?_eq_none {name : String} (h : hasDot name = true)
    (hne : name ≠ "unsafe.Pointer") : predeclaredKind? name = none := by
  unfold predeclaredKind?
  split <;> first | rfl | exact absurd rfl hne | exact absurd h (by decide)

namespace Declaration

variable {d : Declaration} {l : Lowered}

theorem exists_run (h : d.lower = .ok l) : ∃ nodes predeclared,
    declarationNodes d ⟨.empty, []⟩ = .ok ((l.requests, nodes), ⟨l.graph, predeclared⟩) := by
  rw [lower] at h
  split at h
  · cases h
  · rename_i hrun
    cases h
    rw [declaration_eq, map_eq_pure_bind] at hrun
    obtain ⟨⟨requests, nodes⟩, _, hrun, hpure⟩ := bind_eq_ok hrun
    cases hpure
    exact ⟨nodes, _, hrun⟩

theorem exists_type_of_isNamed {r : List Request × PlaceNodes} {st : State} {id : TypeId}
    {n : String} (hrun : declarationNodes d ⟨.empty, []⟩ = .ok (r, st))
    (hname : st.graph.IsNamed id n) : ∃ t ∈ d.types, n = d.qualifiedName t.name := by
  obtain ⟨hs, _, _⟩ := lays_declarationNodes d _ _ hrun
  obtain ⟨body, typeParams, hnode⟩ := hname
  have hid : st.graph.lookup n = some id := hs.regular id _ hnode
  obtain ⟨names, hnames, hholds, _⟩ := written_declarationNodes hrun
  obtain ⟨text, htext, _⟩ := lookup_of_forall₂
    (R := fun id text => st.graph.Reads id (some text)) hholds.declared hid
  exact exists_type_of_mem_names? hnames (mem_of_lookup htext)

/-- Whatever was asked for before: a canonical type of the declaration that is made without structs
and type parameters has a written form which is read, lowers in the same declaration, and has a
canonical type in the same session. This is the same one just if no channel of both directions has
a channel to receive from as its element, at any depth. -/
theorem reread_eq_iff (h : d.lower = .ok l)
    (hnames : ∀ t ∈ d.types, Token.IsIdent (d.qualifiedName t.name) ∧
      d.qualifiedName t.name ≠ "unsafe.Pointer")
    {types : List TypeId} {s : Session} (hs : s = Session.after l.graph types .empty)
    {c : CanonId} (hc : c < s.size)
    (hexpr : ∀ a kind, s.Within c a → s.kind? a = some kind → kind.Expressible) :
    ∃ predeclared e id st c',
      Lowering.declaration d ⟨.empty, []⟩ = .ok (l.requests, ⟨l.graph, predeclared⟩) ∧
      TypeExpr.read (s.typeString c) = .ok e ∧
      Lowering.type d.package.name [] e ⟨l.graph, predeclared⟩ = .ok (id, st) ∧
      (Session.normalize st.graph id s).1 = .ok c' ∧
      (c' = c ↔ ¬ ∃ a b element, s.Within c a ∧ s.kind? a = some (.chan .both b) ∧
        s.kind? b = some (.chan .recvOnly element)) := by
  obtain ⟨nodes, predeclared, hrun⟩ := exists_run h
  obtain ⟨hsound, _, _⟩ := lays_declarationNodes d _ _ hrun
  have hvalid : s.Valid l.graph := hs ▸ Session.valid_after types (Session.valid_empty l.graph)
  have hwords : ∀ id n, l.graph.IsNamed id n → IsTypeName n ∧ predeclaredKind? n = none := by
    intro id n hname
    obtain ⟨t, ht, rfl⟩ := exists_type_of_isNamed hrun hname
    have hdot : hasDot (d.qualifiedName t.name) = true := hasDot_qualify _ _
    obtain ⟨hident, hne⟩ := hnames t ht
    exact ⟨⟨hident, not_mem_typeKeywords hdot⟩, predeclaredKind?_eq_none hdot hne⟩
  obtain ⟨e, id, st, c', s', hread, hlowered, hnormalize, hs', hextends, hc', hunfold⟩ :=
    hvalid.exists_reread hsound hwords hc hexpr d.package.name
  refine ⟨predeclared, e, id, st, c', ?_, hread, hlowered, by rw [hnormalize], ?_⟩
  · rw [declaration_eq, map_eq_pure_bind]
    show (declarationNodes d ⟨.empty, []⟩ >>= _) = _
    rw [hrun]
    rfl
  · have hsame := hextends.unfold_eq hvalid.interned hs'.interned hc
    rw [← hvalid.reading_eq_iff hsound hwords hc hexpr, ← hunfold, ← hsame]
    refine ⟨fun heq => by rw [heq], fun heq => ?_⟩
    exact hs'.interned.eq_of_unfold_eq hc' (hextends.lt_size hc) heq

/-- An alias puts the arrow of a channel behind the word for another. -/
def relay : Declaration where
  package := ⟨"relay", none⟩
  types := [⟨"Crate", "map[string]*Crate", false, [], true⟩,
    ⟨"Inbox", "<-chan Crate", true, [], true⟩]
  functions := []
  methods := []
  convert := [⟨"func(Inbox, ...byte) (chan<- Inbox, error)", .both⟩, ⟨"chan Inbox", .both⟩]

theorem reread_eq_iff_relay : ∃ l s predeclared e id st, relay.lower = .ok l ∧
    s = Session.after l.graph [10] .empty ∧
    Lowering.declaration relay ⟨.empty, []⟩ = .ok (l.requests, ⟨l.graph, predeclared⟩) ∧
    s.typeString 9 = "func(<-chan relay.Crate, ...uint8) (chan<- <-chan relay.Crate, error)" ∧
    TypeExpr.read (s.typeString 9) = .ok e ∧
    Lowering.type "relay" [] e ⟨l.graph, predeclared⟩ = .ok (id, st) ∧
    (Session.normalize st.graph id s).1 = .ok 9 := by
  have hrun : (relay.lower.map fun l =>
      let s := Session.after l.graph [10] .empty
      decide (9 < s.size ∧
        s.typeString 9 = "func(<-chan relay.Crate, ...uint8) (chan<- <-chan relay.Crate, error)" ∧
        ∀ kind ∈ s.kinds.toList, kind.Expressible ∧ ∀ b ∈ kind.refs, kind ≠ .chan .both b)) =
          .ok true := by
    decide +kernel
  cases hlower : relay.lower with
  | error e =>
    rw [hlower] at hrun
    cases hrun
  | ok l =>
    rw [hlower] at hrun
    obtain ⟨hc, htext, hkinds⟩ := of_decide_eq_true (Except.ok.inj hrun)
    have hkinds : ∀ a kind, (Session.after l.graph [10] .empty).kind? a = some kind →
        kind.Expressible ∧ ∀ b ∈ kind.refs, kind ≠ .chan .both b := fun a kind hkind =>
      hkinds kind (Array.mem_toList_iff.2 (Array.mem_of_getElem? hkind))
    obtain ⟨predeclared, e, id, st, c', hdeclared, hread, hlowered, hnormalize, hiff⟩ :=
      reread_eq_iff hlower (by decide) rfl hc fun a kind _ hkind => (hkinds a kind hkind).1
    obtain rfl : c' = 9 := by
      refine hiff.2 ?_
      rintro ⟨a, b, element, _, ha, _⟩
      exact (hkinds a _ ha).2 b (List.mem_singleton_self b) rfl
    exact ⟨l, _, predeclared, e, id, st, rfl, rfl, hdeclared, htext, hread, hlowered, hnormalize⟩

/-- The word `chan` takes the arrow of its element, so another type is read. -/
theorem arrow_of_element : relay.check = .ok () ∧
    (∀ t ∈ relay.types, IsTypeName t.name ∧ predeclaredKind? t.name = none) ∧
    ∃ requests lowered s c id st c', Lowering.declaration relay ⟨.empty, []⟩ =
        .ok (requests, lowered) ∧
      Session.normalize lowered.graph 11 .empty = (.ok c, s) ∧
      (∀ kind ∈ s.kinds.toList, kind.Expressible) ∧
      s.typeString c = "chan <-chan relay.Crate" ∧
      TypeExpr.read (s.typeString c) =
        .ok (.chan .sendOnly (.chan .both (.name "relay.Crate" []))) ∧
      Lowering.type "relay" [] (.chan .sendOnly (.chan .both (.name "relay.Crate" []))) lowered =
        .ok (id, st) ∧
      (Session.normalize st.graph id s).1 = .ok c' ∧ c' ≠ c := by
  refine ⟨by decide, by decide, ?_⟩
  let again := TypeExpr.chan .sendOnly (.chan .both (.name "relay.Crate" []))
  have hrun : ((Lowering.declaration relay ⟨.empty, []⟩).bind fun r =>
      (Lowering.type "relay" [] again r.2).map fun r' =>
        let answer := Session.normalize r.2.graph 11 .empty
        decide (answer.1 = .ok 5 ∧ (∀ kind ∈ answer.2.kinds.toList, kind.Expressible) ∧
          answer.2.typeString 5 = "chan <-chan relay.Crate" ∧
          (Session.normalize r'.2.graph r'.1 answer.2).1 = .ok 7)) = .ok true := by
    decide +kernel
  have hread : TypeExpr.read "chan <-chan relay.Crate" = .ok again := by decide +kernel
  cases hdeclared : Lowering.declaration relay ⟨.empty, []⟩ with
  | error e =>
    rw [hdeclared] at hrun
    cases hrun
  | ok r =>
    rw [hdeclared] at hrun
    obtain ⟨requests, lowered⟩ := r
    cases hlowered : Lowering.type "relay" [] again lowered with
    | error e =>
      rw [Except.bind, hlowered] at hrun
      cases hrun
    | ok r' =>
      rw [Except.bind, hlowered] at hrun
      obtain ⟨id, st⟩ := r'
      obtain ⟨hc, hkinds, htext, hc'⟩ := of_decide_eq_true (Except.ok.inj hrun)
      refine ⟨requests, lowered, _, 5, id, st, 7, rfl, Prod.ext hc rfl, hkinds, htext, ?_,
        hlowered, hc', by decide⟩
      rw [htext]
      exact hread

end Declaration
end ScriptBind
