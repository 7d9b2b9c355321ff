import ScriptBind.Proofs.Declaration.Layout

/-!
# ScriptBind.Proofs.Declaration.Determined

An expression that stands at two nodes of a graph means the same type at both, however often it was
lowered.

* `TypeGraph.Alike` - a node has the tree of another one.
* `TypeExpr.At.alike`, `FuncExpr.At.alike` - expressions and signatures, by induction on them.
* `TypePlace.At.alike` - places of a declaration with the same content.
-/

namespace ScriptBind

namespace TypeGraph

variable {g : TypeGraph} {a b : TypeId} {kind : TypeKind} {u : Unfolding}

/-- The second node has the tree of the first, if this has one. -/
def Alike (g : TypeGraph) (a b : TypeId) : Prop := ∀ u, g.Unfolds a u → g.Unfolds b u

/-- The parts of the signatures have the same trees, one by one, but for the receivers. -/
structure AlikeSig (g : TypeGraph) (sig sig' : FuncSig) : Prop where
  params : List.Forall₂ g.Alike (sig.params.map (·.type)) (sig'.params.map (·.type))
  results : List.Forall₂ g.Alike sig.outputs sig'.outputs
  variadic : sig.variadic = sig'.variadic
  typeParams : sig.typeParams = sig'.typeParams

/-! ### What a node is made of -/

theorem Unfolds.unfoldsKind (h : g.Unfolds a u) (ha : g.nodes[a]? = some kind) :
    g.UnfoldsKind kind u :=
  h.exists_unfoldWith ha

theorem alike_refl (g : TypeGraph) (a : TypeId) : g.Alike a a := fun _ h => h

theorem alike_of_kind (ha : g.nodes[a]? = some kind) (hb : g.nodes[b]? = some kind) :
    g.Alike a b := fun _ h => (h.unfoldsKind ha).unfolds hb

/-- Of nodes with one part each. -/
theorem alike_of_part {e e' : TypeId} {kind : TypeId → TypeKind} {make : Unfolding → Unfolding}
    (hkind : ∀ e unfold, (kind e).unfoldWith unfold = (do return make (← unfold e)))
    (ha : g.nodes[a]? = some (kind e)) (hb : g.nodes[b]? = some (kind e')) (h : g.Alike e e') :
    g.Alike a b := by
  intro u hu
  obtain ⟨depth, hu⟩ := hu.unfoldsKind ha
  rw [hkind] at hu
  obtain ⟨v, hv, hu⟩ := Option.bind_eq_some_iff.1 hu
  cases hu
  exact (UnfoldsKind.of_part (hkind e') (h v ⟨depth, hv⟩)).unfolds hb

theorem alike_map {k k' v v' : TypeId} (ha : g.nodes[a]? = some (.map k v))
    (hb : g.nodes[b]? = some (.map k' v')) (hk : g.Alike k k') (hv : g.Alike v v') :
    g.Alike a b := by
  intro u hu
  obtain ⟨depth, hu⟩ := hu.unfoldsKind ha
  obtain ⟨x, hx, hu⟩ := Option.bind_eq_some_iff.1 hu
  obtain ⟨y, hy, hu⟩ := Option.bind_eq_some_iff.1 hu
  cases hu
  exact (UnfoldsKind.map (hk x ⟨depth, hx⟩) (hv y ⟨depth, hy⟩)).unfolds hb

theorem forall₂_of_alike {α β : Type} {R : α → α → Prop} {P : α → β → Prop} {xs ys : List α}
    {us : List β} (h : List.Forall₂ R xs ys) (hP : ∀ x y u, R x y → P x u → P y u)
    (hus : List.Forall₂ P xs us) : List.Forall₂ P ys us := by
  induction h generalizing us with
  | nil => exact hus
  | cons hxy _ ih =>
    cases hus with
    | cons hx hrest => exact .cons (hP _ _ _ hxy hx) (ih hrest)

theorem unfolds_of_mapM {types : List TypeId} {us : List Unfolding} {depth : Nat}
    (h : types.mapM (g.unfoldIn depth) = some us) : List.Forall₂ g.Unfolds types us :=
  (mapM_eq_some_iff.1 h).imp fun _ _ hu => ⟨depth, hu⟩

/-- The receivers are alike too, and have the same type parameters. -/
theorem AlikeSig.unfoldsSig {sig sig' : FuncSig} (h : g.AlikeSig sig sig')
    (hreceiver : List.Forall₂ g.Alike (sig.receiver.toList.map (·.type))
      (sig'.receiver.toList.map (·.type)))
    (hparams : sig.receiver.map (·.typeParams) = sig'.receiver.map (·.typeParams))
    (hu : g.UnfoldsSig sig u) : g.UnfoldsSig sig' u := by
  obtain ⟨depth, hu⟩ := hu
  obtain ⟨us, vs, hus, hvs, rfl⟩ := FuncSig.unfoldWith_eq_some_iff.1 hu
  have hall : sig.allTypeParams = sig'.allTypeParams := by
    rw [FuncSig.allTypeParams, FuncSig.allTypeParams, h.typeParams]
    cases hr : sig.receiver with
    | none =>
      rw [hr] at hparams
      rw [Option.map_eq_none_iff.1 hparams.symm]
    | some receiver =>
      rw [hr] at hparams
      obtain ⟨receiver', hr', heq⟩ := Option.map_eq_some_iff.1 hparams.symm
      have heq : receiver'.typeParams = receiver.typeParams := heq
      rw [hr']
      simp only [heq]
  rw [h.variadic, hall]
  have halike : ∀ x y u, g.Alike x y → g.Unfolds x u → g.Unfolds y u := fun _ _ u hxy => hxy u
  exact unfoldsSig_of_forall₂
    (forall₂_of_alike (List.rel_append hreceiver h.params) halike (unfolds_of_mapM hus))
    (forall₂_of_alike h.results halike (unfolds_of_mapM hvs))

/-- Without receivers. -/
theorem AlikeSig.unfoldsSig_of_none {sig sig' : FuncSig} (h : g.AlikeSig sig sig')
    (hnone : sig.receiver = none) (hnone' : sig'.receiver = none) (hu : g.UnfoldsSig sig u) :
    g.UnfoldsSig sig' u := by
  refine h.unfoldsSig ?_ ?_ hu
  · rw [hnone, hnone']
    exact .nil
  · rw [hnone, hnone']

theorem alike_func {sig sig' : FuncSig} (ha : g.nodes[a]? = some (.func sig))
    (hb : g.nodes[b]? = some (.func sig')) (h : ∀ u, g.UnfoldsSig sig u → g.UnfoldsSig sig' u) :
    g.Alike a b := by
  intro u hu
  have hkind : g.UnfoldsKind (.func sig') u := h u (hu.unfoldsKind ha)
  exact hkind.unfolds hb

theorem alike_struct {fields fields' : List Field} (ha : g.nodes[a]? = some (.struct fields))
    (hb : g.nodes[b]? = some (.struct fields'))
    (h : List.Forall₂ (fun f f' => f.name = f'.name ∧ g.Alike f.type f'.type) fields fields') :
    g.Alike a b := by
  intro u hu
  obtain ⟨depth, hu⟩ := hu.unfoldsKind ha
  obtain ⟨found, hfound, rfl⟩ := TypeKind.unfoldWith_struct_iff.1 hu
  have hparts : List.Forall₂ (fun f p => p.1 = f.name ∧ g.Unfolds f.type p.2) fields found :=
    hfound.imp fun f p hp => ⟨hp.1, depth, hp.2⟩
  refine (UnfoldsKind.struct (forall₂_of_alike h ?_ hparts)).unfolds hb
  exact fun f f' p hf hp => ⟨hp.1.trans hf.1, hf.2 _ hp.2⟩

theorem alike_interface {methods methods' : List Method}
    (ha : g.nodes[a]? = some (.interface methods)) (hb : g.nodes[b]? = some (.interface methods'))
    (h : List.Forall₂ (fun m m' => m.name = m'.name ∧
      ∀ u, g.UnfoldsSig m.sig u → g.UnfoldsSig m'.sig u) methods methods') :
    g.Alike a b := by
  intro u hu
  obtain ⟨depth, hu⟩ := hu.unfoldsKind ha
  cases h with
  | nil =>
    have hkind : g.UnfoldsKind (.interface []) u := ⟨depth, hu⟩
    exact hkind.unfolds hb
  | @cons m m' rest rest' hm hrest =>
    obtain ⟨found, hfound, rfl⟩ :=
      (TypeKind.unfoldWith_interface_iff (List.cons_ne_nil m rest)).1 hu
    have hparts : List.Forall₂ (fun m p => p.1 = m.name ∧ g.UnfoldsSig m.sig p.2) (m :: rest)
        found := hfound.imp fun m p hp => ⟨hp.1, depth, hp.2⟩
    refine (UnfoldsKind.interface (List.cons_ne_nil m' rest')
      (forall₂_of_alike (.cons hm hrest) ?_ hparts)).unfolds hb
    exact fun m m' p hm hp => ⟨hp.1.trans hm.1, hm.2 _ hp.2⟩

end TypeGraph

/-! ### Expressions -/

/-- Nodes of the same name are alike. -/
def NamesAlike (g : TypeGraph) (nameAt : List String → String → TypeId → Prop) : Prop :=
  ∀ scope n a b, nameAt scope n a → nameAt scope n b → g.Alike a b

section Expressions

open TypeGraph

variable {g : TypeGraph} {nameAt : List String → String → TypeId → Prop}

mutual

theorem TypeExpr.At.alike (hnames : NamesAlike g nameAt) {scope : List String} :
    ∀ {e : TypeExpr} {a b : TypeId}, e.At g nameAt scope a → e.At g nameAt scope b → g.Alike a b
  | .name n [], a, b, ha, hb => by
    rw [TypeExpr.At] at ha hb
    exact hnames scope n a b ha hb
  | .name n (arg :: args), a, b, ha, _ => by
    rw [TypeExpr.At] at ha
    exact ha.elim
  | .slice element, a, b, ha, hb => by
    rw [TypeExpr.At] at ha hb
    obtain ⟨e, ha, he⟩ := ha
    obtain ⟨e', hb, he'⟩ := hb
    exact alike_of_part (fun _ _ => rfl) ha hb (he.alike hnames he')
  | .array length element, a, b, ha, hb => by
    rw [TypeExpr.At] at ha hb
    obtain ⟨e, ha, he⟩ := ha
    obtain ⟨e', hb, he'⟩ := hb
    have hkind : ∀ e unfold, (TypeKind.array length e).unfoldWith unfold =
        (do return Unfolding.array length (← unfold e)) := fun _ _ => rfl
    exact alike_of_part hkind ha hb (he.alike hnames he')
  | .pointer element, a, b, ha, hb => by
    rw [TypeExpr.At] at ha hb
    obtain ⟨e, ha, he⟩ := ha
    obtain ⟨e', hb, he'⟩ := hb
    exact alike_of_part (fun _ _ => rfl) ha hb (he.alike hnames he')
  | .chan direction element, a, b, ha, hb => by
    rw [TypeExpr.At] at ha hb
    obtain ⟨e, ha, he⟩ := ha
    obtain ⟨e', hb, he'⟩ := hb
    have hkind : ∀ e unfold, (TypeKind.chan direction e).unfoldWith unfold =
        (do return Unfolding.chan direction (← unfold e)) := fun _ _ => rfl
    exact alike_of_part hkind ha hb (he.alike hnames he')
  | .map key value, a, b, ha, hb => by
    rw [TypeExpr.At] at ha hb
    obtain ⟨k, v, ha, hk, hv⟩ := ha
    obtain ⟨k', v', hb, hk', hv'⟩ := hb
    exact alike_map ha hb (hk.alike hnames hk') (hv.alike hnames hv')
  | .func signature, a, b, ha, hb => by
    rw [TypeExpr.At] at ha hb
    obtain ⟨sig, ha, hnone, hsig⟩ := ha
    obtain ⟨sig', hb, hnone', hsig'⟩ := hb
    exact alike_func ha hb fun _ =>
      (hsig.alike hnames hsig').unfoldsSig_of_none hnone hnone'
  | .struct fields, a, b, ha, hb => by
    rw [TypeExpr.At] at ha hb
    obtain ⟨found, ha, hfound⟩ := ha
    obtain ⟨found', hb, hfound'⟩ := hb
    exact alike_struct ha hb (fieldsAt.alike hnames hfound hfound')
  | .interface methods, a, b, ha, hb => by
    rw [TypeExpr.At] at ha hb
    obtain ⟨found, ha, hfound⟩ := ha
    obtain ⟨found', hb, hfound'⟩ := hb
    exact alike_interface ha hb (methodsAt.alike hnames hfound hfound')

theorem FuncExpr.At.alike (hnames : NamesAlike g nameAt) {outer : List String} :
    ∀ {f : FuncExpr} {sig sig' : FuncSig}, f.At g nameAt outer sig → f.At g nameAt outer sig' → g.AlikeSig sig sig'
  | ⟨typeParams, params, results, variadic⟩, sig, sig', h, h' => by
    rw [FuncExpr.At] at h h'
    obtain ⟨htypeParams, hvariadic, hparams, hresults⟩ := h
    obtain ⟨htypeParams', hvariadic', hparams', hresults'⟩ := h'
    exact ⟨paramsAt.alike hnames hparams hparams', paramsAt.alike hnames hresults hresults',
      hvariadic.trans hvariadic'.symm, htypeParams.trans htypeParams'.symm⟩

theorem paramsAt.alike (hnames : NamesAlike g nameAt) {scope : List String} :
    ∀ {params : List ParamExpr} {found found' : List Param}, paramsAt g nameAt scope params found →
    paramsAt g nameAt scope params found' →
    List.Forall₂ g.Alike (found.map (·.type)) (found'.map (·.type))
  | [], found, found', h, h' => by
    rw [paramsAt] at h h'
    subst h h'
    exact .nil
  | ⟨n, t⟩ :: rest, found, found', h, h' => by
    rw [paramsAt] at h h'
    obtain ⟨p, others, rfl, _, ht, hothers⟩ := h
    obtain ⟨p', others', rfl, _, ht', hothers'⟩ := h'
    exact .cons (ht.alike hnames ht') (paramsAt.alike hnames hothers hothers')

theorem fieldsAt.alike (hnames : NamesAlike g nameAt) {scope : List String} :
    ∀ {fields : List FieldExpr} {found found' : List Field}, fieldsAt g nameAt scope fields found →
    fieldsAt g nameAt scope fields found' →
    List.Forall₂ (fun f f' => f.name = f'.name ∧ g.Alike f.type f'.type) found found'
  | [], found, found', h, h' => by
    rw [fieldsAt] at h h'
    subst h h'
    exact .nil
  | ⟨n, t⟩ :: rest, found, found', h, h' => by
    rw [fieldsAt] at h h'
    obtain ⟨f, others, rfl, hname, ht, hothers⟩ := h
    obtain ⟨f', others', rfl, hname', ht', hothers'⟩ := h'
    exact .cons ⟨hname.trans hname'.symm, ht.alike hnames ht'⟩
      (fieldsAt.alike hnames hothers hothers')

theorem methodsAt.alike (hnames : NamesAlike g nameAt) {scope : List String} :
    ∀ {methods : List MethodExpr} {found found' : List Method}, methodsAt g nameAt scope methods found →
    methodsAt g nameAt scope methods found' →
    List.Forall₂ (fun m m' => m.name = m'.name ∧
      ∀ u, g.UnfoldsSig m.sig u → g.UnfoldsSig m'.sig u) found found'
  | [], found, found', h, h' => by
    rw [methodsAt] at h h'
    subst h h'
    exact .nil
  | ⟨n, f⟩ :: rest, found, found', h, h' => by
    rw [methodsAt] at h h'
    obtain ⟨m, others, rfl, hname, hnone, hf, hothers⟩ := h
    obtain ⟨m', others', rfl, hname', hnone', hf', hothers'⟩ := h'
    exact .cons ⟨hname.trans hname'.symm, fun _ =>
      (hf.alike hnames hf').unfoldsSig_of_none hnone hnone'⟩
      (methodsAt.alike hnames hothers hothers')

end

end Expressions

/-! ### Places -/

open TypeGraph Lowering

variable {g : TypeGraph} {package : String}

/-- A name means one type. -/
theorem Lowering.Means.alike {scope : List String} {n : String} {a b : TypeId}
    (ha : Means package g scope n a) (hb : Means package g scope n b) : g.Alike a b := by
  rw [Means] at ha hb
  split at ha
  · rename_i hscope
    rw [if_pos hscope] at hb
    exact alike_of_kind ha hb
  · rename_i hscope
    rw [if_neg hscope] at hb
    split at ha
    · rename_i hkind
      rw [hkind] at hb
      exact alike_of_kind ha hb
    · rename_i hkind
      rw [hkind] at hb
      have hb : g.lookup (qualify package n) = some b := hb
      cases ha.symm.trans hb
      exact alike_refl g a

theorem Lowering.namesAlike_means (package : String) (g : TypeGraph) :
    NamesAlike g (Means package g) := fun _ _ _ _ => Means.alike

theorem ReceiverAt.alike {text : String} {r r' : Receiver} (h : ReceiverAt g package text r)
    (h' : ReceiverAt g package text r') :
    r.typeParams = r'.typeParams ∧ g.Alike r.type r'.type := by
  obtain ⟨isPointer, n, base, hread, hbase, htype⟩ := h
  obtain ⟨isPointer', n', base', hread', hbase', htype'⟩ := h'
  obtain ⟨rfl, rfl, hparams⟩ : isPointer = isPointer' ∧ n = n' ∧ r.typeParams = r'.typeParams := by
    simpa using hread.symm.trans hread'
  cases hbase.symm.trans hbase'
  refine ⟨hparams, ?_⟩
  cases isPointer with
  | true => exact alike_of_kind htype htype'
  | false =>
    have heq : r.type = r'.type := Eq.trans htype (Eq.symm htype')
    exact heq ▸ alike_refl g r.type

/-- What is written at a place means one type. -/
theorem TypePlace.At.alike {place : TypePlace} {a b : TypeId}
    (ha : place.At g package (Means package g) a) (hb : place.At g package (Means package g) b) :
    g.Alike a b := by
  have hnames := namesAlike_means package g
  cases place with
  | target t | body t | conversion c =>
    obtain ⟨e, hread, ha⟩ := ha
    obtain ⟨e', hread', hb⟩ := hb
    cases hread.symm.trans hread'
    exact ha.alike hnames hb
  | function f =>
    obtain ⟨e, sig, hread, ha, hnone, hsig⟩ := ha
    obtain ⟨e', sig', hread', hb, hnone', hsig'⟩ := hb
    cases hread.symm.trans hread'
    exact alike_func ha hb fun _ => (hsig.alike hnames hsig').unfoldsSig_of_none hnone hnone'
  | receiver m =>
    obtain ⟨_, ha⟩ := ha
    obtain ⟨_, hb⟩ := hb
    exact (ha.alike hb).2
  | method m =>
    obtain ⟨receiver, e, sig, hbase, hread, ha, hreceiver, hsig⟩ := ha
    obtain ⟨receiver', e', sig', hbase', hread', hb, hreceiver', hsig'⟩ := hb
    cases hread.symm.trans hread'
    obtain ⟨hparams, htype⟩ := hbase.alike hbase'
    rw [← hparams] at hsig'
    refine alike_func ha hb fun _ => (hsig.alike hnames hsig').unfoldsSig ?_ ?_
    · rw [hreceiver, hreceiver']
      exact .cons htype .nil
    · rw [hreceiver, hreceiver', Option.map_some, Option.map_some, hparams]

end ScriptBind
