import ScriptBind.Proofs.Declaration.Expressions

/-!
# ScriptBind.Proofs.Declaration.Places

The types of a lowered declaration, wherever they stand in it, are written as their expressions are
spelled.

* `Declaration.lowerNodes` - lowering, which notes the node that each place was given.
* `Declaration.lower_eq` - apart from the notes it is lowering.
* `Declaration.typeString_lowered` - the canonical type of each node, in writing.
-/

namespace ScriptBind

theorem FuncExpr.WellFormed.endsInSlice {f : FuncExpr} (h : f.WellFormed)
    (hvariadic : f.variadic = true) : EndsInSlice f.params := by
  cases h with
  | mk _ _ _ _ _ hend => exact hend hvariadic

/-- Places of a declaration, each with the node that it was given. -/
abbrev PlaceNodes := List (TypePlace × TypeId)

namespace Lowering

/-- A part of the declaration after the other. -/
def gather {α : Type} (step : α → LowerM (List Request × PlaceNodes)) :
    List α → LowerM (List Request × PlaceNodes)
  | [] => pure ([], [])
  | x :: rest => do
    let found ← step x
    let others ← gather step rest
    return (found.1 ++ others.1, found.2 ++ others.2)

def targetNode (package : String) (t : TypeDecl) : LowerM (List Request × PlaceNodes) := do
  let target ← typeText package [] t.type
  let _ ← liftGraph fun g => g.addAlias (qualify package t.name) target
  return ([], [(.target t, target)])

def bodyNode (package : String) (t : TypeDecl) : LowerM (List Request × PlaceNodes) := do
  let body ← typeText package t.typeParams t.type
  let id ← declaredId package t
  liftGraph fun g => (g.define id body).map fun g => (g, ())
  return ([], [(.body t, body)])

def functionNode (package : String) (f : FunctionDecl) : LowerM (List Request × PlaceNodes) := do
  let sig ← func package [] (← liftRead (FuncExpr.read f.signature))
  let id ← add (.func sig)
  return (if f.request then bothWays (qualify package f.name) id else [], [(.function f, id)])

def methodNode (package : String) (m : MethodDecl) : LowerM (List Request × PlaceNodes) := do
  let (receiver, base) ← receiver package m.receiver
  let sig ← func package receiver.typeParams (← liftRead (FuncExpr.read m.signature))
  let id ← add (.func { sig with receiver := some receiver })
  return (if m.request then bothWays (base ++ "." ++ m.name) id else [],
    [(.receiver m, receiver.type), (.method m, id)])

def conversionNode (package : String) (c : ConvertDecl) :
    LowerM (List Request × PlaceNodes) := do
  let id ← typeText package [] c.type
  return (c.direction.directions.map fun d => ⟨c.type, id, d⟩, [(.conversion c, id)])

/-- What follows once all names are declared. -/
def contentNodes (d : Declaration) : LowerM (List Request × PlaceNodes) := do
  let package := d.package.name
  let bodies ← gather (bodyNode package) d.named
  let ofTypes ← requestTypes package d.types
  let ofFunctions ← gather (functionNode package) d.functions
  let ofMethods ← gather (methodNode package) d.methods
  let explicit ← gather (conversionNode package) d.convert
  liftGraph fun g => g.validate.map fun () => (g, ())
  return (ofTypes ++ ofFunctions.1 ++ ofMethods.1 ++ explicit.1,
    bodies.2 ++ ofFunctions.2 ++ ofMethods.2 ++ explicit.2)

def declarationNodes (d : Declaration) : LowerM (List Request × PlaceNodes) := do
  declareTypes d.package.name d.types
  let targets ← gather (targetNode d.package.name) d.aliases
  let content ← contentNodes d
  return (content.1, targets.2 ++ content.2)

/-! ### Apart from the notes -/

theorem defineAliases_eq (package : String) (types : List TypeDecl) :
    defineAliases package types =
      (fun _ => ()) <$> gather (targetNode package) (types.filter (·.isAlias)) := by
  induction types with
  | nil => rfl
  | cons t rest ih =>
    rw [defineAliases, ih]
    cases h : t.isAlias <;> simp [h, gather, targetNode]

theorem defineBodies_eq (package : String) (types : List TypeDecl) :
    defineBodies package types =
      (fun _ => ()) <$> gather (bodyNode package) (types.filter (!·.isAlias)) := by
  induction types with
  | nil => rfl
  | cons t rest ih =>
    rw [defineBodies, ih]
    cases h : t.isAlias <;> simp [h, gather, bodyNode]

theorem functions_eq (package : String) (fs : List FunctionDecl) :
    functions package fs = (·.1) <$> gather (functionNode package) fs := by
  induction fs with
  | nil => rfl
  | cons f rest ih =>
    rw [functions, ih]
    simp [gather, functionNode]

theorem methodDecls_eq (package : String) (ms : List MethodDecl) :
    methodDecls package ms = (·.1) <$> gather (methodNode package) ms := by
  induction ms with
  | nil => rfl
  | cons m rest ih =>
    rw [methodDecls, ih]
    simp [gather, methodNode]

theorem conversions_eq (package : String) (cs : List ConvertDecl) :
    conversions package cs = (·.1) <$> gather (conversionNode package) cs := by
  induction cs with
  | nil => rfl
  | cons c rest ih =>
    rw [conversions, ih]
    simp [gather, conversionNode]

theorem declaration_eq (d : Declaration) :
    declaration d = (·.1) <$> declarationNodes d := by
  rw [declaration, declarationNodes, contentNodes]
  simp [defineAliases_eq, defineBodies_eq, functions_eq, methodDecls_eq, conversions_eq,
    Declaration.aliases, Declaration.named]

/-! ### Each place in writing -/

/-- The nodes are those of the places, and each is written as its place is spelled. -/
structure Written (names : Names) (places : List TypePlace) (g : TypeGraph) (nodes : PlaceNodes) :
    Prop where
  places_eq : nodes.map (·.1) = places
  reads : ∀ p ∈ nodes, g.Reads p.2 (p.1.spell? names)

variable {names final : Names} {places places' : List TypePlace} {g g' : TypeGraph}
  {nodes nodes' : PlaceNodes} {s s' : State}

theorem written_nil : Written names [] g [] := ⟨rfl, nofun⟩

theorem Written.cons {place : TypePlace} {id : TypeId} (hid : g.Reads id (place.spell? names))
    (h : Written names places g nodes) :
    Written names (place :: places) g ((place, id) :: nodes) :=
  ⟨congrArg (place :: ·) h.places_eq, List.forall_mem_cons.2 ⟨hid, h.reads⟩⟩

theorem Written.mono (h : Written names places g nodes) (hext : g.Extends g') :
    Written names places g' nodes :=
  ⟨h.places_eq, fun p hp => (h.reads p hp).mono hext⟩

theorem Written.append (h : Written names places g nodes)
    (h' : Written names places' g nodes') :
    Written names (places ++ places') g (nodes ++ nodes') :=
  ⟨by rw [List.map_append, h.places_eq, h'.places_eq],
    fun p hp => (List.mem_append.1 hp).elim (h.reads p) (h'.reads p)⟩

theorem makes_gather {α : Type} {step : α → LowerM (List Request × PlaceNodes)}
    {places : α → List TypePlace} {items : List α}
    (hstep : ∀ x s, Holds names s →
      Makes names s (step x) fun g r => Written names (places x) g r.2) (hs : Holds names s) :
    Makes names s (gather step items) fun g r => Written names (items.flatMap places) g r.2 := by
  induction items generalizing s with
  | nil => exact .pure hs written_nil
  | cons x rest ih =>
    rw [gather]
    refine (hstep x s hs).bind fun found s₁ hs₁ _ hfound => ?_
    refine (ih hs₁).bind fun others s₂ hs₂ hext hothers => .pure hs₂ ?_
    exact (hfound.mono hext).append hothers

theorem typeIn?_of_read {text : String} {e : TypeExpr} (h : TypeExpr.read text = .ok e) :
    typeIn? text = some e := by
  rw [typeIn?, h]
  rfl

theorem signatureIn?_of_read {text : String} {f : FuncExpr} (h : FuncExpr.read text = .ok f) :
    signatureIn? text = some f := by
  rw [signatureIn?, h]
  rfl

theorem makes_typeText (hs : Holds names s) (hle : names.Within final) (scope : List String)
    (text : String) : Makes names s (typeText names.package scope text) fun g id =>
      g.Reads id (do (← typeIn? text).spell final scope) := by
  refine (Makes.liftRead hs).bind fun e s' hs' _ hread => ?_
  rw [typeIn?_of_read hread]
  exact makes_type hle scope e (TypeExpr.wellFormed_of_read hread) s' hs'

theorem Makes.liftGraph {α : Type} {Q : TypeGraph → α → Prop}
    {step : TypeGraph → Except GraphError (TypeGraph × α)} (hs : Holds names s)
    (h : ∀ g' a, step s.graph = .ok (g', a) →
      s.graph.Extends g' ∧ g'.names = s.graph.names ∧ Q g' a) :
    Makes names s (Lowering.liftGraph step) Q := by
  intro a s' hrun
  rw [Lowering.liftGraph] at hrun
  split at hrun
  · rename_i hstep
    cases hrun
    obtain ⟨hext, hnames, hQ⟩ := h _ _ hstep
    exact ⟨hs.mono hext hnames, hext, hQ⟩
  · cases hrun

theorem makes_declaredId (hs : Holds names s) (package : String) (t : TypeDecl) :
    Makes names s (declaredId package t) fun _ _ => True := by
  intro id s' hrun
  rw [declaredId] at hrun
  split at hrun <;> cases hrun
  exact ⟨hs, .refl _, trivial⟩

theorem makes_bodyNode (hs : Holds names s) (t : TypeDecl) :
    Makes names s (bodyNode names.package t) fun g r => Written names [.body t] g r.2 := by
  refine (makes_typeText hs (.refl names) t.typeParams t.type).bind fun body s₁ hs₁ _ hbody => ?_
  refine (makes_declaredId hs₁ names.package t).bind fun id s₂ hs₂ hext₂ _ => ?_
  refine (Makes.liftGraph (Q := fun _ _ => True) hs₂ fun g' a hstep => ?_).bind
    fun _ s₃ hs₃ hext₃ _ => .pure hs₃ ?_
  · obtain ⟨g, hdefine, ⟨⟩⟩ := map_eq_ok_iff.1 hstep
    obtain ⟨hext, hnames⟩ := TypeGraph.define_eq_ok hdefine
    exact ⟨hext, hnames, trivial⟩
  · exact written_nil.cons (hbody.mono (hext₂.trans hext₃))

theorem makes_functionNode (hs : Holds names s) (f : FunctionDecl) :
    Makes names s (functionNode names.package f) fun g r =>
      Written names [.function f] g r.2 := by
  refine (Makes.liftRead hs).bind fun signature s₁ hs₁ _ hread => ?_
  have hwf := FuncExpr.wellFormed_of_read hread
  refine (makes_func (.refl names) [] signature hwf s₁ hs₁).bind fun sig s₂ hs₂ _ hsig => ?_
  obtain ⟨us, vs, hunfolds, htext⟩ := hsig.spell
  have hunfolds : s₂.graph.UnfoldsKind (.func sig) _ := hunfolds
  refine (Makes.add hs₂ hunfolds).bind fun id s₃ hs₃ _ hid =>
    .pure hs₃ (written_nil.cons ⟨_, hid, ?_⟩)
  rw [TypePlace.spell?, signatureIn?_of_read hread]
  show (do return "func" ++ (← signature.spell names [])) = _
  rw [htext, Unfolding.text]
  rfl

theorem makes_conversionNode (hs : Holds names s) (c : ConvertDecl) :
    Makes names s (conversionNode names.package c) fun g r =>
      Written names [.conversion c] g r.2 :=
  (makes_typeText hs (.refl names) [] c.type).bind fun _ _ hs' _ hid =>
    .pure hs' (written_nil.cons hid)

theorem makes_requestTypes (hs : Holds names s) (package : String) (types : List TypeDecl) :
    Makes names s (requestTypes package types) fun _ _ => True := by
  induction types generalizing s with
  | nil => exact .pure hs trivial
  | cons t rest ih =>
    rw [requestTypes]
    split
    · exact (makes_declaredId hs package t).bind fun id s₁ hs₁ _ _ =>
        (ih hs₁).bind fun others s₂ hs₂ _ _ => .pure hs₂ trivial
    · exact ih hs

/-! ### Methods -/

theorem mapM_bareName?_of_bareNames {args : List TypeExpr} {found : List String}
    (h : bareNames args = .ok found) : args.mapM TypeExpr.bareName? = some found := by
  induction args generalizing found with
  | nil =>
    cases h
    rfl
  | cons arg rest ih =>
    cases arg with
    | name n args =>
      cases args with
      | nil =>
        rw [bareNames] at h
        split at h <;> cases h
        rw [List.mapM_cons, ih ‹_›]
        rfl
      | cons arg args => cases h
    | _ => cases h

/-- The receiver is written as it is spelled, and has its type arguments. -/
def MakesReceiver (names : Names) (text : String) (g : TypeGraph) (r : Receiver × String) : Prop :=
  ∃ e first, typeIn? text = some e ∧ e.spellReceiver names = some (first, r.1.typeParams) ∧
    g.Reads r.1.type (some first)

theorem Makes.lookup {α : Type} {Q : TypeGraph → α → Prop} {name : String} {e : LowerError}
    {k : TypeId → LowerM α} (h : ∀ id, s.graph.lookup name = some id → Makes names s (k id) Q) :
    Makes names s (do
      match (← get).graph.lookup name with
      | none => Lowering.fail e
      | some id => k id) Q := by
  intro a s' hrun
  obtain ⟨id, hid, hrun⟩ := exists_of_lookup_eq_ok hrun
  exact h id hid a s' hrun

theorem spellReceiver_name {n text : String} {args : List TypeExpr} {typeParams : List String}
    (hname : names.find? n = some text) (hargs : bareNames args = .ok typeParams) :
    (TypeExpr.name n args).spellReceiver names = some (text, typeParams) ∧
      (TypeExpr.pointer (.name n args)).spellReceiver names = some ("*" ++ text, typeParams) := by
  have hargs := mapM_bareName?_of_bareNames hargs
  rw [TypeExpr.spellReceiver, TypeExpr.spellReceiver, hname, hargs]
  exact ⟨rfl, rfl⟩

theorem makes_receiver (hs : Holds names s) (text : String) :
    Makes names s (receiver names.package text) (MakesReceiver names text) := by
  rw [receiver]
  refine (Makes.liftRead hs).bind fun e s' hs' _ hread => ?_
  have hread := typeIn?_of_read hread
  cases e with
  | name n args =>
    dsimp only
    split
    · exact .fail
    · refine Makes.lookup fun id hid => ?_
      obtain ⟨u, hu, htext⟩ := hs'.lookup (.refl names) hid
      exact .pure hs' ⟨_, _, hread, (spellReceiver_name htext ‹_›).1, u, hu, rfl⟩
  | pointer inner =>
    cases inner with
    | name n args =>
      dsimp only
      split
      · exact .fail
      · refine Makes.lookup fun id hid => ?_
        obtain ⟨u, hu, htext⟩ := hs'.lookup (.refl names) hid
        have hpointer : s'.graph.UnfoldsKind (.pointer id) (.pointer u) :=
          .of_part (fun _ => rfl) hu
        refine (Makes.add hs' hpointer).bind fun id' s₂ hs₂ _ hid' => .pure hs₂ ?_
        refine ⟨_, _, hread, (spellReceiver_name htext ‹_›).2, _, hid', ?_⟩
        rw [Unfolding.text]
    | _ => exact .fail
  | _ => exact .fail

theorem inputTexts_cons_of_variadic {variadic : Bool} {u : Unfolding} {us : List Unfolding}
    (h : variadic = true → us ≠ []) :
    inputTexts variadic (u :: us) = u.text :: inputTexts variadic us := by
  cases us with
  | cons v us => exact inputTexts_cons variadic u v us
  | nil =>
    cases variadic with
    | true => exact absurd rfl (h rfl)
    | false => simp [inputTexts_false, treeTexts_eq]

theorem spell?_receiver {m : MethodDecl} {e : TypeExpr} {first : String} {args : List String}
    (he : typeIn? m.receiver = some e) (hfirst : e.spellReceiver names = some (first, args)) :
    (TypePlace.receiver m).spell? names = some first := by
  rw [TypePlace.spell?, he, Option.bind_eq_bind, Option.bind_some, hfirst]
  rfl

theorem spell?_method {m : MethodDecl} {e : TypeExpr} {f : FuncExpr} {first : String}
    {args : List String} (he : typeIn? m.receiver = some e)
    (hfirst : e.spellReceiver names = some (first, args)) (hf : signatureIn? m.signature = some f) :
    (TypePlace.method m).spell? names = do return "func" ++ (← f.spellMethod names first args) := by
  rw [TypePlace.spell?, he, Option.bind_eq_bind, Option.bind_some, hfirst, hf]
  rfl

theorem makes_methodNode (hs : Holds names s) (m : MethodDecl) :
    Makes names s (methodNode names.package m) fun g r =>
      Written names [.receiver m, .method m] g r.2 := by
  refine (makes_receiver hs m.receiver).bind fun found s₁ hs₁ _ hreceiver => ?_
  obtain ⟨receiver, base⟩ := found
  obtain ⟨e, first, he, hfirst, hreads⟩ := hreceiver
  refine (Makes.liftRead hs₁).bind fun f s₂ hs₂ hext₂ hread => ?_
  have hwf := FuncExpr.wellFormed_of_read hread
  refine (makes_func (.refl names) receiver.typeParams f hwf s₂ hs₂).bind
    fun sig s₃ hs₃ hext₃ hsig => ?_
  obtain ⟨_, htypeParams, hvariadic, ⟨us, hus, hlength, hinputs⟩, ⟨vs, hvs, houtputs⟩⟩ := hsig
  have hreads₃ := hreads.mono (hext₂.trans hext₃)
  obtain ⟨u, hu, htext⟩ := hreads₃
  have hall : List.Forall₂ s₃.graph.Unfolds
      (FuncSig.inputs { sig with receiver := some receiver }) (u :: us) := .cons hu hus
  have hunfolds : s₃.graph.UnfoldsKind (.func { sig with receiver := some receiver }) _ :=
    TypeGraph.unfoldsSig_of_forall₂ hall hvs
  refine (Makes.add hs₃ hunfolds).bind fun id s₄ hs₄ hext₄ hid => .pure hs₄ ?_
  refine .cons ?_ (written_nil.cons ⟨_, hid, ?_⟩)
  · rw [spell?_receiver he hfirst]
    exact hreads.mono ((hext₂.trans hext₃).trans hext₄)
  · have hne : f.variadic = true → us ≠ [] := by
      rintro h rfl
      obtain ⟨_, _, hend⟩ := hwf.endsInSlice h
      rw [List.eq_nil_of_length_eq_zero hlength.symm] at hend
      cases hend
    rw [Unfolding.text, htypeParams]
    show _ = some ("func" ++ signatureText _ (inputTexts sig.variadic (u :: us)) (treeTexts vs))
    rw [hvariadic, inputTexts_cons_of_variadic hne,
      spell?_method he hfirst (signatureIn?_of_read hread), ← Option.some.inj htext,
      FuncExpr.spellMethod, hinputs, houtputs]
    rfl

/-! ### Declared names -/

theorem Holds.addName (h : Holds names s) {name text : String} {id : TypeId}
    (hext : s.graph.Extends g') (hnames : g'.names = s.graph.names ++ [(name, id)])
    (hdot : hasDot name = true) (hreads : g'.Reads id (some text)) :
    Holds ⟨names.package, names.declared ++ [(name, text)]⟩ ⟨g', s.predeclared⟩ where
  declared := by
    show List.Forall₂ _ g'.names _
    rw [hnames]
    have hold := h.declared.imp fun _ _ hp => And.intro hp.1 (hp.2.mono hext)
    exact List.rel_append hold (.cons ⟨rfl, hreads⟩ .nil)
  dotted p hp := by
    change p ∈ g'.names at hp
    rw [hnames] at hp
    rcases List.mem_append.1 hp with hp | hp
    · exact h.dotted p hp
    · rw [List.mem_singleton.1 hp]
      exact hdot
  predeclared p hp := (h.predeclared p hp).mono hext

theorem liftGraph_eq_ok {α : Type} {step : TypeGraph → Except GraphError (TypeGraph × α)} {a : α}
    (h : liftGraph step s = .ok (a, s')) :
    ∃ g', step s.graph = .ok (g', a) ∧ s' = ⟨g', s.predeclared⟩ := by
  rw [liftGraph] at h
  split at h <;> cases h
  exact ⟨_, ‹_›, rfl⟩

/-- Once declared, a named type is written by its full name, with or without its body. -/
theorem Holds.declare (hs : Holds names s) {name : String} {typeParams : List String} {id : TypeId}
    (hdot : hasDot name = true) (h : s.graph.declare name typeParams = .ok (g', id)) :
    Holds ⟨names.package, names.declared ++ [(name, name)]⟩ ⟨g', s.predeclared⟩ := by
  obtain ⟨_, hg, hnode, hnames⟩ := TypeGraph.declare_eq_ok h
  have hext : s.graph.Extends g' := hg ▸ TypeGraph.extends_push _ _
  refine hs.addName hext hnames hdot ⟨.named name, ?_, by rw [Unfolding.text]⟩
  exact TypeGraph.IsNamed.unfolds ⟨_, _, hnode⟩

/-- An alias is written as what it stands for. -/
theorem Holds.addAlias (hs : Holds names s) {name : String} {target id : TypeId} {u : Unfolding}
    (hdot : hasDot name = true) (hu : s.graph.Unfolds target u)
    (h : s.graph.addAlias name target = .ok (g', id)) :
    Holds ⟨names.package, names.declared ++ [(name, u.text)]⟩ ⟨g', s.predeclared⟩ ∧
      s.graph.Extends g' := by
  obtain ⟨_, hg, hnode, hnames⟩ := TypeGraph.addAlias_eq_ok h
  have hext : s.graph.Extends g' := hg ▸ TypeGraph.extends_push _ _
  have hunfolds : g'.UnfoldsKind (.aliasOf name target) u := hext.unfolds hu
  exact ⟨hs.addName hext hnames hdot ⟨u, hunfolds.unfolds hnode, rfl⟩, hext⟩

theorem holds_declareTypes {types : List TypeDecl} (hs : Holds names s)
    (h : declareTypes names.package types s = .ok ((), s')) :
    Holds ⟨names.package, names.declared ++ (types.filter (!·.isAlias)).map fun t =>
      (qualify names.package t.name, qualify names.package t.name)⟩ s' := by
  induction types generalizing names s with
  | nil =>
    cases h
    simpa using hs
  | cons t rest ih =>
    rw [declareTypes] at h
    cases halias : t.isAlias with
    | true =>
      rw [halias] at h
      rw [List.filter_cons_of_neg (by simp [halias])]
      exact ih hs h
    | false =>
      rw [halias] at h
      obtain ⟨id, s₁, hstep, h⟩ := bind_eq_ok h
      obtain ⟨g', hdeclare, rfl⟩ := liftGraph_eq_ok hstep
      have hs₁ := hs.declare (hasDot_qualify _ _) hdeclare
      rw [List.filter_cons_of_pos (by simp [halias]), List.map_cons]
      simpa using ih hs₁ h

theorem holds_targets {types : List TypeDecl} {r : List Request × PlaceNodes} (hs : Holds names s)
    (h : gather (targetNode names.package) (types.filter (·.isAlias)) s = .ok (r, s')) :
    ∃ final, names.withAliases? types = some final ∧ names.Within final ∧ Holds final s' ∧
      s.graph.Extends s'.graph ∧
      Written final ((types.filter (·.isAlias)).map .target) s'.graph r.2 := by
  induction types generalizing names s r with
  | nil =>
    cases h
    exact ⟨names, rfl, .refl names, hs, .refl _, written_nil⟩
  | cons t rest ih =>
    cases halias : t.isAlias with
    | false =>
      rw [List.filter_cons_of_neg (by simp [halias])] at h ⊢
      rw [Names.withAliases?, halias]
      exact ih hs h
    | true =>
      rw [List.filter_cons_of_pos (by simp [halias])] at h ⊢
      obtain ⟨found, s₁, hstep, h⟩ := bind_eq_ok h
      obtain ⟨others, s₂, hothers, h⟩ := bind_eq_ok h
      cases h
      obtain ⟨target, s₀, htarget, hstep⟩ := bind_eq_ok hstep
      obtain ⟨id, s₁', hlift, hstep⟩ := bind_eq_ok hstep
      cases hstep
      obtain ⟨g', hadd, rfl⟩ := liftGraph_eq_ok hlift
      obtain ⟨hs₀, hext₀, u, hu, htext⟩ := makes_typeText hs (.refl names) [] t.type _ _ htarget
      obtain ⟨hs₁, hext₁⟩ := hs₀.addAlias (hasDot_qualify _ _) hu hadd
      obtain ⟨final, hfinal, hle, hs₂, hext₂, hothers⟩ := ih hs₁ hothers
      have hle : names.Within final := (names.within_append _).trans hle
      obtain ⟨_, _, hreads⟩ := makes_typeText hs hle [] t.type _ _ htarget
      refine ⟨final, ?_, hle, hs₂, hext₀.trans (hext₁.trans hext₂), hothers.cons ?_⟩
      · rw [Names.withAliases?, halias, if_pos rfl, TypePlace.spell?, htext]
        exact hfinal
      · exact hreads.mono (hext₁.trans hext₂)

theorem holds_empty (package : String) : Holds ⟨package, []⟩ ⟨.empty, []⟩ :=
  ⟨.nil, nofun, nofun⟩

/-! ### The whole declaration -/

variable {d : Declaration}

theorem makes_contentNodes (hs : Holds names s) (hpackage : names.package = d.package.name) :
    Makes names s (contentNodes d) fun g r => Written names (d.named.map .body ++
      d.functions.map .function ++ d.methods.flatMap (fun m => [.receiver m, .method m]) ++
      d.convert.map .conversion) g r.2 := by
  rw [contentNodes, ← hpackage]
  refine (makes_gather (fun t _ hs => makes_bodyNode hs t) hs).bind
    fun bodies s₁ hs₁ _ hbodies => ?_
  refine (makes_requestTypes hs₁ names.package d.types).bind fun ofTypes s₂ hs₂ hext₂ _ => ?_
  refine (makes_gather (fun f _ hs => makes_functionNode hs f) hs₂).bind
    fun functions s₃ hs₃ hext₃ hfunctions => ?_
  refine (makes_gather (fun m _ hs => makes_methodNode hs m) hs₃).bind
    fun methods s₄ hs₄ hext₄ hmethods => ?_
  refine (makes_gather (fun c _ hs => makes_conversionNode hs c) hs₄).bind
    fun conversions s₅ hs₅ hext₅ hconversions => ?_
  refine (Makes.liftGraph (Q := fun _ _ => True) hs₅ fun g' a hstep => ?_).bind
    fun _ s₆ hs₆ hext₆ _ => .pure hs₆ ?_
  · obtain ⟨_, _, ⟨⟩⟩ := map_eq_ok_iff.1 hstep
    exact ⟨.refl _, rfl, trivial⟩
  · have hconversions := hconversions.mono hext₆
    have hmethods := hmethods.mono (hext₅.trans hext₆)
    have hfunctions := hfunctions.mono (hext₄.trans (hext₅.trans hext₆))
    have hbodies := hbodies.mono (hext₂.trans (hext₃.trans (hext₄.trans (hext₅.trans hext₆))))
    rw [List.map_eq_flatMap, List.map_eq_flatMap, List.map_eq_flatMap]
    exact ((hbodies.append hfunctions).append hmethods).append hconversions

theorem written_declarationNodes {r : List Request × PlaceNodes}
    (h : declarationNodes d ⟨.empty, []⟩ = .ok (r, s)) :
    ∃ names, d.names? = some names ∧ Holds names s ∧ Written names d.places s.graph r.2 := by
  obtain ⟨⟨⟩, s₁, hdeclare, h⟩ := bind_eq_ok h
  obtain ⟨targets, s₂, htargets, h⟩ := bind_eq_ok h
  obtain ⟨content, s₃, hcontent, h⟩ := bind_eq_ok h
  cases h
  have hs₁ := holds_declareTypes (holds_empty d.package.name) hdeclare
  obtain ⟨names, hnames, hle, hs₂, _, hwritten⟩ := holds_targets hs₁ htargets
  obtain ⟨hs₃, hext, hrest⟩ := makes_contentNodes hs₂ hle.package _ _ hcontent
  refine ⟨names, ?_, hs₃, ?_⟩
  · rw [Declaration.names?, Declaration.named, List.map_map]
    exact hnames
  · have hall := (hwritten.mono hext).append hrest
    simpa [Declaration.places, Declaration.aliases] using hall

end Lowering

open Lowering

namespace Declaration

/-- Lowering, which notes the nodes. -/
def lowerNodes (d : Declaration) : Except LowerError (Lowered × PlaceNodes) :=
  match declarationNodes d ⟨.empty, []⟩ with
  | .error e => .error e
  | .ok ((requests, nodes), s) => .ok (⟨d.package.name, s.graph, requests⟩, nodes)

theorem lower_eq (d : Declaration) : d.lower = d.lowerNodes.map (·.1) := by
  have hmap : Lowering.declaration d ⟨.empty, []⟩ =
      (declarationNodes d ⟨.empty, []⟩).map fun p => (p.1.1, p.2) := by
    rw [declaration_eq]
    rfl
  rw [lower, lowerNodes, hmap]
  cases declarationNodes d ⟨.empty, []⟩ <;> rfl

variable {d : Declaration} {l : Lowered} {nodes : PlaceNodes}

theorem exists_lowerNodes (h : d.lower = .ok l) : ∃ nodes, d.lowerNodes = .ok (l, nodes) := by
  rw [lower_eq] at h
  obtain ⟨⟨_, nodes⟩, hnodes, rfl⟩ := map_eq_ok_iff.1 h
  exact ⟨nodes, hnodes⟩

theorem written_lowerNodes (h : d.lowerNodes = .ok (l, nodes)) :
    ∃ names, d.names? = some names ∧ Written names d.places l.graph nodes := by
  rw [lowerNodes] at h
  split at h
  · cases h
  · rename_i hrun
    cases h
    obtain ⟨names, hnames, _, hwritten⟩ := written_declarationNodes hrun
    exact ⟨names, hnames, hwritten⟩

/-- Whatever was asked for before: when the node of a type of the declaration has a canonical type,
this is written as the type is spelled where it stands. -/
theorem typeString_lowered (h : d.lower = .ok l) :
    ∃ nodes names, d.lowerNodes = .ok (l, nodes) ∧ nodes.map (·.1) = d.places ∧
      d.names? = some names ∧ ∀ p ∈ nodes, ∀ (types : List TypeId) (id : CanonId) (s : Session),
        Session.normalize l.graph p.2 (Session.after l.graph types .empty) = (.ok id, s) →
          p.1.spell? names = some (s.typeString id) := by
  rw [lower_eq] at h
  cases hnodes : d.lowerNodes with
  | error e =>
    rw [hnodes] at h
    cases h
  | ok r =>
    rw [hnodes] at h
    obtain ⟨l', nodes⟩ := r
    cases h
    obtain ⟨names, hnames, hwritten⟩ := written_lowerNodes hnodes
    refine ⟨nodes, names, rfl, hwritten.places_eq, hnames, fun p hp types id s hrun => ?_⟩
    have hvalid := Session.valid_after types (Session.valid_empty l'.graph)
    have hmeets := Session.meets_normalize p.2 hvalid
    rw [Prod.ext_iff] at hrun
    obtain ⟨hok, rfl⟩ := hrun
    have hrepresents := (hmeets.ok id hok).2
    obtain ⟨u, hu, htext⟩ := hwritten.reads p hp
    rw [htext, hmeets.valid.interned.typeString_eq_text hrepresents.lt_size,
      hu.unique hrepresents.unfolds]

def fleetAdd : MethodDecl :=
  ⟨"*Fleet[T]", "Add", "func(first T, more ...T) (Depths, error)", true⟩

/-- An alias, a type that refers to itself, and a method of a generic type. -/
def harbor : Declaration where
  package := ⟨"harbor", none⟩
  types := [⟨"Depths", "map[rune]Berth", true, [], true⟩,
    ⟨"Berth", "struct \x7b ID uint; Next *Berth \x7d", false, [], true⟩,
    ⟨"Fleet", "[]T", false, ["T"], false⟩]
  functions := []
  methods := [fleetAdd]
  convert := [⟨"chan<- Depths", .both⟩]

/-- No node is at position 40. -/
theorem typeString_lowered_harbor : ∃ l nodes names s, harbor.lower = .ok l ∧
    harbor.lowerNodes = .ok (l, nodes) ∧ harbor.names? = some names ∧
    (TypePlace.method fleetAdd, 15) ∈ nodes ∧
    Session.normalize l.graph 15 (Session.after l.graph [16, 40, 7] .empty) = (.ok 12, s) ∧
    (TypePlace.method fleetAdd).spell? names = some (s.typeString 12) ∧
    s.typeString 12 = "func[T](*harbor.Fleet, T, ...T) (map[int32]harbor.Berth, error)" := by
  have hlower := lower_eq harbor
  have hrun : (harbor.lowerNodes.map fun r =>
      let answer := Session.normalize r.1.graph 15 (Session.after r.1.graph [16, 40, 7] .empty)
      decide ((TypePlace.method fleetAdd, 15) ∈ r.2 ∧ answer.1 = .ok 12 ∧ answer.2.typeString 12 =
        "func[T](*harbor.Fleet, T, ...T) (map[int32]harbor.Berth, error)")) = .ok true := by
    decide +kernel
  cases hnodes : harbor.lowerNodes with
  | error e =>
    rw [hnodes] at hrun
    cases hrun
  | ok r =>
    obtain ⟨l, nodes⟩ := r
    rw [hnodes] at hrun hlower
    obtain ⟨hmem, hok, htext⟩ := of_decide_eq_true (Except.ok.inj hrun)
    obtain ⟨nodes', names, hnodes', _, hnames, hspelled⟩ := typeString_lowered hlower
    cases hnodes.symm.trans hnodes'
    exact ⟨l, nodes, names, _, hlower, rfl, hnames, hmem, Prod.ext hok rfl,
      hspelled _ hmem _ _ _ (Prod.ext hok rfl), htext⟩

end Declaration
end ScriptBind
