import ScriptBind.Proofs.Declaration.Places
import ScriptBind.Proofs.Declaration.Stands

/-!
# ScriptBind.Proofs.Declaration.Layout

How a lowered declaration lies in its graph: each type stands at the node that its place was given,
each declared name leads to a node with the body or the target that is given for it, and the
requests are those of the declaration.

* `TypePlace.At` - what stands at a place.
* `Lowering.Declares` - the node of a declared type.
* `Lowering.Asked` - what a request is for.
* `Declaration.Layout`, `Declaration.layout_lowerNodes` - the whole.
-/

namespace ScriptBind

/-- Whether a receiver is a pointer, its base name, and its type arguments. -/
def TypeExpr.receiver? : TypeExpr → Option (Bool × String × List String)
  | .name n args => return (false, n, ← args.mapM bareName?)
  | .pointer (.name n args) => return (true, n, ← args.mapM bareName?)
  | _ => none

def receiverIn? (text : String) : Option (Bool × String × List String) := do
  (← typeIn? text).receiver?

/-- The receiver is the type that is declared under its base name, or a pointer to it. -/
def ReceiverAt (g : TypeGraph) (package text : String) (receiver : Receiver) : Prop :=
  ∃ isPointer n base, receiverIn? text = some (isPointer, n, receiver.typeParams) ∧
    g.lookup (qualify package n) = some base ∧
    if isPointer then g.nodes[receiver.type]? = some (.pointer base) else receiver.type = base

theorem ReceiverAt.mono {g g' : TypeGraph} {package text : String} {receiver : Receiver}
    (h : ReceiverAt g package text receiver) (hgrows : g.Grows g') :
    ReceiverAt g' package text receiver := by
  obtain ⟨isPointer, n, base, hread, hbase, htype⟩ := h
  refine ⟨isPointer, n, base, hread, hgrows.lookup hbase, ?_⟩
  cases isPointer with
  | true => exact hgrows.node htype rfl
  | false => exact htype

/-- What is written at the place stands at the node. The type arguments of a receiver are in scope
in the signature of the method. -/
def TypePlace.At (g : TypeGraph) (package : String)
    (nameAt : List String → String → TypeId → Prop) : TypePlace → TypeId → Prop
  | .target t, id => ∃ e, typeIn? t.type = some e ∧ e.At g nameAt [] id
  | .body t, id => ∃ e, typeIn? t.type = some e ∧ e.At g nameAt t.typeParams id
  | .function f, id => ∃ e sig, signatureIn? f.signature = some e ∧
    g.nodes[id]? = some (.func sig) ∧ sig.receiver = none ∧ e.At g nameAt [] sig
  | .receiver m, id => ∃ typeParams, ReceiverAt g package m.receiver ⟨id, typeParams⟩
  | .method m, id => ∃ receiver e sig, ReceiverAt g package m.receiver receiver ∧
    signatureIn? m.signature = some e ∧ g.nodes[id]? = some (.func sig) ∧
    sig.receiver = some receiver ∧ e.At g nameAt receiver.typeParams sig
  | .conversion c, id => ∃ e, typeIn? c.type = some e ∧ e.At g nameAt [] id

theorem TypePlace.At.mono {g g' : TypeGraph} {package : String}
    {nameAt nameAt' : List String → String → TypeId → Prop} (hgrows : g.Grows g')
    (hnames : ∀ scope n id, nameAt scope n id → nameAt' scope n id) {place : TypePlace}
    {id : TypeId} (h : place.At g package nameAt id) : place.At g' package nameAt' id := by
  cases place with
  | target t | conversion c | body t =>
    obtain ⟨e, hread, he⟩ := h
    exact ⟨e, hread, he.mono hgrows hnames⟩
  | function f =>
    obtain ⟨e, sig, hread, hid, hreceiver, he⟩ := h
    exact ⟨e, sig, hread, hgrows.node hid rfl, hreceiver, he.mono hgrows hnames⟩
  | receiver m =>
    exact h.imp fun _ hreceiver => hreceiver.mono hgrows
  | method m =>
    obtain ⟨receiver, e, sig, hbase, hsig, hid, hreceiver, he⟩ := h
    exact ⟨receiver, e, sig, hbase.mono hgrows, hsig, hgrows.node hid rfl, hreceiver,
      he.mono hgrows hnames⟩

/-- The name under which a method is requested. -/
def MethodDecl.label (package : String) (m : MethodDecl) : String :=
  match receiverIn? m.receiver with
  | some (_, n, _) => qualify package n ++ "." ++ m.name
  | none => m.name

namespace Lowering

variable {package : String} {g g' : TypeGraph} {nodes nodes' : PlaceNodes} {s s' : State}

/-- The node of a declared type: what leads to it is the full name, and it has the body or the
target that is given for the type. -/
def Declares (package : String) (g : TypeGraph) (nodes : PlaceNodes) (t : TypeDecl)
    (id : TypeId) : Prop :=
  g.lookup (qualify package t.name) = some id ∧
    if t.isAlias then ∃ target, (.target t, target) ∈ nodes ∧
      g.nodes[id]? = some (.aliasOf (qualify package t.name) target)
    else ∃ body, (.body t, body) ∈ nodes ∧
      g.nodes[id]? = some (.named (qualify package t.name) (some body) t.typeParams)

theorem Declares.mono {t : TypeDecl} {id : TypeId} (h : Declares package g nodes t id)
    (hgrows : g.Grows g') (hsubset : nodes ⊆ nodes') : Declares package g' nodes' t id := by
  obtain ⟨hid, hdeclared⟩ := h
  refine ⟨hgrows.lookup hid, ?_⟩
  split at hdeclared
  · rename_i halias
    obtain ⟨target, htarget, hnode⟩ := hdeclared
    rw [if_pos halias]
    exact ⟨target, hsubset htarget, hgrows.node hnode rfl⟩
  · rename_i halias
    obtain ⟨body, hbody, hnode⟩ := hdeclared
    rw [if_neg halias]
    exact ⟨body, hsubset hbody, hgrows.extend.node_eq hnode (by simp)⟩

/-- What a request is for: a declared type, function or method under its name, or a further
conversion under its text. -/
inductive Asked (d : Declaration) (g : TypeGraph) (nodes : PlaceNodes) : Request → Prop
  | type (t : TypeDecl) (id : TypeId) (direction : Direction) (mem : t ∈ d.types)
    (request : t.request = true) (lookup : g.lookup (d.qualifiedName t.name) = some id) :
    Asked d g nodes ⟨d.qualifiedName t.name, id, direction⟩
  | function (f : FunctionDecl) (id : TypeId) (direction : Direction)
    (mem : (TypePlace.function f, id) ∈ nodes) (request : f.request = true) :
    Asked d g nodes ⟨d.qualifiedName f.name, id, direction⟩
  | method (m : MethodDecl) (id : TypeId) (direction : Direction)
    (mem : (TypePlace.method m, id) ∈ nodes) (request : m.request = true) :
    Asked d g nodes ⟨m.label d.package.name, id, direction⟩
  | conversion (c : ConvertDecl) (id : TypeId) (direction : Direction)
    (mem : (TypePlace.conversion c, id) ∈ nodes) (wanted : direction ∈ c.direction.directions) :
    Asked d g nodes ⟨c.type, id, direction⟩

theorem Asked.mono {d : Declaration} {r : Request} (h : Asked d g nodes r) (hgrows : g.Grows g')
    (hsubset : nodes ⊆ nodes') : Asked d g' nodes' r := by
  cases h with
  | type t id direction hmem hrequest hlookup =>
    exact .type t id direction hmem hrequest (hgrows.lookup hlookup)
  | function f id direction hmem hrequest => exact .function f id direction (hsubset hmem) hrequest
  | method m id direction hmem hrequest => exact .method m id direction (hsubset hmem) hrequest
  | conversion c id direction hmem hwanted =>
    exact .conversion c id direction (hsubset hmem) hwanted

/-- What a part of the declaration leaves: the nodes are those of its places, and what is written
at each of them stands there; the types that it declares have their nodes; and its requests are for
what is in the declaration. -/
structure Laid (d : Declaration) (places : List TypePlace) (declared : List TypeDecl)
    (g : TypeGraph) (r : List Request × PlaceNodes) : Prop where
  places_eq : r.2.map (·.1) = places
  stands : ∀ p ∈ r.2, p.1.At g d.package.name (Means d.package.name g) p.2
  declares : ∀ t ∈ declared, ∃ id, Declares d.package.name g r.2 t id
  asked : ∀ q ∈ r.1, Asked d g r.2 q

section Laid

variable {d : Declaration} {places places' : List TypePlace} {declared declared' : List TypeDecl}
  {r r' : List Request × PlaceNodes}

theorem laid_nil : Laid d [] [] g ([], []) := ⟨rfl, nofun, nofun, nofun⟩

theorem Laid.mono (h : Laid d places declared g r) (hgrows : g.Grows g') :
    Laid d places declared g' r where
  places_eq := h.places_eq
  stands p hp := (h.stands p hp).mono hgrows fun _ _ _ => Means.mono hgrows
  declares t ht := (h.declares t ht).imp fun _ hid => hid.mono hgrows (List.Subset.refl _)
  asked q hq := (h.asked q hq).mono hgrows (List.Subset.refl _)

theorem Laid.append (h : Laid d places declared g r) (h' : Laid d places' declared' g r') :
    Laid d (places ++ places') (declared ++ declared') g (r.1 ++ r'.1, r.2 ++ r'.2) where
  places_eq := by rw [List.map_append, h.places_eq, h'.places_eq]
  stands p hp := (List.mem_append.1 hp).elim (h.stands p) (h'.stands p)
  declares t ht := by
    rcases List.mem_append.1 ht with ht | ht
    · exact (h.declares t ht).imp fun _ hid =>
        hid.mono (.refl g) (List.subset_append_left r.2 r'.2)
    · exact (h'.declares t ht).imp fun _ hid =>
        hid.mono (.refl g) (List.subset_append_right r.2 r'.2)
  asked q hq := by
    rcases List.mem_append.1 hq with hq | hq
    · exact (h.asked q hq).mono (.refl g) (List.subset_append_left r.2 r'.2)
    · exact (h'.asked q hq).mono (.refl g) (List.subset_append_right r.2 r'.2)

/-- Without its requests. -/
theorem Laid.unasked (h : Laid d places declared g r) : Laid d places declared g ([], r.2) :=
  ⟨h.places_eq, h.stands, h.declares, nofun⟩

/-- A place with its node, where no type is declared. -/
theorem laid_singleton {place : TypePlace} {id : TypeId} {requests : List Request}
    (hid : place.At g d.package.name (Means d.package.name g) id)
    (hasked : ∀ q ∈ requests, Asked d g [(place, id)] q) :
    Laid d [place] [] g (requests, [(place, id)]) :=
  ⟨rfl, List.forall_mem_singleton.2 hid, nofun, hasked⟩

end Laid

/-! ### Steps -/

theorem flatMap_none {α β : Type} (xs : List α) : xs.flatMap (fun _ => ([] : List β)) = [] :=
  List.flatMap_eq_nil_iff.2 fun _ _ => rfl

theorem lays_gather {α : Type} {d : Declaration} {step : α → LowerM (List Request × PlaceNodes)}
    {places : α → List TypePlace} {declared : α → List TypeDecl} {items : List α} (hs : Sound s)
    (hstep : ∀ x ∈ items, ∀ s', Sound s' → s.graph.Grows s'.graph →
      Lays s' (step x) (Laid d (places x) (declared x))) :
    Lays s (gather step items) (Laid d (items.flatMap places) (items.flatMap declared)) := by
  induction items generalizing s with
  | nil => exact .pure hs laid_nil
  | cons x rest ih =>
    obtain ⟨hx, hrest⟩ := List.forall_mem_cons.1 hstep
    rw [gather]
    refine (hx s hs (.refl _)).bind fun found s₁ hs₁ hgrows₁ hfound => ?_
    refine (ih hs₁ fun y hy s' hs' hgrows => hrest y hy s' hs' (hgrows₁.trans hgrows)).bind
      fun others s₂ hs₂ hgrows₂ hothers => .pure hs₂ ?_
    exact (hfound.mono hgrows₂).append hothers

theorem Lays.liftGraph {α : Type} {Q : TypeGraph → α → Prop}
    {step : TypeGraph → Except GraphError (TypeGraph × α)}
    (h : ∀ g' a, step s.graph = .ok (g', a) →
      Sound ⟨g', s.predeclared⟩ ∧ s.graph.Grows g' ∧ Q g' a) :
    Lays s (Lowering.liftGraph step) Q := by
  intro a s' hrun
  obtain ⟨g', hstep, rfl⟩ := liftGraph_eq_ok hrun
  exact h g' a hstep

theorem lays_typeText (hs : Sound s) (package : String) (scope : List String) (text : String) :
    Lays s (typeText package scope text) fun g id =>
      ∃ e, typeIn? text = some e ∧ e.At g (Means package g) scope id := by
  refine (Lays.liftRead hs).bind fun e s' hs' _ hread => ?_
  refine (lays_type package scope e (TypeExpr.wellFormed_of_read hread) s' hs').mono ?_
  exact fun g id hid => ⟨e, typeIn?_of_read hread, hid⟩

theorem lays_declaredId (hs : Sound s) (package : String) (t : TypeDecl) :
    Lays s (declaredId package t) fun g id => g.lookup (qualify package t.name) = some id := by
  intro id s' hrun
  rw [declaredId] at hrun
  split at hrun <;> cases hrun
  exact ⟨hs, .refl _, ‹_›⟩

theorem lookup_append_of_none {names : List (String × TypeId)} {name : String} {id : TypeId}
    (h : names.lookup name = none) : (names ++ [(name, id)]).lookup name = some id := by
  rw [List.lookup_append, h]
  simp

theorem forall_dotted_append {names : List (String × TypeId)} {name : String} {id : TypeId}
    (h : ∀ p ∈ names, hasDot p.1 = true) (hname : hasDot name = true) :
    ∀ p ∈ names ++ [(name, id)], hasDot p.1 = true :=
  List.forall_mem_append.2 ⟨h, List.forall_mem_singleton.2 hname⟩

/-- A new name has a node of its own. -/
theorem lays_declare (hs : Sound s) {name : String} (hname : hasDot name = true)
    (typeParams : List String) :
    Lays s (Lowering.liftGraph fun g => g.declare name typeParams) fun g id =>
      g.lookup name = some id ∧ g.nodes[id]? = some (.named name none typeParams) := by
  refine .liftGraph fun g' id hstep => ?_
  obtain ⟨hnone, hg, hnode, hnames⟩ := TypeGraph.declare_eq_ok hstep
  have hid : id = s.graph.size := by
    rw [TypeGraph.declare, hnone] at hstep
    cases hstep
    rfl
  have hlookup : g'.lookup name = some id := by
    rw [TypeGraph.lookup, hnames]
    exact lookup_append_of_none hnone
  subst hg
  refine ⟨hs.push (List.prefix_append _ _) (forall_dotted_append hs.dotted hname) ?_,
    ⟨TypeGraph.extends_push _ _, List.prefix_append _ _⟩, hlookup, hnode⟩
  rw [hid] at hlookup
  exact hlookup

theorem lays_addAlias (hs : Sound s) {name : String} (hname : hasDot name = true)
    (target : TypeId) :
    Lays s (Lowering.liftGraph fun g => g.addAlias name target) fun g id =>
      g.lookup name = some id ∧ g.nodes[id]? = some (.aliasOf name target) := by
  refine .liftGraph fun g' id hstep => ?_
  obtain ⟨hnone, hg, hnode, hnames⟩ := TypeGraph.addAlias_eq_ok hstep
  have hlookup : g'.lookup name = some id := by
    rw [TypeGraph.lookup, hnames]
    exact lookup_append_of_none hnone
  subst hg
  exact ⟨hs.push (List.prefix_append _ _) (forall_dotted_append hs.dotted hname) trivial,
    ⟨TypeGraph.extends_push _ _, List.prefix_append _ _⟩, hlookup, hnode⟩

/-- The name is taken for the type, with or without its body. -/
def Reserved (package : String) (g : TypeGraph) (t : TypeDecl) : Prop :=
  ∃ id body, g.lookup (qualify package t.name) = some id ∧
    g.nodes[id]? = some (.named (qualify package t.name) body t.typeParams)

theorem Reserved.mono {t : TypeDecl} (h : Reserved package g t) (hgrows : g.Grows g') :
    Reserved package g' t := by
  obtain ⟨id, body, hid, hnode⟩ := h
  obtain ⟨later, hlater, rfl | ⟨_, body', _, heq, rfl⟩⟩ := hgrows.extend id _ hnode
  · exact ⟨id, body, hgrows.lookup hid, hlater⟩
  · cases heq
    exact ⟨id, some body', hgrows.lookup hid, hlater⟩

theorem lays_declareTypes (hs : Sound s) (package : String) (types : List TypeDecl) :
    Lays s (declareTypes package types) fun g _ =>
      ∀ t ∈ types, t.isAlias = false → Reserved package g t := by
  induction types generalizing s with
  | nil => exact .pure hs (List.forall_mem_nil _)
  | cons t rest ih =>
    rw [declareTypes]
    cases halias : t.isAlias with
    | true =>
      refine (ih hs).mono fun g _ h => List.forall_mem_cons.2 ⟨fun hnot => ?_, h⟩
      rw [halias] at hnot
      cases hnot
    | false =>
      have hdeclare := lays_declare hs (hasDot_qualify package t.name) t.typeParams
      refine hdeclare.bind fun id s₁ hs₁ _ hid => ?_
      intro _ s₂ hrun
      obtain ⟨hs₂, hgrows₂, h⟩ := ih hs₁ _ s₂ hrun
      have ht : Reserved package s₁.graph t := ⟨id, none, hid⟩
      exact ⟨hs₂, hgrows₂, List.forall_mem_cons.2 ⟨fun _ => ht.mono hgrows₂, h⟩⟩

variable {d : Declaration}

/-- An alias with its target. -/
theorem lays_targetNode (hs : Sound s) {t : TypeDecl} (halias : t.isAlias = true) :
    Lays s (targetNode d.package.name t) (Laid d [.target t] [t]) := by
  refine (lays_typeText hs d.package.name [] t.type).bind fun target s₁ hs₁ _ htarget => ?_
  refine (lays_addAlias hs₁ (hasDot_qualify _ t.name) target).bind
    fun id s₂ hs₂ hgrows₂ hid => .pure hs₂ ?_
  have hstands : (TypePlace.target t).At s₁.graph d.package.name _ target := htarget
  have hdeclares : Declares d.package.name s₂.graph [(.target t, target)] t id := by
    rw [Declares, if_pos halias]
    exact ⟨hid.1, target, List.mem_singleton_self _, hid.2⟩
  exact ⟨rfl, List.forall_mem_singleton.2 (hstands.mono hgrows₂ fun _ _ _ => Means.mono hgrows₂),
    List.forall_mem_singleton.2 ⟨id, hdeclares⟩, nofun⟩

/-- A named type gets its body. -/
theorem lays_bodyNode (hs : Sound s) {t : TypeDecl} (halias : t.isAlias = false)
    (ht : Reserved d.package.name s.graph t) :
    Lays s (bodyNode d.package.name t) (Laid d [.body t] [t]) := by
  refine (lays_typeText hs d.package.name t.typeParams t.type).bind
    fun body s₁ hs₁ hgrows₁ hbody => ?_
  refine (lays_declaredId hs₁ d.package.name t).bind fun id s₂ hs₂ hgrows₂ hid => ?_
  obtain ⟨id', before, hid', hnode⟩ := ht.mono (hgrows₁.trans hgrows₂)
  cases hid.symm.trans hid'
  have hdefine : Lays s₂ (liftGraph fun g => (g.define id body).map fun g => (g, ()))
      fun g _ => Declares d.package.name g [(.body t, body)] t id := by
    refine .liftGraph fun g' _ hstep => ?_
    obtain ⟨g₃, hdefine, ⟨⟩⟩ := map_eq_ok_iff.1 hstep
    obtain ⟨hext, hnames⟩ := TypeGraph.define_eq_ok hdefine
    have hgrows : s₂.graph.Grows g' := .of_names_eq hext hnames
    obtain ⟨_, _, hbefore, _⟩ := TypeGraph.exists_of_define hdefine
    cases hnode.symm.trans hbefore
    refine ⟨hs₂.define hdefine, hgrows, hgrows.lookup hid, ?_⟩
    rw [if_neg (by simp [halias])]
    exact ⟨body, List.mem_singleton_self _, TypeGraph.node_define hnode hdefine⟩
  refine hdefine.bind fun _ s₃ hs₃ hgrows₃ hdeclares => .pure hs₃ ?_
  have hstands : (TypePlace.body t).At s₁.graph d.package.name _ body := hbody
  have hgrows := hgrows₂.trans hgrows₃
  exact ⟨rfl, List.forall_mem_singleton.2 (hstands.mono hgrows fun _ _ _ => Means.mono hgrows),
    List.forall_mem_singleton.2 ⟨id, hdeclares⟩, nofun⟩

theorem forall_mem_bothWays {P : Request → Prop} {label : String} {id : TypeId} {wanted : Bool}
    (h : wanted = true → ∀ direction, P ⟨label, id, direction⟩) :
    ∀ q ∈ (if wanted then bothWays label id else []), P q := by
  intro q hq
  split at hq
  · rename_i hwanted
    rw [bothWays, List.mem_cons, List.mem_singleton] at hq
    rcases hq with rfl | rfl
    · exact h hwanted _
    · exact h hwanted _
  · cases hq

theorem lays_functionNode (hs : Sound s) (f : FunctionDecl) :
    Lays s (functionNode d.package.name f) (Laid d [.function f] []) := by
  refine (Lays.liftRead hs).bind fun signature s₁ hs₁ _ hread => ?_
  have hwf := FuncExpr.wellFormed_of_read hread
  refine (lays_func d.package.name [] signature hwf s₁ hs₁).bind fun sig s₂ hs₂ _ hsig => ?_
  obtain ⟨hreceiver, hsig⟩ := hsig
  have hregular : ∀ id, (TypeKind.func sig).Regular s₂.graph id := fun id =>
    hsig.regularNode id hwf hreceiver
  have hadd : Lays s₂ (Lowering.add (.func sig)) fun g id =>
      (TypePlace.function f).At g d.package.name (Means d.package.name g) id := by
    refine .add hs₂ (fun g id => (hregular id).mono) fun g id hgrows hnode => ?_
    exact ⟨signature, sig, signatureIn?_of_read hread, hnode, hreceiver,
      hsig.mono hgrows fun _ _ _ => Means.mono hgrows⟩
  refine hadd.bind fun id s₃ hs₃ _ hid => .pure hs₃ (laid_singleton hid ?_)
  exact forall_mem_bothWays fun hrequest direction =>
    .function f id direction (List.mem_singleton_self _) hrequest

theorem lays_conversionNode (hs : Sound s) (c : ConvertDecl) :
    Lays s (conversionNode d.package.name c) (Laid d [.conversion c] []) := by
  refine (lays_typeText hs d.package.name [] c.type).bind fun id s' hs' _ hid =>
    .pure hs' (laid_singleton hid ?_)
  exact List.forall_mem_map.2 fun direction hwanted =>
    .conversion c id direction (List.mem_singleton_self _) hwanted

theorem lays_requestTypes (hs : Sound s) {types : List TypeDecl} (htypes : types ⊆ d.types) :
    Lays s (requestTypes d.package.name types) fun g requests => Laid d [] [] g (requests, []) := by
  induction types generalizing s with
  | nil => exact .pure hs laid_nil
  | cons t rest ih =>
    obtain ⟨ht, hrest⟩ := List.cons_subset.1 htypes
    rw [requestTypes]
    split
    · rename_i hrequest
      refine (lays_declaredId hs d.package.name t).bind fun id s₁ hs₁ _ hid => ?_
      refine (ih hs₁ hrest).bind fun others s₂ hs₂ hgrows₂ hothers => .pure hs₂ ?_
      have hown : Laid d [] [] s₁.graph (bothWays (d.qualifiedName t.name) id, []) := by
        refine ⟨rfl, List.forall_mem_nil _, List.forall_mem_nil _, ?_⟩
        exact @forall_mem_bothWays _ _ _ true fun _ direction =>
          .type t id direction ht hrequest hid
      exact (hown.mono hgrows₂).append hothers
    · exact ih hs hrest

/-! ### Methods -/

theorem Lays.lookup {α : Type} {Q : TypeGraph → α → Prop} {name : String} {e : LowerError}
    {k : TypeId → LowerM α} (h : ∀ id, s.graph.lookup name = some id → Lays s (k id) Q) :
    Lays s (do
      match (← get).graph.lookup name with
      | none => Lowering.fail e
      | some id => k id) Q := by
  intro a s' hrun
  obtain ⟨id, hid, hrun⟩ := exists_of_lookup_eq_ok hrun
  exact h id hid a s' hrun

theorem receiverIn?_of_read {text n : String} {e : TypeExpr} {args : List TypeExpr}
    {typeParams : List String} (hread : TypeExpr.read text = .ok e)
    (hargs : bareNames args = .ok typeParams) :
    (e = .name n args → receiverIn? text = some (false, n, typeParams)) ∧
      (e = .pointer (.name n args) → receiverIn? text = some (true, n, typeParams)) := by
  have hargs := mapM_bareName?_of_bareNames hargs
  rw [receiverIn?, typeIn?_of_read hread]
  constructor
  · rintro rfl
    simp [TypeExpr.receiver?, hargs]
  · rintro rfl
    simp [TypeExpr.receiver?, hargs]

theorem isIdent_of_mapM_bareName? {args : List TypeExpr} {typeParams : List String}
    (hargs : ∀ arg ∈ args, arg.WellFormed) (h : args.mapM TypeExpr.bareName? = some typeParams) :
    ∀ n ∈ typeParams, Token.IsIdent n := by
  intro n hn
  obtain ⟨arg, harg, hname⟩ := exists_mem_of_mapM h hn
  have hwf := hargs arg harg
  cases arg with
  | name m inner =>
    cases inner with
    | nil =>
      cases hname
      cases hwf with
      | name hname _ => exact hname.1
    | cons _ _ => cases hname
  | _ => cases hname

/-- The type arguments of a receiver are names. -/
theorem isIdent_of_receiverIn? {text n : String} {isPointer : Bool} {typeParams : List String}
    (h : receiverIn? text = some (isPointer, n, typeParams)) : ∀ m ∈ typeParams, Token.IsIdent m := by
  obtain ⟨e, he, h⟩ := Option.bind_eq_some_iff.1 h
  have hwf : e.WellFormed := by
    rw [typeIn?] at he
    cases hread : TypeExpr.read text with
    | error cause =>
      rw [hread] at he
      cases he
    | ok found =>
      rw [hread] at he
      cases he
      exact TypeExpr.wellFormed_of_read hread
  cases e with
  | name m args =>
    obtain ⟨found, hfound, h⟩ := Option.bind_eq_some_iff.1 h
    cases h
    cases hwf with
    | name _ hargs => exact isIdent_of_mapM_bareName? hargs hfound
  | pointer inner =>
    cases inner with
    | name m args =>
      obtain ⟨found, hfound, h⟩ := Option.bind_eq_some_iff.1 h
      cases h
      cases hwf with
      | pointer hwf =>
        cases hwf with
        | name _ hargs => exact isIdent_of_mapM_bareName? hargs hfound
    | _ => cases h
  | _ => cases h

theorem isIdent_withReceiver {sig : FuncSig} {receiver : Receiver}
    (hsig : ∀ n ∈ sig.typeParams, Token.IsIdent n)
    (hreceiver : ∀ n ∈ receiver.typeParams, Token.IsIdent n) :
    ∀ n ∈ FuncSig.allTypeParams { sig with receiver := some receiver }, Token.IsIdent n := by
  rw [FuncSig.allTypeParams]
  dsimp only
  split
  · exact hreceiver
  · exact hsig

/-- Beside the receiver the full name of its base is given. -/
theorem lays_receiver (hs : Sound s) (package text : String) :
    Lays s (receiver package text) fun g r => ReceiverAt g package text r.1 ∧
      ∃ isPointer n, receiverIn? text = some (isPointer, n, r.1.typeParams) ∧
        r.2 = qualify package n := by
  rw [receiver]
  refine (Lays.liftRead hs).bind fun e s' hs' _ hread => ?_
  cases e with
  | name n args =>
    dsimp only
    split
    · exact .fail
    · rename_i typeParams hargs
      have hin := (receiverIn?_of_read hread hargs).1 rfl
      refine .lookup fun id hid => .pure hs' ⟨⟨false, n, id, hin, hid, rfl⟩, false, n, hin, rfl⟩
  | pointer inner =>
    cases inner with
    | name n args =>
      dsimp only
      split
      · exact .fail
      · rename_i typeParams hargs
        have hin := (receiverIn?_of_read hread hargs).2 rfl
        refine .lookup fun id hid => ?_
        have hadd : Lays s' (Lowering.add (.pointer id)) fun g pointer =>
            g.lookup (qualify package n) = some id ∧ g.nodes[pointer]? = some (.pointer id) := by
          refine .add hs' (fun _ _ _ => ?_) fun g pointer hgrows hnode =>
            ⟨hgrows.lookup hid, hnode⟩
          trivial
        refine hadd.bind fun pointer s₂ hs₂ _ hpointer => .pure hs₂ ?_
        exact ⟨⟨true, n, id, hin, hpointer.1, hpointer.2⟩, true, n, hin, rfl⟩
    | _ => exact .fail
  | _ => exact .fail

theorem lays_methodNode (hs : Sound s) (m : MethodDecl) :
    Lays s (methodNode d.package.name m) (Laid d [.receiver m, .method m] []) := by
  refine (lays_receiver hs d.package.name m.receiver).bind fun found s₁ hs₁ _ hfound => ?_
  obtain ⟨receiver, base⟩ := found
  obtain ⟨hbase, _, n, hin, hname⟩ := hfound
  refine (Lays.liftRead hs₁).bind fun f s₂ hs₂ hgrows₂ hread => ?_
  have hwf := FuncExpr.wellFormed_of_read hread
  refine (lays_func d.package.name receiver.typeParams f hwf s₂ hs₂).bind
    fun sig s₃ hs₃ hgrows₃ hsig => ?_
  obtain ⟨hreceiver, hsig⟩ := hsig
  have hlabel : m.label d.package.name = base ++ "." ++ m.name := by
    dsimp only at hin hname
    rw [MethodDecl.label, hin, hname]
  have hregular : ∀ id, (TypeKind.func { sig with receiver := some receiver }).Regular s₃.graph id :=
    fun _ => ⟨(hsig.regular hwf hreceiver).withReceiver hreceiver receiver,
      isIdent_withReceiver (hsig.isIdent hwf) (isIdent_of_receiverIn? hin)⟩
  have hbase := hbase.mono (hgrows₂.trans hgrows₃)
  let AtNode (place : TypePlace) (g : TypeGraph) :=
    place.At g d.package.name (Means d.package.name g)
  have hadd : Lays s₃ (Lowering.add (.func { sig with receiver := some receiver })) fun g id =>
      AtNode (.receiver m) g receiver.type ∧ AtNode (.method m) g id := by
    refine .add hs₃ (fun g id => (hregular id).mono) fun g id hgrows hnode => ?_
    have hbase := hbase.mono hgrows
    refine ⟨⟨receiver.typeParams, hbase⟩, receiver, f, _, hbase, signatureIn?_of_read hread, hnode,
      rfl, ?_⟩
    exact (hsig.mono hgrows fun _ _ _ => Means.mono hgrows).withReceiver receiver
  refine hadd.bind fun id s₄ hs₄ _ hstands => .pure hs₄ ?_
  rw [← hlabel]
  refine ⟨rfl, List.forall_mem_cons.2 ⟨hstands.1, List.forall_mem_singleton.2 hstands.2⟩, nofun,
    forall_mem_bothWays fun hrequest direction => ?_⟩
  exact .method m id direction (List.mem_cons_of_mem _ (List.mem_singleton_self _)) hrequest

/-! ### The whole declaration -/

theorem lays_validate (hs : Sound s) :
    Lays s (liftGraph fun g => g.validate.map fun () => (g, ())) fun _ _ => True := by
  refine .liftGraph fun g' a hstep => ?_
  obtain ⟨_, _, ⟨⟩⟩ := map_eq_ok_iff.1 hstep
  exact ⟨hs, .refl _, trivial⟩

theorem lays_contentNodes (hs : Sound s)
    (hreserved : ∀ t ∈ d.named, Reserved d.package.name s.graph t) :
    Lays s (contentNodes d) (Laid d (d.named.map .body ++ d.functions.map .function ++
      d.methods.flatMap (fun m => [.receiver m, .method m]) ++ d.convert.map .conversion)
      d.named) := by
  have hnamed : ∀ t ∈ d.named, t.isAlias = false := fun t ht => by
    simpa using (List.mem_filter.1 ht).2
  rw [contentNodes]
  refine (lays_gather hs fun t ht s' hs' hgrows =>
    lays_bodyNode hs' (hnamed t ht) ((hreserved t ht).mono hgrows)).bind
      fun bodies s₁ hs₁ _ hbodies => ?_
  refine (lays_requestTypes hs₁ (List.Subset.refl d.types)).bind
    fun ofTypes s₂ hs₂ hgrows₂ htypes => ?_
  refine (lays_gather hs₂ fun f _ _ hs' _ => lays_functionNode hs' f).bind
    fun functions s₃ hs₃ hgrows₃ hfunctions => ?_
  refine (lays_gather hs₃ fun m _ _ hs' _ => lays_methodNode hs' m).bind
    fun methods s₄ hs₄ hgrows₄ hmethods => ?_
  refine (lays_gather hs₄ fun c _ _ hs' _ => lays_conversionNode hs' c).bind
    fun conversions s₅ hs₅ hgrows₅ hconversions => ?_
  refine (lays_validate hs₅).bind fun _ s₆ hs₆ hgrows₆ _ => .pure hs₆ ?_
  have hconversions := hconversions.mono hgrows₆
  have hmethods := hmethods.mono (hgrows₅.trans hgrows₆)
  have hfunctions := hfunctions.mono (hgrows₄.trans (hgrows₅.trans hgrows₆))
  have htypes := htypes.mono (hgrows₃.trans (hgrows₄.trans (hgrows₅.trans hgrows₆)))
  have hbodies :=
    hbodies.mono (hgrows₂.trans (hgrows₃.trans (hgrows₄.trans (hgrows₅.trans hgrows₆))))
  have hall :=
    (((htypes.append hbodies.unasked).append hfunctions).append hmethods).append hconversions
  simpa [List.map_eq_flatMap, flatMap_none] using hall

theorem lays_declarationNodes (d : Declaration) :
    Lays ⟨.empty, []⟩ (declarationNodes d) (Laid d d.places (d.aliases ++ d.named)) := by
  rw [declarationNodes]
  refine (lays_declareTypes sound_empty d.package.name d.types).bind
    fun _ s₁ hs₁ _ hreserved => ?_
  refine (lays_gather hs₁ fun t ht _ hs' _ => lays_targetNode hs' (List.mem_filter.1 ht).2).bind
    fun targets s₂ hs₂ hgrows₂ htargets => ?_
  refine (lays_contentNodes hs₂ fun t ht => ?_).bind
    fun content s₃ hs₃ hgrows₃ hcontent => .pure hs₃ ?_
  · obtain ⟨hmem, hnot⟩ := List.mem_filter.1 ht
    exact (hreserved t hmem (by simpa using hnot)).mono hgrows₂
  · have hall := (htargets.mono hgrows₃).unasked.append hcontent
    rw [Declaration.places, Declaration.aliases]
    simpa [List.map_eq_flatMap] using hall

end Lowering

open Lowering

/-- How a declaration lies in the graph that it was lowered to. -/
structure Declaration.Layout (d : Declaration) (l : Lowered) (nodes : PlaceNodes) : Prop where
  package : l.package = d.package.name
  sound : ∃ predeclared, Sound ⟨l.graph, predeclared⟩
  laid : Laid d d.places (d.aliases ++ d.named) l.graph (l.requests, nodes)

namespace Declaration

variable {d : Declaration} {l : Lowered} {nodes : PlaceNodes}

theorem layout_lowerNodes (h : d.lowerNodes = .ok (l, nodes)) : d.Layout l nodes := by
  rw [lowerNodes] at h
  split at h
  · cases h
  · rename_i hrun
    cases h
    obtain ⟨hs, _, hlaid⟩ := lays_declarationNodes d _ _ hrun
    exact ⟨rfl, ⟨_, hs⟩, hlaid⟩

theorem exists_layout (h : d.lower = .ok l) : ∃ nodes, d.lowerNodes = .ok (l, nodes) ∧
    d.Layout l nodes := by
  obtain ⟨nodes, hnodes⟩ := exists_lowerNodes h
  exact ⟨nodes, hnodes, layout_lowerNodes hnodes⟩

theorem Layout.declares (h : d.Layout l nodes) {t : TypeDecl} (ht : t ∈ d.types) :
    ∃ id, Declares d.package.name l.graph nodes t id := by
  refine h.laid.declares t ?_
  cases halias : t.isAlias with
  | true => exact List.mem_append_left _ (List.mem_filter.2 ⟨ht, halias⟩)
  | false => exact List.mem_append_right _ (List.mem_filter.2 ⟨ht, by simp [halias]⟩)

end Declaration
end ScriptBind
