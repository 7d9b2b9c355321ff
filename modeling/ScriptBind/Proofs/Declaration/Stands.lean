import ScriptBind.Proofs.Declaration.Expressions
import ScriptBind.Proofs.Canon.Completion

/-!
# ScriptBind.Proofs.Declaration.Stands

Where an expression stands in a type graph: which nodes were made for its parts, and which nodes
its names mean.

* `TypeExpr.At`, `FuncExpr.At` - the expression stands at the node, or at the signature.
* `Lowering.Means` - what a name means at a point of a declaration.
* `Lowering.Sound` - what holds of the nodes and names that lowering has made.
* `Lowering.lays_type`, `Lowering.lays_func` - lowering an expression lays it out in the graph.
-/

namespace ScriptBind

/-! ### Expressions in a graph -/

section At

variable (g : TypeGraph) (nameAt : List String → String → TypeId → Prop)

mutual

/-- The expression stands at the node. The relation says which node a name stands at, given the
type parameters in scope. -/
def TypeExpr.At (scope : List String) : TypeExpr → TypeId → Prop
  | .name n [], id => nameAt scope n id
  | .name _ (_ :: _), _ => False
  | .slice element, id => ∃ e, g.nodes[id]? = some (.slice e) ∧ element.At scope e
  | .array length element, id => ∃ e, g.nodes[id]? = some (.array length e) ∧ element.At scope e
  | .map key value, id =>
    ∃ k v, g.nodes[id]? = some (.map k v) ∧ key.At scope k ∧ value.At scope v
  | .pointer element, id => ∃ e, g.nodes[id]? = some (.pointer e) ∧ element.At scope e
  | .func signature, id =>
    ∃ sig, g.nodes[id]? = some (.func sig) ∧ sig.receiver = none ∧ signature.At scope sig
  | .chan direction element, id =>
    ∃ e, g.nodes[id]? = some (.chan direction e) ∧ element.At scope e
  | .struct fields, id => ∃ found, g.nodes[id]? = some (.struct found) ∧ fieldsAt scope fields found
  | .interface methods, id =>
    ∃ found, g.nodes[id]? = some (.interface found) ∧ methodsAt scope methods found

/-- Its own type parameters are in scope beside those around it. -/
def FuncExpr.At (outer : List String) : FuncExpr → FuncSig → Prop
  | ⟨typeParams, params, results, variadic⟩, sig =>
    sig.typeParams = typeParams ∧ sig.variadic = variadic ∧
      paramsAt (outer ++ typeParams) params sig.params ∧
      paramsAt (outer ++ typeParams) results sig.results

def paramsAt (scope : List String) : List ParamExpr → List Param → Prop
  | [], found => found = []
  | ⟨name, type⟩ :: rest, found =>
    ∃ p others, found = p :: others ∧ p.name = name ∧ type.At scope p.type ∧
      paramsAt scope rest others

def fieldsAt (scope : List String) : List FieldExpr → List Field → Prop
  | [], found => found = []
  | ⟨name, type⟩ :: rest, found =>
    ∃ f others, found = f :: others ∧ f.name = name ∧ type.At scope f.type ∧
      fieldsAt scope rest others

def methodsAt (scope : List String) : List MethodExpr → List Method → Prop
  | [], found => found = []
  | ⟨name, func⟩ :: rest, found =>
    ∃ m others, found = m :: others ∧ m.name = name ∧ m.sig.receiver = none ∧
      func.At scope m.sig ∧ methodsAt scope rest others

end

end At

/-! ### Later graphs -/

/-- The graph at a later time: names that are declared keep their nodes. -/
structure TypeGraph.Grows (g g' : TypeGraph) : Prop where
  extend : g.Extends g'
  names : g.names <+: g'.names

namespace TypeGraph

variable {g g' g'' : TypeGraph}

theorem Grows.refl (g : TypeGraph) : g.Grows g := ⟨.refl g, List.prefix_refl _⟩

theorem Grows.trans (h : g.Grows g') (h' : g'.Grows g'') : g.Grows g'' :=
  ⟨h.extend.trans h'.extend, h.names.trans h'.names⟩

theorem Grows.of_names_eq (h : g.Extends g') (hnames : g'.names = g.names) : g.Grows g' :=
  ⟨h, hnames ▸ List.prefix_refl _⟩

theorem Grows.lookup (h : g.Grows g') {name : String} {id : TypeId}
    (hid : g.lookup name = some id) : g'.lookup name = some id := by
  obtain ⟨more, hmore⟩ := h.names
  rw [TypeGraph.lookup, ← hmore, List.lookup_append]
  rw [TypeGraph.lookup] at hid
  rw [hid, Option.some_or]

/-- Whatever is not a named type stays as it is. -/
theorem Grows.node (h : g.Grows g') {id : TypeId} {kind : TypeKind}
    (hid : g.nodes[id]? = some kind) (hnamed : kind.isNamed = false) :
    g'.nodes[id]? = some kind := by
  refine h.extend.node_eq hid ?_
  rintro name typeParams rfl
  cases hnamed

end TypeGraph

section Mono

variable {g g' : TypeGraph} {nameAt nameAt' : List String → String → TypeId → Prop}

mutual

/-- An expression that stands somewhere stands there later. -/
theorem TypeExpr.At.mono (hgrows : g.Grows g')
    (hnames : ∀ scope n id, nameAt scope n id → nameAt' scope n id) {scope : List String} :
    ∀ {e : TypeExpr} {id : TypeId},
    e.At g nameAt scope id → e.At g' nameAt' scope id
  | .name n [], id, h => by
    rw [TypeExpr.At] at h ⊢
    exact hnames scope n id h
  | .name n (arg :: args), id, h => by
    rw [TypeExpr.At] at h
    exact h.elim
  | .slice element, id, h => by
    rw [TypeExpr.At] at h ⊢
    obtain ⟨e, hid, he⟩ := h
    exact ⟨e, hgrows.node hid rfl, he.mono hgrows hnames⟩
  | .array length element, id, h => by
    rw [TypeExpr.At] at h ⊢
    obtain ⟨e, hid, he⟩ := h
    exact ⟨e, hgrows.node hid rfl, he.mono hgrows hnames⟩
  | .map key value, id, h => by
    rw [TypeExpr.At] at h ⊢
    obtain ⟨k, v, hid, hk, hv⟩ := h
    exact ⟨k, v, hgrows.node hid rfl, hk.mono hgrows hnames, hv.mono hgrows hnames⟩
  | .pointer element, id, h => by
    rw [TypeExpr.At] at h ⊢
    obtain ⟨e, hid, he⟩ := h
    exact ⟨e, hgrows.node hid rfl, he.mono hgrows hnames⟩
  | .func signature, id, h => by
    rw [TypeExpr.At] at h ⊢
    obtain ⟨sig, hid, hreceiver, hsig⟩ := h
    exact ⟨sig, hgrows.node hid rfl, hreceiver, hsig.mono hgrows hnames⟩
  | .chan direction element, id, h => by
    rw [TypeExpr.At] at h ⊢
    obtain ⟨e, hid, he⟩ := h
    exact ⟨e, hgrows.node hid rfl, he.mono hgrows hnames⟩
  | .struct fields, id, h => by
    rw [TypeExpr.At] at h ⊢
    obtain ⟨found, hid, hfound⟩ := h
    exact ⟨found, hgrows.node hid rfl, fieldsAt.mono hgrows hnames hfound⟩
  | .interface methods, id, h => by
    rw [TypeExpr.At] at h ⊢
    obtain ⟨found, hid, hfound⟩ := h
    exact ⟨found, hgrows.node hid rfl, methodsAt.mono hgrows hnames hfound⟩

theorem FuncExpr.At.mono (hgrows : g.Grows g')
    (hnames : ∀ scope n id, nameAt scope n id → nameAt' scope n id) {outer : List String} :
    ∀ {f : FuncExpr} {sig : FuncSig},
    f.At g nameAt outer sig → f.At g' nameAt' outer sig
  | ⟨typeParams, params, results, variadic⟩, sig, h => by
    rw [FuncExpr.At] at h ⊢
    obtain ⟨htypeParams, hvariadic, hparams, hresults⟩ := h
    exact ⟨htypeParams, hvariadic, paramsAt.mono hgrows hnames hparams,
      paramsAt.mono hgrows hnames hresults⟩

theorem paramsAt.mono (hgrows : g.Grows g')
    (hnames : ∀ scope n id, nameAt scope n id → nameAt' scope n id) {scope : List String} :
    ∀ {params : List ParamExpr} {found : List Param},
    paramsAt g nameAt scope params found → paramsAt g' nameAt' scope params found
  | [], found, h => by
    rw [paramsAt] at h ⊢
    exact h
  | ⟨n, t⟩ :: rest, found, h => by
    rw [paramsAt] at h ⊢
    obtain ⟨p, others, heq, hname, ht, hothers⟩ := h
    exact ⟨p, others, heq, hname, ht.mono hgrows hnames, paramsAt.mono hgrows hnames hothers⟩

theorem fieldsAt.mono (hgrows : g.Grows g')
    (hnames : ∀ scope n id, nameAt scope n id → nameAt' scope n id) {scope : List String} :
    ∀ {fields : List FieldExpr} {found : List Field},
    fieldsAt g nameAt scope fields found → fieldsAt g' nameAt' scope fields found
  | [], found, h => by
    rw [fieldsAt] at h ⊢
    exact h
  | ⟨n, t⟩ :: rest, found, h => by
    rw [fieldsAt] at h ⊢
    obtain ⟨f, others, heq, hname, ht, hothers⟩ := h
    exact ⟨f, others, heq, hname, ht.mono hgrows hnames, fieldsAt.mono hgrows hnames hothers⟩

theorem methodsAt.mono (hgrows : g.Grows g')
    (hnames : ∀ scope n id, nameAt scope n id → nameAt' scope n id) {scope : List String} :
    ∀ {methods : List MethodExpr} {found : List Method},
      methodsAt g nameAt scope methods found → methodsAt g' nameAt' scope methods found
  | [], found, h => by
    rw [methodsAt] at h ⊢
    exact h
  | ⟨n, f⟩ :: rest, found, h => by
    rw [methodsAt] at h ⊢
    obtain ⟨m, others, heq, hname, hreceiver, hf, hothers⟩ := h
    exact ⟨m, others, heq, hname, hreceiver, hf.mono hgrows hnames,
      methodsAt.mono hgrows hnames hothers⟩

end

end Mono

/-! ### Nodes -/

/-- The last parameter is a slice if it collects arguments. -/
def FuncSig.Regular (g : TypeGraph) (sig : FuncSig) : Prop :=
  sig.variadic = true →
    ∃ last element, sig.inputs.getLast? = some last ∧ g.nodes[last]? = some (.slice element)

/-- What holds of a node that was made for an expression or for a declared name. -/
def TypeKind.Regular (g : TypeGraph) (id : TypeId) : TypeKind → Prop
  | .int width _ => width ∈ [8, 16, 32, 64]
  | .complex bits => bits ∈ [64, 128]
  | .array length _ => length < Token.lengthBound
  | .func sig => sig.Regular g ∧ ∀ n ∈ sig.allTypeParams, Token.IsIdent n
  | .interface methods => (methods.map (·.name)).Nodup ∧
    ∀ m ∈ methods, Token.IsIdent m.name ∧ m.sig.allTypeParams = [] ∧ m.sig.Regular g
  | .struct fields => ∀ f ∈ fields, Token.IsIdent f.name
  | .named name _ _ => g.lookup name = some id
  | .typeParam n => Token.IsIdent n
  | _ => True

section Regular

variable {g g' : TypeGraph}

theorem FuncSig.Regular.mono {sig : FuncSig} (h : sig.Regular g) (hgrows : g.Grows g') :
    sig.Regular g' := by
  intro hvariadic
  obtain ⟨last, element, hlast, hnode⟩ := h hvariadic
  exact ⟨last, element, hlast, hgrows.node hnode rfl⟩

theorem TypeKind.Regular.mono {id : TypeId} {kind : TypeKind} (h : kind.Regular g id)
    (hgrows : g.Grows g') : kind.Regular g' id := by
  cases kind with
  | func sig => exact ⟨FuncSig.Regular.mono h.1 hgrows, h.2⟩
  | interface methods =>
    exact ⟨h.1, fun m hm => ⟨(h.2 m hm).1, (h.2 m hm).2.1, (h.2 m hm).2.2.mono hgrows⟩⟩
  | named name body typeParams => exact hgrows.lookup h
  | _ => exact h

variable {nameAt : List String → String → TypeId → Prop} {scope : List String}

/-- The last parameter stands at a slice if it is one. -/
theorem exists_slice_of_paramsAt {params : List ParamExpr} {found : List Param}
    (h : paramsAt g nameAt scope params found)
    (hend : EndsInSlice params) : ∃ last element,
      (found.map (·.type)).getLast? = some last ∧ g.nodes[last]? = some (.slice element) := by
  obtain ⟨n, element, hlast⟩ := hend
  induction params generalizing found with
  | nil => cases hlast
  | cons p rest ih =>
    obtain ⟨name, type⟩ := p
    rw [paramsAt] at h
    obtain ⟨q, others, rfl, _, htype, hothers⟩ := h
    cases rest with
    | nil =>
      rw [paramsAt] at hothers
      subst hothers
      cases hlast
      rw [TypeExpr.At] at htype
      obtain ⟨e, hnode, _⟩ := htype
      exact ⟨q.type, e, rfl, hnode⟩
    | cons next rest =>
      rw [List.getLast?_cons_cons] at hlast
      obtain ⟨last, e, hfound, hnode⟩ := ih hothers hlast
      refine ⟨last, e, ?_, hnode⟩
      rw [List.map_cons, List.getLast?_cons, hfound]
      rfl

theorem FuncExpr.At.regular {f : FuncExpr}
    {outer : List String} {sig : FuncSig} (h : f.At g nameAt outer sig) (hf : f.WellFormed)
    (hreceiver : sig.receiver = none) : sig.Regular g := by
  intro hvariadic
  obtain ⟨typeParams, params, results, variadic⟩ := f
  rw [FuncExpr.At] at h
  obtain ⟨_, rfl, hparams, _⟩ := h
  cases hf with
  | mk _ _ _ _ _ hend =>
    rw [FuncSig.inputs, hreceiver]
    exact exists_slice_of_paramsAt hparams (hend hvariadic)

theorem FuncExpr.At.isIdent {f : FuncExpr} {outer : List String} {sig : FuncSig}
    (h : f.At g nameAt outer sig) (hf : f.WellFormed) : ∀ n ∈ sig.typeParams, Token.IsIdent n := by
  obtain ⟨typeParams, params, results, variadic⟩ := f
  rw [FuncExpr.At] at h
  cases hf with
  | mk hnames => exact h.1 ▸ hnames

/-- A function without a receiver. -/
theorem FuncExpr.At.regularNode {f : FuncExpr} {outer : List String} {sig : FuncSig} (id : TypeId)
    (h : f.At g nameAt outer sig) (hf : f.WellFormed) (hreceiver : sig.receiver = none) :
    (TypeKind.func sig).Regular g id := by
  refine ⟨h.regular hf hreceiver, ?_⟩
  rw [FuncSig.allTypeParams, hreceiver]
  exact h.isIdent hf

/-- A receiver comes before the other parameters. -/
theorem FuncSig.Regular.withReceiver {sig : FuncSig} (h : sig.Regular g)
    (hreceiver : sig.receiver = none) (receiver : Receiver) :
    FuncSig.Regular g { sig with receiver := some receiver } := by
  intro hvariadic
  obtain ⟨last, element, hlast, hnode⟩ := h hvariadic
  have hparams : (sig.params.map (·.type)).getLast? = some last := by
    rw [FuncSig.inputs, hreceiver] at hlast
    exact hlast
  refine ⟨last, element, ?_, hnode⟩
  show (receiver.type :: sig.params.map (·.type)).getLast? = some last
  rw [List.getLast?_cons, hparams]
  rfl

theorem FuncExpr.At.withReceiver {f : FuncExpr} {outer : List String} {sig : FuncSig}
    (h : f.At g nameAt outer sig) (receiver : Receiver) :
    f.At g nameAt outer { sig with receiver := some receiver } := by
  obtain ⟨typeParams, params, results, variadic⟩ := f
  rw [FuncExpr.At] at h ⊢
  exact h

theorem fieldsAt_names {fields : List FieldExpr} {found : List Field}
    (h : fieldsAt g nameAt scope fields found) :
    found.map (·.name) = fields.map (·.name) := by
  induction fields generalizing found with
  | nil =>
    rw [fieldsAt] at h
    rw [h]
    rfl
  | cons f rest ih =>
    obtain ⟨name, type⟩ := f
    rw [fieldsAt] at h
    obtain ⟨f', others, rfl, hname, _, hothers⟩ := h
    rw [List.map_cons, List.map_cons, hname, ih hothers]

theorem methodsAt_names {methods : List MethodExpr} {found : List Method}
    (h : methodsAt g nameAt scope methods found) :
    found.map (·.name) = methods.map (·.name) := by
  induction methods generalizing found with
  | nil =>
    rw [methodsAt] at h
    rw [h]
    rfl
  | cons m rest ih =>
    obtain ⟨name, f⟩ := m
    rw [methodsAt] at h
    obtain ⟨m', others, rfl, hname, _, _, hothers⟩ := h
    rw [List.map_cons, List.map_cons, hname, ih hothers]

/-- Methods that stand in an interface have single names and no type parameters. -/
theorem regular_of_methodsAt {methods : List MethodExpr} {found : List Method}
    (h : methodsAt g nameAt scope methods found)
    (hnames : ∀ m ∈ methods, Token.IsIdent m.name) (hplain : ∀ m ∈ methods, m.func.typeParams = [])
    (hwf : ∀ m ∈ methods, m.func.WellFormed) :
    ∀ m ∈ found, Token.IsIdent m.name ∧ m.sig.allTypeParams = [] ∧ m.sig.Regular g := by
  induction methods generalizing found with
  | nil =>
    rw [methodsAt] at h
    rw [h]
    exact List.forall_mem_nil _
  | cons m rest ih =>
    obtain ⟨hname, hotherNames⟩ := List.forall_mem_cons.1 hnames
    obtain ⟨htypeParams, hotherPlain⟩ := List.forall_mem_cons.1 hplain
    obtain ⟨hm, hother⟩ := List.forall_mem_cons.1 hwf
    obtain ⟨name, typeParams, params, results, variadic⟩ := m
    rw [methodsAt] at h
    obtain ⟨m', others, rfl, hsame, hreceiver, hfunc, hothers⟩ := h
    refine List.forall_mem_cons.2 ⟨⟨hsame ▸ hname, ?_, hfunc.regular hm hreceiver⟩,
      ih hothers hotherNames hotherPlain hother⟩
    rw [FuncExpr.At] at hfunc
    rw [FuncSig.allTypeParams, hreceiver]
    exact hfunc.1.trans htypeParams

end Regular

namespace Lowering

/-- What a name means: a type parameter in scope, else a predeclared type, else the type declared
under its full name. -/
def Means (package : String) (g : TypeGraph) (scope : List String) (n : String) (id : TypeId) :
    Prop :=
  if n ∈ scope then g.nodes[id]? = some (.typeParam n)
  else
    match predeclaredKind? n with
    | some (_, kind) => g.nodes[id]? = some kind
    | none => g.lookup (qualify package n) = some id

theorem isNamed_of_predeclaredKind? {n key : String} {kind : TypeKind}
    (h : predeclaredKind? n = some (key, kind)) : kind.isNamed = false := by
  unfold predeclaredKind? at h
  split at h <;> cases h <;> rfl

/-- A predeclared type is noted under a name of its own. -/
theorem predeclaredKind?_key {n key : String} {kind : TypeKind}
    (h : predeclaredKind? n = some (key, kind)) : predeclaredKind? key = some (key, kind) := by
  unfold predeclaredKind? at h
  split at h <;> cases h <;> rfl

theorem Means.mono {package : String} {g g' : TypeGraph} {scope : List String} {n : String}
    {id : TypeId} (hgrows : g.Grows g') (h : Means package g scope n id) :
    Means package g' scope n id := by
  rw [Means] at h ⊢
  split
  · rename_i hscope
    rw [if_pos hscope] at h
    exact hgrows.node h rfl
  · rename_i hscope
    rw [if_neg hscope] at h
    split
    · rename_i hkind
      rw [hkind] at h
      exact hgrows.node h (isNamed_of_predeclaredKind? hkind)
    · rename_i hkind
      rw [hkind] at h
      exact hgrows.lookup h

/-! ### States -/

/-- Full names have dots, predeclared types stand where they are noted, and every node is as an
expression or a declared name makes it. -/
structure Sound (s : State) : Prop where
  dotted : ∀ p ∈ s.graph.names, hasDot p.1 = true
  predeclared : ∀ p ∈ s.predeclared, ∃ kind,
    predeclaredKind? p.1 = some (p.1, kind) ∧ s.graph.nodes[p.2]? = some kind
  regular : ∀ (id : TypeId) kind, s.graph.nodes[id]? = some kind → kind.Regular s.graph id

theorem sound_empty : Sound ⟨.empty, []⟩ where
  dotted := nofun
  predeclared := nofun
  regular id kind h := by simp [TypeGraph.empty] at h

variable {s s' : State} {g : TypeGraph} {kind : TypeKind}

theorem Sound.grows (hs : Sound s) (hgrows : s.graph.Grows g)
    (hdotted : ∀ p ∈ g.names, hasDot p.1 = true)
    (hregular : ∀ (id : TypeId) kind, g.nodes[id]? = some kind → kind.Regular g id) :
    Sound ⟨g, s.predeclared⟩ where
  dotted := hdotted
  predeclared p hp := by
    obtain ⟨kind, hkind, hnode⟩ := hs.predeclared p hp
    exact ⟨kind, hkind, hgrows.node hnode (isNamed_of_predeclaredKind? hkind)⟩
  regular := hregular

/-- A new node. -/
theorem Sound.push {names : List (String × TypeId)} (hs : Sound s)
    (hnames : s.graph.names <+: names) (hdotted : ∀ p ∈ names, hasDot p.1 = true)
    (hkind : kind.Regular ⟨s.graph.nodes.push kind, names⟩ s.graph.size) :
    Sound ⟨⟨s.graph.nodes.push kind, names⟩, s.predeclared⟩ := by
  have hgrows : s.graph.Grows ⟨s.graph.nodes.push kind, names⟩ :=
    ⟨TypeGraph.extends_push kind names, hnames⟩
  refine hs.grows hgrows hdotted fun id found hid => ?_
  rw [Array.getElem?_push] at hid
  split at hid
  · rename_i heq
    cases hid
    subst heq
    exact hkind
  · exact (hs.regular id found hid).mono hgrows

theorem grows_add (g : TypeGraph) (kind : TypeKind) : g.Grows (g.add kind).1 :=
  .of_names_eq (g.extends_add kind) rfl

theorem Sound.add (hs : Sound s) (hkind : kind.Regular (s.graph.add kind).1 s.graph.size) :
    Sound ⟨(s.graph.add kind).1, s.predeclared⟩ :=
  hs.push (List.prefix_refl _) hs.dotted hkind

/-- A type gets its body. -/
theorem Sound.define {id body : TypeId} (hs : Sound s) (h : s.graph.define id body = .ok g) :
    Sound ⟨g, s.predeclared⟩ := by
  obtain ⟨hext, hnames⟩ := TypeGraph.define_eq_ok h
  have hgrows : s.graph.Grows g := .of_names_eq hext hnames
  refine hs.grows hgrows (hnames ▸ hs.dotted) fun other later hlater => ?_
  obtain ⟨name, typeParams, hnode, rfl⟩ := TypeGraph.exists_of_define h
  rw [Array.getElem?_setIfInBounds] at hlater
  split at hlater
  · rename_i heq
    split at hlater
    · cases hlater
      subst heq
      have hnamed : TypeKind.Regular s.graph id (.named name none typeParams) :=
        hs.regular id _ hnode
      exact hgrows.lookup hnamed
    · cases hlater
  · exact (hs.regular other later hlater).mono hgrows

/-! ### Steps -/

variable {α β : Type} {Q R : TypeGraph → α → Prop}

/-- Taken from `s`, the step keeps the state sound, lets the graph grow, and its result is as `Q`
says, if it has one. -/
def Lays (s : State) (m : LowerM α) (Q : TypeGraph → α → Prop) : Prop :=
  ∀ a s', m s = .ok (a, s') → Sound s' ∧ s.graph.Grows s'.graph ∧ Q s'.graph a

namespace Lays

theorem pure {a : α} (hs : Sound s) (h : Q s.graph a) : Lays s (Pure.pure a) Q := by
  rintro _ _ ⟨⟩
  exact ⟨hs, .refl _, h⟩

theorem fail {e : LowerError} : Lays s (Lowering.fail e) Q := by
  rintro _ _ ⟨⟩

theorem bind {Q' : TypeGraph → β → Prop} {m : LowerM α} {k : α → LowerM β} (hm : Lays s m Q)
    (hk : ∀ a s', Sound s' → s.graph.Grows s'.graph → Q s'.graph a → Lays s' (k a) Q') :
    Lays s (m >>= k) Q' := by
  intro b s₂ hrun
  obtain ⟨a, s₁, hms, hrun⟩ := bind_eq_ok hrun
  obtain ⟨hs, hgrows, ha⟩ := hm a s₁ hms
  obtain ⟨hs', hgrows', hb⟩ := hk a s₁ hs hgrows ha b s₂ hrun
  exact ⟨hs', hgrows.trans hgrows', hb⟩

theorem mono {m : LowerM α} (h : Lays s m Q) (hQ : ∀ g a, Q g a → R g a) : Lays s m R := by
  intro a s' hrun
  obtain ⟨hs, hgrows, ha⟩ := h a s' hrun
  exact ⟨hs, hgrows, hQ _ a ha⟩

theorem liftRead {result : Except ReadError α} (hs : Sound s) :
    Lays s (Lowering.liftRead result) fun _ a => result = .ok a := by
  cases result with
  | ok a => exact .pure hs rfl
  | error e => exact .fail

theorem add {Q : TypeGraph → TypeId → Prop} {kind : TypeKind} (hs : Sound s)
    (hkind : ∀ g id, s.graph.Grows g → kind.Regular g id)
    (hQ : ∀ g id, s.graph.Grows g → g.nodes[id]? = some kind → Q g id) :
    Lays s (Lowering.add kind) Q := by
  rintro _ _ ⟨⟩
  have hgrows := grows_add s.graph kind
  exact ⟨hs.add (hkind _ _ hgrows), hgrows, hQ _ _ hgrows (s.graph.node_add kind)⟩

end Lays

/-! ### Names -/

theorem regular_of_predeclaredKind? {n key : String} {kind : TypeKind}
    (h : predeclaredKind? n = some (key, kind)) (g : TypeGraph) (id : TypeId) :
    kind.Regular g id := by
  unfold predeclaredKind? at h
  split at h <;> cases h <;> simp [TypeKind.Regular]

theorem lays_predeclaredNode {n key : String} {kind : TypeKind} (hs : Sound s)
    (hkind : predeclaredKind? n = some (key, kind)) :
    Lays s (predeclaredNode key kind) fun g id => g.nodes[id]? = some kind := by
  intro id s' hrun
  obtain ⟨hfound, rfl⟩ | ⟨rfl, rfl⟩ := predeclaredNode_eq_ok hrun
  · obtain ⟨kind', hkind', hnode⟩ := hs.predeclared _ (mem_of_lookup hfound)
    cases (predeclaredKind?_key hkind).symm.trans hkind'
    exact ⟨hs, .refl _, hnode⟩
  · have hgrows := grows_add s.graph kind
    have hs' := hs.add (regular_of_predeclaredKind? hkind (s.graph.add kind).1 s.graph.size)
    have hnode := s.graph.node_add kind
    refine ⟨⟨hs'.dotted, ?_, hs'.regular⟩, hgrows, hnode⟩
    exact List.forall_mem_cons.2 ⟨⟨kind, predeclaredKind?_key hkind, hnode⟩, hs'.predeclared⟩

theorem lays_name (package : String) (scope : List String) {n : String} (hn : Token.IsIdent n)
    (hs : Sound s) : Lays s (name package scope n) fun g id => Means package g scope n id := by
  rw [name]
  split
  · rename_i hscope
    refine Lays.add hs (fun _ _ _ => ?_) fun g id _ h => ?_
    · exact hn
    rw [Means, if_pos (List.contains_iff_mem.1 hscope)]
    exact h
  · rename_i hscope
    have hscope : n ∉ scope := fun h => hscope (List.contains_iff_mem.2 h)
    cases hkind : predeclaredKind? n with
    | some found =>
      refine (lays_predeclaredNode hs hkind).mono fun g id h => ?_
      rw [Means, if_neg hscope, hkind]
      exact h
    | none =>
      intro id s' hrun
      obtain ⟨hid, rfl⟩ := lookup_qualify_of_ok hs.dotted hrun
      have hmeans : Means package s'.graph scope n id := by
        rw [Means, if_neg hscope, hkind]
        exact hid
      exact ⟨hs, .refl _, hmeans⟩

/-! ### Expressions -/

variable {package : String} {scope : List String} {g g' : TypeGraph}

/-- An expression keeps its meaning while the graph grows. -/
theorem At.later {e : TypeExpr} {id : TypeId} (hgrows : g.Grows g')
    (h : e.At g (Means package g) scope id) : e.At g' (Means package g') scope id :=
  h.mono hgrows fun _ _ _ => Means.mono hgrows

theorem Lays.part {element : TypeExpr} {m : LowerM TypeId} {kind : TypeId → TypeKind}
    (hkind : ∀ g id e, (kind e).Regular g id)
    (hm : Lays s m fun g id => element.At g (Means package g) scope id) :
    Lays s (m >>= fun id => Lowering.add (kind id)) fun g id =>
      ∃ e, g.nodes[id]? = some (kind e) ∧ element.At g (Means package g) scope e := by
  refine hm.bind fun e s₁ hs₁ _ he => ?_
  exact Lays.add hs₁ (fun g id _ => hkind g id e) fun g id hgrows hnode =>
    ⟨e, hnode, At.later hgrows he⟩

mutual

theorem lays_type (package : String) (scope : List String) :
    ∀ e : TypeExpr, e.WellFormed → ∀ s, Sound s →
      Lays s (type package scope e) fun g id => e.At g (Means package g) scope id
  | .name n [], .name hn _, s, hs => by
    rw [type]
    refine (lays_name package scope hn.1 hs).mono fun g id h => ?_
    rw [TypeExpr.At]
    exact h
  | .name n (arg :: args), _, s, hs => by
    rw [type]
    exact .fail
  | .slice element, .slice h, s, hs => by
    rw [type]
    refine (Lays.part (fun _ _ _ => ?_) (lays_type package scope element h s hs)).mono
      fun g id h => ?_
    · trivial
    · rw [TypeExpr.At]
      exact h
  | .array length element, .array hlength h, s, hs => by
    rw [type]
    refine (Lays.part (fun _ _ _ => ?_) (lays_type package scope element h s hs)).mono
      fun g id h => ?_
    · exact hlength
    · rw [TypeExpr.At]
      exact h
  | .pointer element, .pointer h, s, hs => by
    rw [type]
    refine (Lays.part (fun _ _ _ => ?_) (lays_type package scope element h s hs)).mono
      fun g id h => ?_
    · trivial
    · rw [TypeExpr.At]
      exact h
  | .chan direction element, .chan _ h, s, hs => by
    rw [type]
    refine (Lays.part (fun _ _ _ => ?_) (lays_type package scope element h s hs)).mono
      fun g id h => ?_
    · trivial
    · rw [TypeExpr.At]
      exact h
  | .map key value, .map hkey hvalue, s, hs => by
    rw [type]
    refine (lays_type package scope key hkey s hs).bind fun k s₁ hs₁ _ hk => ?_
    refine (lays_type package scope value hvalue s₁ hs₁).bind fun v s₂ hs₂ hgrows₂ hv => ?_
    refine Lays.add hs₂ (fun _ _ _ => ?_) fun g id hgrows hnode => ?_
    · trivial
    · rw [TypeExpr.At]
      exact ⟨k, v, hnode, At.later (hgrows₂.trans hgrows) hk, At.later hgrows hv⟩
  | .func signature, .func h, s, hs => by
    rw [type]
    refine (lays_func package scope signature h s hs).bind fun sig s₁ hs₁ _ hsig => ?_
    obtain ⟨hreceiver, hsig⟩ := hsig
    have hregular : ∀ id, (TypeKind.func sig).Regular s₁.graph id := fun id =>
      hsig.regularNode id h hreceiver
    refine Lays.add hs₁ (fun g id => (hregular id).mono) fun g id hgrows hnode => ?_
    rw [TypeExpr.At]
    exact ⟨sig, hnode, hreceiver, hsig.mono hgrows fun _ _ _ => Means.mono hgrows⟩
  | .struct fs, .struct _ hnames h, s, hs => by
    rw [type]
    refine (lays_fields package scope fs h s hs).bind fun found s₁ hs₁ _ hfound => ?_
    refine Lays.add hs₁ (fun _ _ _ => ?_) fun g id hgrows hnode => ?_
    · have hnames : ∀ n ∈ found.map (·.name), Token.IsIdent n :=
        fieldsAt_names hfound ▸ List.forall_mem_map.2 hnames
      exact List.forall_mem_map.1 hnames
    · rw [TypeExpr.At]
      exact ⟨found, hnode, fieldsAt.mono hgrows (fun _ _ _ => Means.mono hgrows) hfound⟩
  | .interface ms, .interface hnodup hnames hplain h, s, hs => by
    rw [type]
    refine (lays_methods package scope ms h s hs).bind fun found s₁ hs₁ _ hfound => ?_
    have hregular : ∀ id, (TypeKind.interface found).Regular s₁.graph id := fun _ =>
      ⟨methodsAt_names hfound ▸ hnodup, regular_of_methodsAt hfound hnames hplain h⟩
    refine Lays.add hs₁ (fun g id => (hregular id).mono) fun g id hgrows hnode => ?_
    rw [TypeExpr.At]
    exact ⟨found, hnode, methodsAt.mono hgrows (fun _ _ _ => Means.mono hgrows) hfound⟩

theorem lays_fields (package : String) (scope : List String) :
    ∀ fs : List FieldExpr, (∀ f ∈ fs, f.type.WellFormed) → ∀ s, Sound s →
      Lays s (fields package scope fs) fun g found => fieldsAt g (Means package g) scope fs found
  | [], _, s, hs => by
    rw [fields]
    refine .pure hs ?_
    rw [fieldsAt]
  | ⟨n, t⟩ :: rest, h, s, hs => by
    obtain ⟨ht, hrest⟩ := List.forall_mem_cons.1 h
    rw [fields]
    refine (lays_type package scope t ht s hs).bind fun id s₁ hs₁ _ hid => ?_
    refine (lays_fields package scope rest hrest s₁ hs₁).bind fun found s₂ hs₂ hgrows₂ hfound => ?_
    refine .pure hs₂ ?_
    rw [fieldsAt]
    exact ⟨_, found, rfl, rfl, At.later hgrows₂ hid, hfound⟩

theorem lays_methods (package : String) (scope : List String) :
    ∀ ms : List MethodExpr, (∀ m ∈ ms, m.func.WellFormed) → ∀ s, Sound s →
      Lays s (methods package scope ms) fun g found => methodsAt g (Means package g) scope ms found
  | [], _, s, hs => by
    rw [methods]
    refine .pure hs ?_
    rw [methodsAt]
  | ⟨n, f⟩ :: rest, h, s, hs => by
    obtain ⟨hf, hrest⟩ := List.forall_mem_cons.1 h
    rw [methods]
    refine (lays_func package scope f hf s hs).bind fun sig s₁ hs₁ _ hsig => ?_
    refine (lays_methods package scope rest hrest s₁ hs₁).bind
      fun found s₂ hs₂ hgrows₂ hfound => ?_
    refine .pure hs₂ ?_
    rw [methodsAt]
    exact ⟨_, found, rfl, rfl, hsig.1, hsig.2.mono hgrows₂ fun _ _ _ => Means.mono hgrows₂,
      hfound⟩

theorem lays_func (package : String) (outer : List String) :
    ∀ f : FuncExpr, f.WellFormed → ∀ s, Sound s →
      Lays s (func package outer f) fun g sig =>
        sig.receiver = none ∧ f.At g (Means package g) outer sig
  | ⟨typeParams, ps, rs, variadic⟩, .mk _ hps _ hrs _ _, s, hs => by
    rw [func]
    refine (lays_params package _ ps hps s hs).bind fun inputs s₁ hs₁ _ hinputs => ?_
    refine (lays_params package _ rs hrs s₁ hs₁).bind fun outputs s₂ hs₂ hgrows₂ houtputs => ?_
    refine .pure hs₂ ⟨rfl, ?_⟩
    rw [FuncExpr.At]
    exact ⟨rfl, rfl, paramsAt.mono hgrows₂ (fun _ _ _ => Means.mono hgrows₂) hinputs, houtputs⟩

theorem lays_params (package : String) (scope : List String) :
    ∀ ps : List ParamExpr, (∀ p ∈ ps, p.WellFormed) → ∀ s, Sound s →
      Lays s (params package scope ps) fun g found => paramsAt g (Means package g) scope ps found
  | [], _, s, hs => by
    rw [params]
    refine .pure hs ?_
    rw [paramsAt]
  | ⟨n, t⟩ :: rest, h, s, hs => by
    obtain ⟨⟨_, ht⟩, hrest⟩ := List.forall_mem_cons.1 h
    rw [params]
    refine (lays_type package scope t ht s hs).bind fun id s₁ hs₁ _ hid => ?_
    refine (lays_params package scope rest hrest s₁ hs₁).bind fun found s₂ hs₂ hgrows₂ hfound => ?_
    refine .pure hs₂ ?_
    rw [paramsAt]
    exact ⟨_, found, rfl, rfl, At.later hgrows₂ hid, hfound⟩

end

end Lowering
end ScriptBind
