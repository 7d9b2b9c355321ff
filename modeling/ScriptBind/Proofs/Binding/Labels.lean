import ScriptBind.Proofs.Binding.Finish
import ScriptBind.Proofs.Binding.Runs
import ScriptBind.Proofs.Canon.Registered

/-!
# ScriptBind.Proofs.Binding.Labels

What shapes are called, and which names of structs stand in these names. A shape is made for a type
that was asked for or for a part of such a type, never for the body of a named type alone.

* `Generator.Labelled` - each row is called as its type is written.
* `GenM.Labels` - a step that keeps this and renames no row.
* `Generator.labels_shapeIn` - making a shape, by induction on the bound.
* `Generator.NamesKnown` - the aliases of bindings account for the names of structs in their shapes.
* `Generator.catalogue_of_answers` - which aliases sessions and bindings end with.
-/

namespace ScriptBind

/-! ### Rows and their names -/

namespace Generator

/-- A type that has a shape is among the aliases of `session` if it is a struct, and its row is called as
it is written there. -/
structure Labelled (session : Session) (g : Generator) : Prop where
  canon : g.canon = session
  enlisted : ∀ p ∈ g.shapeOf, session.Enlists (session.unfold p.1)
  rows : ∀ p ∈ g.shapeOf, ∃ kind, g.rows[p.2]? = some ⟨session.typeString p.1, kind⟩

def IsCalled (g : Generator) (id : ShapeId) (name : String) : Prop :=
  ∃ kind, g.rows[id]? = some ⟨name, kind⟩

variable {session : Session} {g g' : Generator} {c : CanonId}

theorem Labelled.of_eq (h : g.Labelled session) (hcanon : g'.canon = g.canon)
    (hrows : g'.rows = g.rows) (hshapeOf : g'.shapeOf = g.shapeOf) : g'.Labelled session where
  canon := hcanon.trans h.canon
  enlisted p hp := h.enlisted p (hshapeOf ▸ hp)
  rows p hp := by
    rw [hrows]
    exact h.rows p (hshapeOf ▸ hp)

end Generator

namespace GenM

open Generator

variable {α β : Type} {session : Session}

/-- From a state whose rows are called as their types are written the step leads to another one, and
each row that was there keeps its name. -/
def Labels (session : Session) (m : GenM α) : Prop := ∀ g : Generator, g.Labelled session →
  (m g).2.Labelled session ∧ ∀ id name, g.IsCalled id name → (m g).2.IsCalled id name

namespace Labels

theorem pure (a : α) : Labels session (Pure.pure a : GenM α) := fun _ h => ⟨h, fun _ _ h => h⟩

theorem bind {m : GenM α} {k : α → GenM β} (hm : Labels session m) (hk : ∀ a, Labels session (k a)) :
    Labels session (m >>= k) := by
  intro g h
  obtain ⟨h₁, hnames₁⟩ := hm g h
  obtain ⟨h₂, hnames₂⟩ := hk (m g).1 (m g).2 h₁
  exact ⟨h₂, fun id name hid => hnames₂ id name (hnames₁ id name hid)⟩

theorem get {k : Generator → GenM β} (hk : ∀ g, g.canon = session → Labels session (k g)) :
    Labels session (MonadState.get >>= k) :=
  fun g h => hk g h.canon g h

theorem ite {p : Prop} [Decidable p] {m m' : GenM α} (hm : Labels session m) (hm' : Labels session m') :
    Labels session (if p then m else m') := by
  split
  · exact hm
  · exact hm'

/-- A change that leaves the shapes alone. -/
theorem modify {f : Generator → Generator} (hcanon : ∀ g, (f g).canon = g.canon)
    (hrows : ∀ g, (f g).rows = g.rows) (hshapeOf : ∀ g, (f g).shapeOf = g.shapeOf) :
    Labels session (modify f : GenM PUnit) := by
  intro g h
  refine ⟨h.of_eq (hcanon g) (hrows g) (hshapeOf g), fun id name hid => ?_⟩
  show IsCalled (f g) id name
  rw [IsCalled, hrows]
  exact hid

theorem mapM {f : α → GenM β} {xs : List α} (hf : ∀ x ∈ xs, Labels session (f x)) :
    Labels session (xs.mapM f) := by
  induction xs with
  | nil => exact .pure _
  | cons x rest ih =>
    obtain ⟨hx, hrest⟩ := List.forall_mem_cons.1 hf
    rw [List.mapM_cons]
    exact hx.bind fun y => (ih hrest).bind fun ys => .pure _

end Labels
end GenM

/-! ### Shapes -/

namespace Generator

open GenM (Labels)

variable {session : Session} {graph : TypeGraph} {g g' : Generator} {c : CanonId}
  {roots : List ConverterKey} {types : List TypeId}

theorem labels_degrade (name reason : String) : Labels session (degrade name reason) := by
  refine Labels.bind (.modify (fun _ => ?_) (fun _ => ?_) fun _ => ?_) fun _ => .pure _ <;> rfl

theorem labels_registerBridge (element : ShapeId) (direction : ChanDir) :
    Labels session (registerBridge element direction) := by
  refine .modify (fun g => ?_) (fun g => ?_) fun g => ?_ <;> split <;> rfl

section Parts

variable {shape : CanonId → GenM ShapeId}
  (hshape : ∀ d, session.Enlists (session.unfold d) → Labels session (shape d))

include hshape

theorem labels_funcShape (f : CanonFunc) (hf : ∀ d ∈ f.refs, session.Enlists (session.unfold d)) :
    Labels session (funcShape shape f) := by
  rw [funcShape]
  refine .ite (.pure _) (.get fun g _ => .ite (.pure _) ?_)
  have hparams : Labels session (f.params.mapM shape) :=
    .mapM fun d hd => hshape d (hf d (List.mem_append_left _ hd))
  have hresults : Labels session (f.results.mapM shape) :=
    .mapM fun d hd => hshape d (hf d (List.mem_append_right _ hd))
  exact hparams.bind fun params => hresults.bind fun results => .pure _

theorem labels_methodShapes (methods : List CanonMethod)
    (hmethods : ∀ m ∈ methods, ∀ d ∈ m.func.refs, session.Enlists (session.unfold d)) :
    Labels session (methodShapes shape methods) := by
  induction methods with
  | nil => exact .pure _
  | cons m rest ih =>
    obtain ⟨hm, hrest⟩ := List.forall_mem_cons.1 hmethods
    refine (labels_funcShape hshape m.func hm).bind fun result => ?_
    split
    · exact .pure _
    · refine (ih hrest).bind fun result => ?_
      split <;> exact .pure _

theorem labels_fieldShapes (fields : List (String × CanonId))
    (hfields : ∀ f ∈ fields, session.Enlists (session.unfold f.2)) :
    Labels session (fieldShapes shape fields) := by
  induction fields with
  | nil => exact .pure _
  | cons f rest ih =>
    obtain ⟨hf, hrest⟩ := List.forall_mem_cons.1 hfields
    refine (hshape f.2 hf).bind fun id => .get fun g _ => .ite (.pure _) ?_
    refine (ih hrest).bind fun result => ?_
    split <;> exact .pure _

theorem labels_kindFor (name : String) (kind : Option CanonKind)
    (hkind : ∀ found, kind = some found → ∀ d ∈ found.refs, session.Enlists (session.unfold d)) :
    Labels session (kindFor shape name kind) := by
  cases kind with
  | none => exact labels_degrade name _
  | some kind =>
    have hrefs := hkind kind rfl
    cases kind with
    | complex bits | unsafePointer | typeParam param | named other underlying =>
      exact labels_degrade name _
    | slice element | array length element | pointer element =>
      exact (hshape element (hrefs element (List.mem_singleton_self _))).bind fun _ => .pure _
    | map key value =>
      have hvalue := hrefs value (by simp [CanonKind.refs])
      refine .get fun g _ => .ite ?_ (labels_degrade name _)
      exact (hshape value hvalue).bind fun _ => .pure _
    | func f =>
      refine (labels_funcShape hshape f hrefs).bind fun result => ?_
      split
      · exact .pure _
      · exact labels_degrade name _
    | chan direction element =>
      refine (hshape element (hrefs element (List.mem_singleton_self _))).bind fun id => ?_
      exact (labels_registerBridge id direction).bind fun _ => .pure _
    | interface methods =>
      refine (labels_methodShapes hshape methods fun m hm d hd =>
        hrefs d (List.mem_flatMap.2 ⟨m, hm, hd⟩)).bind fun result => ?_
      split
      · exact .pure _
      · exact labels_degrade name _
    | struct aliasName fields =>
      refine (labels_fieldShapes hshape fields fun f hf =>
        hrefs f.2 (List.mem_map_of_mem hf)).bind fun result => ?_
      split
      · exact .pure _
      · exact labels_degrade name _
    | _ => exact .pure _

end Parts

theorem Labelled.reserveShape (h : g.Labelled session) (hc : session.Enlists (session.unfold c)) :
    (reserveShape c (session.typeString c) g).2.Labelled session ∧
      (Generator.reserveShape c (session.typeString c) g).2.IsCalled g.rows.size
        (session.typeString c) ∧
      ∀ id name, g.IsCalled id name →
        (Generator.reserveShape c (session.typeString c) g).2.IsCalled id name := by
  have hpush : ∀ {id : ShapeId} {row : ShapeRow}, g.rows[id]? = some row →
      (g.rows.push ⟨session.typeString c, none⟩)[id]? = some row := by
    intro id row hrow
    have hid : id < g.rows.size := (Array.getElem?_eq_some_iff.1 hrow).1
    rw [Array.getElem?_push, if_neg (Nat.ne_of_lt hid), hrow]
  have hnew : (g.rows.push ⟨session.typeString c, none⟩)[g.rows.size]? =
      some ⟨session.typeString c, none⟩ := Array.getElem?_push_size
  refine ⟨⟨h.canon, List.forall_mem_cons.2 ⟨hc, h.enlisted⟩,
    List.forall_mem_cons.2 ⟨⟨none, hnew⟩, fun p hp => ?_⟩⟩, ⟨none, hnew⟩, ?_⟩
  · obtain ⟨kind, hrow⟩ := h.rows p hp
    exact ⟨kind, hpush hrow⟩
  · rintro id name ⟨kind, hrow⟩
    exact ⟨kind, hpush hrow⟩

/-- A rule is entered under the name that the row has already. -/
theorem isCalled_setKind {id other : ShapeId} {name found : String} (kind : ShapeKind)
    (hid : g.IsCalled id name) (h : g.IsCalled other found) :
    (g.setKind id name kind).IsCalled other found := by
  obtain ⟨before, hid⟩ := hid
  obtain ⟨rule, hother⟩ := h
  have hlt : id < g.rows.size := (Array.getElem?_eq_some_iff.1 hid).1
  show ∃ rule, (g.rows.setIfInBounds id ⟨name, some kind⟩)[other]? = some ⟨found, rule⟩
  rw [Array.getElem?_setIfInBounds]
  by_cases heq : id = other
  · subst heq
    cases hid.symm.trans hother
    exact ⟨some kind, by rw [if_pos rfl, if_pos hlt]⟩
  · exact ⟨rule, by rw [if_neg heq, hother]⟩

theorem labels_shapeIn (hcovered : ∀ id kind, session.kind? id = some kind →
    ∀ r ∈ kind.refs, session.Enlists (session.unfold r)) : ∀ (fuel : Nat) (c : CanonId),
    session.Enlists (session.unfold c) → Labels session (shapeIn fuel c) := by
  intro fuel
  induction fuel with
  | zero => exact fun c _ => .pure _
  | succ fuel ih =>
    intro c hc
    rw [shapeIn]
    refine .get fun g₁ hg₁ => ?_
    cases g₁.shapeOf.lookup c with
    | some id => exact .pure id
    | none =>
      subst hg₁
      intro g h
      obtain ⟨hreserved, hid, hnames⟩ := h.reserveShape hc
      obtain ⟨hmade, hnames'⟩ := labels_kindFor ih (g₁.canon.typeString c) _
        (fun found hfound => hcovered _ found hfound) _ hreserved
      have hid' := hnames' _ _ hid
      refine ⟨⟨hmade.canon, hmade.enlisted, fun p hp => ?_⟩, fun id name hcalled => ?_⟩
      · exact isCalled_setKind _ hid' (hmade.rows p hp)
      · exact isCalled_setKind _ hid' (hnames' id name (hnames id name hcalled))

theorem labels_shapeFor (hcovered : ∀ id kind, session.kind? id = some kind →
    ∀ r ∈ kind.refs, session.Enlists (session.unfold r)) (hc : session.Enlists (session.unfold c)) :
    Labels session (shapeFor c) :=
  Labels.get fun _ _ => labels_shapeIn hcovered _ c hc

/-! ### Calls -/

/-- What is known about the names in the state of a run that is asked for `types` at most. -/
structure Accounted (graph : TypeGraph) (types : List TypeId) (g : Generator) : Prop where
  tracks : g.canon.Tracks graph types
  labelled : g.Labelled g.canon

theorem accounted_empty (graph : TypeGraph) (types : List TypeId) :
    Accounted graph types empty where
  tracks := Session.tracks_empty graph types
  labelled := ⟨rfl, fun p hp => by simp [empty] at hp, fun p hp => by simp [empty] at hp⟩

/-- In a later session the types that have shapes are written as before. -/
theorem Labelled.later {s : Session} (h : g.Labelled g.canon) (hs : g.canon.Interned)
    (hs' : s.Interned) (hext : g.canon.Extends s) (hgains : g.canon.Gains s)
    (htypes : ∀ p ∈ g.shapeOf, p.1 < g.canon.size) : Labelled s { g with canon := s } where
  canon := rfl
  enlisted p hp := by
    rw [hext.unfold_eq hs hs' (htypes p hp)]
    exact (h.enlisted p hp).mono hgains
  rows p hp := by
    rw [hext.typeString_eq hs (htypes p hp)]
    exact h.rows p hp

/-- To ask for the shape of a type with a canonical type. -/
theorem Accounted.shape {type : TypeId} (hunique : graph.UniqueNames)
    (h : g.Accounted graph types) (hg : Settled graph roots g) (htype : type ∈ types)
    (hrun : (Session.normalize graph type g.canon).1 = .ok c) :
    (∃ id, (Generator.shape graph type g).1 = .ok id) ∧
      (Generator.shape graph type g).2.canon = (Session.normalize graph type g.canon).2 ∧
      (Generator.shape graph type g).2.Accounted graph types := by
  have hfollows := Session.follows_normalize hunique hg.canon h.tracks htype hrun
  obtain ⟨hsettled, hrep⟩ := hg.canonical hrun
  have hlabelled := h.labelled.later hg.canon.interned hfollows.valid.interned
    hfollows.grows.extend hfollows.gains hg.tabled.types
  obtain ⟨hshape, _⟩ := labels_shapeFor hfollows.tracks.covered (hfollows.enlists rfl) _ hlabelled
  rw [shape_of_ok (show (canonical graph type g).1 = .ok c from hrun)]
  refine ⟨⟨_, rfl⟩, hshape.canon, ?_, ?_⟩
  · rw [show (shapeFor c (canonical graph type g).2).2.canon = _ from hshape.canon]
    exact hfollows.tracks
  · rw [show (shapeFor c (canonical graph type g).2).2.canon = _ from hshape.canon]
    exact hshape

/-- The same shapes, and the same session. -/
structure SameShapes (g g' : Generator) : Prop where
  canon : g'.canon = g.canon
  rows : g'.rows = g.rows
  shapeOf : g'.shapeOf = g.shapeOf

theorem SameShapes.trans {g'' : Generator} (h : g.SameShapes g') (h' : g'.SameShapes g'') :
    g.SameShapes g'' :=
  ⟨h'.canon.trans h.canon, h'.rows.trans h.rows, h'.shapeOf.trans h.shapeOf⟩

theorem sameShapes_addExport (g : Generator) (e : Export) : g.SameShapes (g.addExport e) := by
  rw [addExport]
  split <;> exact ⟨rfl, rfl, rfl⟩

theorem Settled.add_of_ok {id : ShapeId} (type : TypeId) (direction : Direction)
    (hg : Settled graph roots g) (hid : (Generator.shape graph type g).1 = .ok id) :
    (∃ n, (Generator.add graph type direction g).1 = .ok n) ∧
      (Generator.shape graph type g).2.SameShapes (Generator.add graph type direction g).2 := by
  obtain ⟨hsettled, _, c, _, hc⟩ := hg.shape hid
  obtain ⟨_, hlinked, _⟩ := enters_entryFor (id, direction) hsettled.keyed hsettled.complete
    (hsettled.tabled.lt_size hc)
  rw [Generator.add, bind_apply, hid]
  exact ⟨⟨_, rfl⟩, hlinked.canon, hlinked.rows, hlinked.shapeOf⟩

theorem Accounted.of_sameShapes (h : g.Accounted graph types) (hsame : g.SameShapes g') :
    g'.Accounted graph types where
  tracks := hsame.canon ▸ h.tracks
  labelled := by
    rw [hsame.canon]
    exact h.labelled.of_eq hsame.canon hsame.rows hsame.shapeOf

/-- Beside the shape that it asks for, a call makes converters and exports only. -/
theorem Settled.run_of_ok {id : ShapeId} (hg : Settled graph roots g) {call : Call}
    (hid : (Generator.shape graph call.type g).1 = .ok id) :
    (call.run graph g).1.isOk = true ∧
      (Generator.shape graph call.type g).2.SameShapes (call.run graph g).2 := by
  cases call with
  | shape type =>
    rw [Call.run, show (Generator.shape graph type g).1 = .ok id from hid]
    exact ⟨rfl, rfl, rfl, rfl⟩
  | add type direction =>
    obtain ⟨⟨n, hn⟩, hsame⟩ := hg.add_of_ok type direction hid
    rw [Call.run, hn]
    exact ⟨rfl, hsame⟩
  | request r =>
    obtain ⟨⟨n, hn⟩, hsame⟩ := hg.add_of_ok r.type r.direction hid
    rw [Call.run, request, bind_apply, hn]
    exact ⟨rfl, hsame.trans (sameShapes_addExport _ _)⟩

theorem accounted_after (hunique : graph.UniqueNames) {calls : List Call}
    (hcalls : ∀ call ∈ calls, call.type ∈ types) (h : g.Accounted graph types)
    (hg : Settled graph roots g)
    (hok : ∀ p ∈ Session.answers graph (calls.map Call.type) g.canon, ∃ id, p.2 = .ok id) :
    Succeeds graph calls g ∧
      (after graph calls g).canon = Session.after graph (calls.map Call.type) g.canon ∧
      (after graph calls g).Accounted graph types := by
  induction calls generalizing roots g with
  | nil => exact ⟨trivial, rfl, h⟩
  | cons call rest ih =>
    obtain ⟨htype, hrest⟩ := List.forall_mem_cons.1 hcalls
    obtain ⟨⟨c, hrun⟩, hok⟩ := List.forall_mem_cons.1 hok
    obtain ⟨⟨id, hid⟩, hcanon, hshape⟩ := h.shape hunique hg htype hrun
    obtain ⟨hcall, hsame⟩ := hg.run_of_ok hid
    obtain ⟨_, _, hsettled, _⟩ := settled_call hg hcall
    rw [← hcanon, ← hsame.canon] at hok
    obtain ⟨hsucceeds, hlast, haccounted⟩ := ih hrest (hshape.of_sameShapes hsame) hsettled hok
    refine ⟨⟨hcall, hsucceeds⟩, ?_, haccounted⟩
    rw [after, hlast, hsame.canon, hcanon]
    rfl

/-! ### Bindings -/

/-- Each shape is called as a canonical type is written, and the names of structs in its name are
among the aliases of the bindings. -/
def NamesKnown (g : Generator) : Prop :=
  ∀ id shape, g.finish.shapes.get? id = some shape → ∃ c, (c, id) ∈ g.shapeOf ∧
    shape.name = g.canon.typeString c ∧
      ∀ name, g.canon.Writes c name →
        name.toList <:+: shape.name.toList ∧ name ∈ g.finish.aliases.map (·.1)

theorem Accounted.namesKnown (h : g.Accounted graph types) (hg : Settled graph roots g) :
    g.NamesKnown := by
  intro id shape hshape
  obtain ⟨row, hrow, rfl⟩ :=
    Option.map_eq_some_iff.1 ((get?_shapeTable g id).symm.trans hshape)
  obtain ⟨c, hc⟩ := hg.tabled.exists_type (Array.getElem?_eq_some_iff.1 hrow).1
  obtain ⟨kind, hlabel⟩ := h.labelled.rows _ hc
  cases hrow.symm.trans hlabel
  refine ⟨c, hc, rfl, fun name hwrites => ⟨hwrites.occurs hg.canon.interned, ?_⟩⟩
  exact Session.mem_map_sortedAliases_iff.2
    (h.tracks.mem_of_writes hg.canon.interned (h.labelled.enlisted _ hc) hwrites)

/-- The aliases that calls for `types` leave, in a session alone and in bindings. -/
structure Catalogue (graph : TypeGraph) (types : List TypeId) : Prop where
  registry : Session.Registry graph types (Session.after graph types .empty)
  /-- The order of the calls does not matter, nor how often each comes. -/
  order : ∀ types', (∀ type, type ∈ types' ↔ type ∈ types) →
    (∀ p ∈ Session.answers graph types' .empty, ∃ id, p.2 = .ok id) →
    (Session.after graph types' .empty).sortedAliases =
      (Session.after graph types .empty).sortedAliases
  /-- Whatever is asked of the generator for these types. -/
  bindings : ∀ calls, calls.map Call.type = types → Succeeds graph calls empty ∧
    (after graph calls empty).finish.aliases = (Session.after graph types .empty).sortedAliases ∧
    (after graph calls empty).NamesKnown

/-- The aliases are those of the structs in their place, however these were met: as bodies of named
types before or after, behind aliases, and through nodes of their own or shared ones. -/
theorem catalogue_of_answers (hunique : graph.UniqueNames)
    (hok : ∀ p ∈ Session.answers graph types .empty, ∃ id, p.2 = .ok id)
    (hfree : (Session.after graph types .empty).CollisionFree) : Catalogue graph types where
  registry := (Session.accounts_after_empty hunique hok).catalogued hfree
  order types' hsame hok' := Session.sortedAliases_after_eq hunique hsame hok hok' hfree
  bindings calls hcalls := by
    subst hcalls
    have hempty := settled_empty graph
    obtain ⟨hsucceeds, hcanon, haccounted⟩ := accounted_after hunique
      (fun call hcall => List.mem_map_of_mem hcall)
      (accounted_empty graph (calls.map Call.type)) hempty hok
    refine ⟨hsucceeds, ?_, haccounted.namesKnown (settled_after hempty hsucceeds).1⟩
    show (after graph calls empty).canon.sortedAliases = _
    rw [hcanon]
    rfl

/-- The struct at 1 is the body of a named type and stands in a slice as well, that at 4 is the body of
a named type only, and that at 8 stands behind an alias. -/
def atlas : TypeGraph where
  nodes := #[.int 64 .signed, .struct [⟨"x", 0⟩], .named "atlas.Point" (some 1) [], .slice 1,
    .struct [⟨"to", 5⟩, ⟨"at", 2⟩], .pointer 6, .named "atlas.Edge" (some 4) [],
    .aliasOf "atlas.Path" 8, .struct [⟨"first", 6⟩, ⟨"points", 3⟩]]
  names := [("atlas.Point", 2), ("atlas.Edge", 6), ("atlas.Path", 7)]

theorem uniqueNames_atlas : atlas.UniqueNames := by
  have hnamed : ∀ id name, atlas.IsNamed id name →
      id = 2 ∧ name = "atlas.Point" ∨ id = 6 ∧ name = "atlas.Edge" := by
    rintro id name ⟨body, typeParams, hnode⟩
    match id with
    | 2 => cases hnode; exact .inl ⟨rfl, rfl⟩
    | 6 => cases hnode; exact .inr ⟨rfl, rfl⟩
    | 0 | 1 | 3 | 4 | 5 | 7 | 8 | _ + 9 => cases hnode
  intro a b name ha hb
  rcases hnamed a name ha with ⟨rfl, rfl⟩ | ⟨rfl, rfl⟩ <;>
    rcases hnamed b _ hb with ⟨rfl, hname⟩ | ⟨rfl, hname⟩
  · rfl
  · exact absurd hname (by decide)
  · exact absurd hname (by decide)
  · rfl

theorem catalogue_of_answers_atlas : Catalogue atlas [6, 7, 2] ∧
    (Session.after atlas [6, 7, 2] .empty).aliases.length = 2 ∧
    ∀ p ∈ (Session.after atlas [6, 7, 2] .empty).aliases,
      p.2 ≠ "to *atlas.Edge;at atlas.Point;" := by
  have hanswers : Session.answers atlas [6, 7, 2] .empty =
      [(6, .ok 0), (7, .ok 7), (2, .ok 2)] := by decide +kernel
  have hfree : (Session.after atlas [6, 7, 2] .empty).CollisionFree := by decide +kernel
  refine ⟨catalogue_of_answers uniqueNames_atlas ?_ hfree, by decide +kernel⟩
  rw [hanswers]
  simp

end Generator
end ScriptBind
