import ScriptBind.Proofs.Binding.Standing

/-!
# ScriptBind.Proofs.Binding.Runs

Calls of a generator, one after the other.

* `Generator.Call` - what a generator can be asked for.
* `Generator.after`, `Generator.Succeeds` - a run, and that nothing in it fails.
* `Generator.requested` - the converters that a run asks for.
* `Generator.ends_after` - a run leads from one standing state to another, also if calls fail.
* `Generator.Settled` - what holds between two calls of which none has failed.
* `Generator.settled_after` - what holds after a run.
* `Generator.represents_of_mem_shapesAsked` - which shapes a run gives for the nodes asked for.
-/

namespace ScriptBind

open Relation (ReflTransGen)

theorem Session.Keeps.extends {s s' : Session} (h : s.Keeps s') : s.Extends s' :=
  fun id kind hid => ⟨kind, h id kind hid, rfl⟩

/-! ### Rules that are added -/

namespace Generator

variable {graph : TypeGraph} {g g' : Generator} {key key' : ConverterKey}

theorem needs_mono (hrules : ∀ id kind, g.kindOf? id = some kind → g'.kindOf? id = some kind)
    (h : Needs g.kindOf? key key') : Needs g'.kindOf? key key' := by
  obtain ⟨⟨kind, hkind, hneeds⟩, kind', hkind', hout⟩ := h
  exact ⟨⟨kind, hrules _ _ hkind, hneeds⟩, kind', hrules _ _ hkind', hout⟩

/-- What a converter calls is fixed once its rule is there. -/
theorem needs_iff (hg : g.Complete)
    (hrules : ∀ id kind, g.kindOf? id = some kind → g'.kindOf? id = some kind)
    (hkey : key.1 < g.rows.size) : Needs g'.kindOf? key key' ↔ Needs g.kindOf? key key' := by
  refine ⟨?_, needs_mono hrules⟩
  rintro ⟨⟨kind, hkind, hneeds⟩, kind', hkind', hout⟩
  obtain ⟨rule, hrule, hbelow⟩ := hg key.1 hkey
  cases (hrules _ _ hrule).symm.trans hkind
  have hlt := hbelow _ (mem_refs_of_mem_dependencies (mem_dependencies_iff.2 hneeds))
  obtain ⟨rule', hrule', _⟩ := hg key'.1 hlt
  cases (hrules _ _ hrule').symm.trans hkind'
  exact ⟨⟨kind, hrule, hneeds⟩, kind', hrule', hout⟩

theorem Wired.of_rules {e : ConverterEntry} (h : g.Wired e) (hg : g.Complete)
    (hrules : ∀ id kind, g.kindOf? id = some kind → g'.kindOf? id = some kind)
    (he : e.shape < g.rows.size) (hentries : g'.entries = g.entries) : g'.Wired e where
  ascending := h.ascending
  needed id hid := by
    obtain ⟨key, hkey, hneeds⟩ := h.needed id hid
    exact ⟨key, by rw [keyOf?, hentries, ← keyOf?, hkey], needs_mono hrules hneeds⟩
  covered key hkey := by
    obtain ⟨id, hid, hsome⟩ := h.covered key ((needs_iff hg hrules he).1 hkey)
    exact ⟨id, hid, by rw [keyOf?, hentries, ← keyOf?, hsome]⟩

/-! ### Steps -/

theorem bind_apply {α β : Type} (m : GenM α) (k : α → GenM β) (g : Generator) :
    (m >>= k) g = k (m g).1 (m g).2 := rfl

section Shape

variable {type : TypeId} {c : CanonId} {e : CanonError}

theorem shape_of_ok (h : (canonical graph type g).1 = .ok c) : shape graph type g =
    (.ok (shapeFor c (canonical graph type g).2).1, (shapeFor c (canonical graph type g).2).2) := by
  rw [shape, bind_apply, h]
  rfl

theorem shape_of_error (h : (canonical graph type g).1 = .error e) :
    shape graph type g = (.error e, (canonical graph type g).2) := by
  rw [shape, bind_apply, h]
  rfl

end Shape

/-! ### Between two calls -/

/-- Nothing is being made or waits, and the converters are those that `roots` call, at any depth. -/
structure Settled (graph : TypeGraph) (roots : List ConverterKey) (g : Generator) : Prop where
  canon : g.canon.Valid graph
  resolved : ∀ name, ¬ g.canon.Unresolved name
  sound : g.Sound
  tabled : g.Tabled
  complete : g.Complete
  keyed : g.Keyed
  wired : ∀ e ∈ g.entries, g.Wired e
  requested : ∀ key ∈ roots, ∃ id, g.keyOf? id = some key
  reached : ∀ e ∈ g.entries, ∃ root ∈ roots, ReflTransGen (Needs g.kindOf?) root e.key

/-- No type, no row and no rule is lost. -/
structure Advances (g g' : Generator) : Prop where
  canon : g.canon.Keeps g'.canon
  shapeOf : ∀ p ∈ g.shapeOf, p ∈ g'.shapeOf
  rules : ∀ id kind, g.kindOf? id = some kind → g'.kindOf? id = some kind

theorem Advances.of_eq (hcanon : g'.canon = g.canon) (hrows : g'.rows = g.rows)
    (hshapeOf : g'.shapeOf = g.shapeOf) : g.Advances g' where
  canon _ _ hid := hcanon ▸ hid
  shapeOf _ hp := hshapeOf ▸ hp
  rules _ _ hid := kindOf?_congr hrows ▸ hid

theorem Advances.refl (g : Generator) : g.Advances g := .of_eq rfl rfl rfl

theorem Retains.advances (h : g.Retains g') : g.Advances g' :=
  ⟨h.canon, h.shapeOf, fun _ _ => kindOf?_of_rows h.rows⟩

theorem Advances.trans {g'' : Generator} (h : g.Advances g') (h' : g'.Advances g'') :
    g.Advances g'' where
  canon id kind hid := h'.canon id kind (h.canon id kind hid)
  shapeOf p hp := h'.shapeOf p (h.shapeOf p hp)
  rules id kind hid := h'.rules id kind (h.rules id kind hid)

variable {roots : List ConverterKey}

theorem settled_empty (graph : TypeGraph) : Settled graph [] empty where
  canon := Session.valid_empty graph
  resolved name := by
    rintro ⟨id, hid⟩
    simp [Session.kind?, Session.empty, empty] at hid
  sound := sound_empty
  tabled := {
    canon := (Session.valid_empty graph).bounded
    types := fun p hp => by simp [empty] at hp
    nodup := by simp [empty]
    ids := by simp [empty]
    justified := fun p hp => by simp [empty] at hp }
  complete id hid := by simp [empty] at hid
  keyed := ⟨fun id e he => by simp [empty] at he, by simp [empty]⟩
  wired e he := by simp [empty] at he
  requested key hkey := by simp at hkey
  reached e he := by simp [empty] at he

namespace Settled

variable (h : Settled graph roots g)

include h

theorem standing : g.Standing graph := ⟨h.canon, h.sound, h.tabled, h.complete, h.keyed⟩

theorem shape_lt {e : ConverterEntry} (he : e ∈ g.entries) : e.shape < g.rows.size :=
  h.sound.entries _ (List.mem_map_of_mem (Array.mem_toList_iff.2 he))

theorem of_eq (hcanon : g'.canon = g.canon) (hrows : g'.rows = g.rows)
    (hshapeOf : g'.shapeOf = g.shapeOf) (hentries : g'.entries = g.entries) (hsound : g'.Sound) :
    Settled graph roots g' := by
  have hstanding := (h.standing.of_eq hcanon hrows hshapeOf hentries hsound).standing
  refine { hstanding with
    resolved := hcanon ▸ h.resolved
    wired := fun e he => ?_
    requested := fun key hkey => ?_
    reached := fun e he => ?_ }
  · exact (h.wired e (hentries ▸ he)).mono
      (fun id key hkey => by rw [keyOf?, hentries, ← keyOf?, hkey]) (kindOf?_congr hrows)
  · obtain ⟨id, hid⟩ := h.requested key hkey
    exact ⟨id, by rw [keyOf?, hentries, ← keyOf?, hid]⟩
  · rw [kindOf?_congr hrows]
    exact h.reached e (hentries ▸ he)

/-- The session alone knows more types. -/
theorem canonical {type : TypeId} {c : CanonId}
    (hok : (Session.normalize graph type g.canon).1 = .ok c) :
    Settled graph roots { g with canon := (Session.normalize graph type g.canon).2 } ∧
      (Session.normalize graph type g.canon).2.Represents graph type c := by
  obtain ⟨hgrows, hrep⟩ := (Session.meets_normalize type h.canon).ok c hok
  have hstanding := (h.standing.canonical type).standing
  refine ⟨{ hstanding with
    resolved := fun name hname => h.resolved name (hgrows.unresolved name hname)
    wired := fun e he => (h.wired e he).mono (fun _ _ hkey => hkey) rfl
    requested := h.requested
    reached := h.reached }, hrep⟩

theorem shapeFor {c : CanonId} (hc : c < g.canon.size) :
    Settled graph roots (shapeFor c g).2 ∧ g.Advances (Generator.shapeFor c g).2 ∧
      (c, (Generator.shapeFor c g).1) ∈ (Generator.shapeFor c g).2.shapeOf := by
  obtain ⟨_, hmade, hid⟩ := builds_shapeFor h.tabled hc fun p => h.standing.not_pending
  obtain ⟨hends, _⟩ := h.standing.shapeFor hc
  have hadvances := hends.retains.advances
  refine ⟨{ hends.standing with
    resolved := hmade.canon ▸ h.resolved
    wired := fun e he => ?_
    requested := fun key hkey => ?_
    reached := fun e he => ?_ }, hadvances, hid⟩
  · have he := hmade.entries ▸ he
    exact (h.wired e he).of_rules h.complete hadvances.rules (h.shape_lt he) hmade.entries
  · obtain ⟨id, hid⟩ := h.requested key hkey
    exact ⟨id, by rw [keyOf?, hmade.entries, ← keyOf?, hid]⟩
  · obtain ⟨root, hroot, hreach⟩ := h.reached e (hmade.entries ▸ he)
    exact ⟨root, hroot, hreach.lift id fun _ _ => needs_mono hadvances.rules⟩

theorem shape {type : TypeId} {id : ShapeId} (hok : (Generator.shape graph type g).1 = .ok id) :
    Settled graph roots (Generator.shape graph type g).2 ∧
      g.Advances (Generator.shape graph type g).2 ∧ ∃ c,
        (Generator.shape graph type g).2.canon.Represents graph type c ∧
        (c, id) ∈ (Generator.shape graph type g).2.shapeOf := by
  have hcanonical : (Generator.canonical graph type g).1 =
      (Session.normalize graph type g.canon).1 := rfl
  cases hresult : (Session.normalize graph type g.canon).1 with
  | error e =>
    rw [shape_of_error (hcanonical.trans hresult)] at hok
    cases hok
  | ok c =>
    obtain ⟨hcanon, hrep⟩ := h.canonical hresult
    obtain ⟨hsettled, hadvances, hid⟩ := hcanon.shapeFor hrep.lt_size
    rw [shape_of_ok (hcanonical.trans hresult)] at hok ⊢
    cases hok
    have hkeeps := Session.keeps_normalize graph type g.canon
    refine ⟨hsettled, ⟨fun i kind hi => hadvances.canon i kind (hkeeps i kind hi),
      hadvances.shapeOf, hadvances.rules⟩, c, ?_, hid⟩
    exact hrep.mono hcanon.canon.interned hsettled.canon.interned hadvances.canon.extends

theorem entryFor {id : ShapeId} (hid : id < g.rows.size) (direction : Direction) :
    Settled graph (roots ++ [(id, direction)]) (entryFor id direction g).2 ∧
      g.Advances (Generator.entryFor id direction g).2 := by
  obtain ⟨_, hlinked, hsome⟩ := enters_entryFor (id, direction) h.keyed h.complete hid
  have hends := h.standing.entryFor hid direction
  have hrules := kindOf?_congr hlinked.rows
  have hcases : ∀ e ∈ (Generator.entryFor id direction g).2.entries, e ∈ g.entries ∨
      (Generator.entryFor id direction g).2.Wired e ∧
        ReflTransGen (Needs g.kindOf?) (id, direction) e.key := by
    intro e he
    obtain ⟨i, hlt, hi⟩ := Array.getElem_of_mem he
    have hi : (Generator.entryFor id direction g).2.entries[i]? = some e :=
      (Array.getElem?_eq_getElem hlt).trans (congrArg some hi)
    rcases Nat.lt_or_ge i g.entries.size with hold | hnew
    · have heq := hlinked.entries i _ (Array.getElem?_eq_getElem hold)
      cases hi.symm.trans heq
      exact .inl (Array.getElem_mem hold)
    · exact .inr (hlinked.new i e hnew hi)
  refine ⟨{ hends.standing with
    resolved := hlinked.canon ▸ h.resolved
    wired := fun e he => ?_
    requested := fun key hkey => ?_
    reached := fun e he => ?_ }, hends.retains.advances⟩
  · rcases hcases e he with hold | hnew
    · exact (h.wired e hold).mono (fun _ _ => hlinked.keyOf?) hrules
    · exact hnew.1
  · rcases List.mem_append.1 hkey with hkey | hkey
    · obtain ⟨i, hi⟩ := h.requested key hkey
      exact ⟨i, hlinked.keyOf? hi⟩
    · rw [List.mem_singleton.1 hkey]
      exact ⟨_, hsome⟩
  · rw [hrules]
    rcases hcases e he with hold | hnew
    · obtain ⟨root, hroot, hreach⟩ := h.reached e hold
      exact ⟨root, List.mem_append_left _ hroot, hreach⟩
    · exact ⟨_, List.mem_append_right _ (List.mem_singleton_self _), hnew.2⟩

theorem add {type : TypeId} {direction : Direction}
    (hok : (add graph type direction g).1.isOk = true) :
    ∃ id, (Generator.shape graph type g).1 = .ok id ∧
      Settled graph (roots ++ [(id, direction)]) (Generator.add graph type direction g).2 ∧
      (Generator.shape graph type g).2.Advances (Generator.add graph type direction g).2 := by
  rw [Generator.add, bind_apply] at hok ⊢
  cases hresult : (Generator.shape graph type g).1 with
  | error e =>
    rw [hresult] at hok
    cases hok
  | ok id =>
    obtain ⟨hsettled, _, c, _, hid⟩ := h.shape hresult
    obtain ⟨hsettled', hadvances⟩ := hsettled.entryFor (hsettled.tabled.lt_size hid) direction
    exact ⟨id, rfl, hsettled', hadvances⟩

theorem addExport (e : Export) :
    Settled graph roots (g.addExport e) ∧ g.Advances (g.addExport e) := by
  have hfields : (g.addExport e).canon = g.canon ∧ (g.addExport e).rows = g.rows ∧
      (g.addExport e).shapeOf = g.shapeOf ∧ (g.addExport e).entries = g.entries := by
    rw [Generator.addExport]
    split <;> exact ⟨rfl, rfl, rfl, rfl⟩
  obtain ⟨hcanon, hrows, hshapeOf, hentries⟩ := hfields
  exact ⟨h.of_eq hcanon hrows hshapeOf hentries (h.sound.addExport e),
    .of_eq hcanon hrows hshapeOf⟩

end Settled

/-! ### Calls -/

/-- What a generator can be asked for. -/
inductive Call where
  | add (type : TypeId) (direction : Direction)
  | request (r : Request)
  | shape (type : TypeId)

namespace Call

def type : Call → TypeId
  | .add type _ => type
  | .request r => r.type
  | .shape type => type

/-- That of the converter that is asked for, if one is. -/
def direction? : Call → Option Direction
  | .add _ direction => some direction
  | .request r => some r.direction
  | .shape _ => none

def run (graph : TypeGraph) : Call → GenM (Except CanonError Nat)
  | .add type direction => Generator.add graph type direction
  | .request r => Generator.request graph r
  | .shape type => Generator.shape graph type

/-- The shape of the type that is asked for. -/
def shape? (graph : TypeGraph) (g : Generator) (c : Call) : Option ShapeId :=
  (Generator.shape graph c.type g).1.toOption

/-- The converter that is asked for. -/
def key? (graph : TypeGraph) (g : Generator) (c : Call) : Option ConverterKey := do
  return (← c.shape? graph g, ← c.direction?)

end Call

def after (graph : TypeGraph) : List Call → Generator → Generator
  | [], g => g
  | c :: rest, g => after graph rest (c.run graph g).2

/-- No call fails. -/
def Succeeds (graph : TypeGraph) : List Call → Generator → Prop
  | [], _ => True
  | c :: rest, g => (c.run graph g).1.isOk = true ∧ Succeeds graph rest (c.run graph g).2

instance decidableSucceeds (graph : TypeGraph) : ∀ (calls : List Call) (g : Generator),
    Decidable (Succeeds graph calls g)
  | [], _ => inferInstanceAs (Decidable True)
  | c :: rest, g =>
    have := decidableSucceeds graph rest (c.run graph g).2
    inferInstanceAs (Decidable (_ ∧ _))

/-- The converters asked for, in their order. -/
def requested (graph : TypeGraph) : List Call → Generator → List ConverterKey
  | [], _ => []
  | c :: rest, g => (c.key? graph g).toList ++ requested graph rest (c.run graph g).2

/-- The types asked for, in their order, each with its shape. -/
def shapesAsked (graph : TypeGraph) : List Call → Generator → List (TypeId × ShapeId)
  | [], _ => []
  | c :: rest, g =>
    (c.shape? graph g).toList.map (c.type, ·) ++ shapesAsked graph rest (c.run graph g).2

/-! ### Calls that may fail -/

namespace Standing

variable (h : g.Standing graph)

include h

theorem shape (type : TypeId) : Ends graph g (shape graph type g).2 ∧
    ∀ id, (Generator.shape graph type g).1 = .ok id →
      id < (Generator.shape graph type g).2.rows.size := by
  have hcanonical := h.canonical type
  cases hresult : (Generator.canonical graph type g).1 with
  | error e =>
    rw [shape_of_error hresult]
    exact ⟨hcanonical, nofun⟩
  | ok c =>
    obtain ⟨hends, hlt⟩ := hcanonical.standing.shapeFor (h.canonical_lt hresult)
    rw [shape_of_ok hresult]
    refine ⟨hcanonical.trans hends, fun id hid => ?_⟩
    cases hid
    exact hlt

theorem add (type : TypeId) (direction : Direction) :
    Ends graph g (add graph type direction g).2 := by
  obtain ⟨hshape, hlt⟩ := h.shape type
  rw [Generator.add, bind_apply]
  cases hresult : (Generator.shape graph type g).1 with
  | error e => exact hshape
  | ok id => exact hshape.trans (hshape.standing.entryFor (hlt id hresult) direction)

theorem request (r : Request) : Ends graph g (request graph r g).2 := by
  have hadd := h.add r.type r.direction
  rw [Generator.request, bind_apply]
  cases (Generator.add graph r.type r.direction g).1 with
  | error e => exact hadd
  | ok n =>
    have hexport : ∀ e : Export, Ends graph (Generator.add graph r.type r.direction g).2
        ((Generator.add graph r.type r.direction g).2.addExport e) := fun e => by
      refine hadd.standing.of_eq ?_ ?_ ?_ ?_ (hadd.standing.sound.addExport e) <;>
        (rw [addExport]; split <;> rfl)
    exact hadd.trans (hexport _)

theorem run (c : Call) : Ends graph g (c.run graph g).2 := by
  cases c with
  | add type direction => exact h.add type direction
  | request r => exact h.request r
  | shape type => exact (h.shape type).1

end Standing

theorem ends_after (h : g.Standing graph) (calls : List Call) :
    Ends graph g (after graph calls g) := by
  induction calls generalizing g with
  | nil => exact ⟨h, .refl g⟩
  | cons c rest ih => exact (h.run c).trans (ih (h.run c).standing)

/-! ### Calls of which none fails -/

variable {calls : List Call}

theorem settled_call (h : Settled graph roots g) {c : Call}
    (hok : (c.run graph g).1.isOk = true) :
    ∃ id, (shape graph c.type g).1 = .ok id ∧
      Settled graph (roots ++ (c.key? graph g).toList) (c.run graph g).2 ∧
      (shape graph c.type g).2.Advances (c.run graph g).2 := by
  cases c with
  | add type direction =>
    obtain ⟨id, hid, hsettled, hadvances⟩ := h.add hok
    have hkey : (Call.add type direction).key? graph g = some (id, direction) := by
      rw [Call.key?, Call.shape?, Call.type, hid]
      rfl
    exact ⟨id, hid, hkey ▸ hsettled, hadvances⟩
  | request r =>
    rw [Call.run, request, bind_apply] at hok ⊢
    cases hresult : (add graph r.type r.direction g).1 with
    | error e =>
      rw [hresult] at hok
      cases hok
    | ok n =>
      obtain ⟨id, hid, hsettled, hadvances⟩ := h.add (congrArg Except.isOk hresult)
      have hkey : (Call.request r).key? graph g = some (id, r.direction) := by
        rw [Call.key?, Call.shape?, Call.type, hid]
        rfl
      rw [hkey]
      obtain ⟨hexport, hadvances'⟩ := hsettled.addExport
        ⟨r.label, (add graph r.type r.direction g).2.entryShape n, r.direction, n⟩
      exact ⟨id, hid, hexport, hadvances.trans hadvances'⟩
  | shape type =>
    cases hresult : (shape graph type g).1 with
    | error e =>
      rw [Call.run, hresult] at hok
      cases hok
    | ok id =>
      obtain ⟨hsettled, _⟩ := h.shape hresult
      have hkey : (Call.shape type).key? graph g = none := by
        rw [Call.key?, Call.shape?, Call.type, hresult]
        rfl
      refine ⟨id, hresult, ?_, .refl _⟩
      rw [hkey]
      exact (List.append_nil roots).symm ▸ hsettled

theorem settled_after (h : Settled graph roots g) (hok : Succeeds graph calls g) :
    Settled graph (roots ++ requested graph calls g) (after graph calls g) ∧
      g.Advances (after graph calls g) := by
  induction calls generalizing roots g with
  | nil =>
    exact ⟨(List.append_nil roots).symm ▸ h, .refl g⟩
  | cons c rest ih =>
    obtain ⟨hcall, hrest⟩ := hok
    obtain ⟨id, hid, hsettled, hadvances⟩ := settled_call h hcall
    obtain ⟨hsettled', hadvances'⟩ := ih hsettled hrest
    rw [List.append_assoc] at hsettled'
    exact ⟨hsettled', ((h.shape hid).2.1.trans hadvances).trans hadvances'⟩

/-- The shape that a run gives for a node is that of the canonical type of the node. -/
theorem represents_of_mem_shapesAsked (h : Settled graph roots g) (hok : Succeeds graph calls g)
    {p : TypeId × ShapeId} (hp : p ∈ shapesAsked graph calls g) :
    ∃ c, (after graph calls g).canon.Represents graph p.1 c ∧
      (c, p.2) ∈ (after graph calls g).shapeOf := by
  induction calls generalizing roots g with
  | nil => cases hp
  | cons call rest ih =>
    obtain ⟨hcall, hrest⟩ := hok
    obtain ⟨id, hid, hsettled, hadvances⟩ := settled_call h hcall
    rcases List.mem_append.1 hp with hp | hp
    · rw [Call.shape?, hid] at hp
      cases List.mem_singleton.1 hp
      obtain ⟨hshape, _, c, hrep, hc⟩ := h.shape hid
      obtain ⟨hlast, hrun⟩ := settled_after hsettled hrest
      have hlater := hadvances.trans hrun
      exact ⟨c, hrep.mono hshape.canon.interned hlast.canon.interned hlater.canon.extends,
        hlater.shapeOf _ hc⟩
    · exact ih hsettled hrest hp

end Generator
end ScriptBind
