import ScriptBind.Proofs.Binding.Entries
import ScriptBind.Proofs.Binding.Shapes

/-!
# ScriptBind.Proofs.Binding.Standing

A generator between two calls, of which some may have failed. Whatever a call has entered stays as
it is.

* `Generator.Standing` - what holds between two calls.
* `Generator.Retains` - a later state in which nothing is lost or changed.
* `Generator.Ends` - a step that leads from one such state to another.
* `Generator.Standing.canonical`, `Generator.Standing.shapeFor`, `Generator.Standing.entryFor` - the
  parts of a call are such steps.
-/

namespace ScriptBind
namespace Generator

variable {graph : TypeGraph} {g g' g'' : Generator}

/-! ### Between two calls -/

/-- Nothing is being made. A named type may have been left without what is behind it. -/
structure Standing (graph : TypeGraph) (g : Generator) : Prop where
  canon : g.canon.Valid graph
  sound : g.Sound
  tabled : g.Tabled
  complete : g.Complete
  keyed : g.Keyed

/-- No type, row or converter is lost, and none is changed. -/
structure Retains (g g' : Generator) : Prop where
  canon : g.canon.Keeps g'.canon
  shapeOf : ∀ p ∈ g.shapeOf, p ∈ g'.shapeOf
  rows : ∀ (id : ShapeId) row, g.rows[id]? = some row → g'.rows[id]? = some row
  entries : ∀ (id : ConverterId) e, g.entries[id]? = some e → g'.entries[id]? = some e

theorem Retains.of_eq (hcanon : g.canon.Keeps g'.canon) (hrows : g'.rows = g.rows)
    (hshapeOf : g'.shapeOf = g.shapeOf) (hentries : g'.entries = g.entries) : g.Retains g' where
  canon := hcanon
  shapeOf _ hp := hshapeOf ▸ hp
  rows _ _ hrow := hrows ▸ hrow
  entries _ _ he := hentries ▸ he

theorem Retains.refl (g : Generator) : g.Retains g := .of_eq (fun _ _ h => h) rfl rfl rfl

theorem Retains.trans (h : g.Retains g') (h' : g'.Retains g'') : g.Retains g'' where
  canon id kind hid := h'.canon id kind (h.canon id kind hid)
  shapeOf p hp := h'.shapeOf p (h.shapeOf p hp)
  rows id row hrow := h'.rows id row (h.rows id row hrow)
  entries id e he := h'.entries id e (h.entries id e he)

/-- In the later state nothing is being made either. -/
structure Ends (graph : TypeGraph) (g g' : Generator) : Prop where
  standing : g'.Standing graph
  retains : g.Retains g'

theorem Ends.trans (h : Ends graph g g') (h' : Ends graph g' g'') : Ends graph g g'' :=
  ⟨h'.standing, h.retains.trans h'.retains⟩

/-! ### Parts of a call -/

namespace Standing

variable (h : g.Standing graph)

include h

theorem of_eq (hcanon : g'.canon = g.canon) (hrows : g'.rows = g.rows)
    (hshapeOf : g'.shapeOf = g.shapeOf) (hentries : g'.entries = g.entries) (hsound : g'.Sound) :
    Ends graph g g' where
  standing := {
    canon := hcanon ▸ h.canon
    sound := hsound
    tabled := h.tabled.of_eq hcanon hrows hshapeOf
    complete := by
      rw [Complete, kindOf?_congr hrows, hrows]
      exact h.complete
    keyed := ⟨hentries ▸ h.keyed.ids, hentries ▸ h.keyed.nodup⟩ }
  retains := .of_eq (hcanon ▸ fun _ _ hid => hid) hrows hshapeOf hentries

theorem not_pending {c : CanonId} : ¬ g.Pending c := by
  rintro ⟨id, hid, hnone⟩
  obtain ⟨kind, hkind, _⟩ := h.complete id (h.tabled.lt_size hid)
  rw [hnone] at hkind
  cases hkind

/-- The session goes on, and what it has found out stays if the call fails. -/
theorem canonical (type : TypeId) : Ends graph g (canonical graph type g).2 := by
  have hstep := Session.meets_normalize type h.canon
  have hkeeps := Session.keeps_normalize graph type g.canon
  have hsize : g.canon.size ≤ (Session.normalize graph type g.canon).2.size := by
    by_contra hlt
    exact absurd (hstep.extend.lt_size (Nat.lt_of_not_le hlt)) (Nat.lt_irrefl _)
  refine ⟨⟨hstep.valid, (makes_canonical 0 graph type g h.sound (Nat.zero_le _)).1, ?_, h.complete,
    ⟨h.keyed.ids, h.keyed.nodup⟩⟩, .of_eq hkeeps rfl rfl rfl⟩
  exact h.tabled.of_keeps hstep.valid.bounded hsize hkeeps rfl rfl

theorem canonical_lt {type : TypeId} {c : CanonId}
    (hok : (Generator.canonical graph type g).1 = .ok c) :
    c < (Generator.canonical graph type g).2.canon.size :=
  ((Session.meets_normalize type h.canon).ok c hok).2.lt_size

theorem shapeFor {c : CanonId} (hc : c < g.canon.size) : Ends graph g (shapeFor c g).2 ∧
    (Generator.shapeFor c g).1 < (Generator.shapeFor c g).2.rows.size := by
  obtain ⟨htabled, hmade, hid⟩ := builds_shapeFor h.tabled hc fun p => h.not_pending
  have hsound := (makes_shapeFor 0 c g h.sound (Nat.zero_le _)).1
  refine ⟨⟨⟨hmade.canon ▸ h.canon, hsound, htabled, fun id hid => ?_,
    ⟨hmade.entries ▸ h.keyed.ids, hmade.entries ▸ h.keyed.nodup⟩⟩,
    hmade.canon ▸ fun _ _ hid => hid, hmade.shapeOf, hmade.rows,
    fun _ _ he => hmade.entries ▸ he⟩, htabled.lt_size hid⟩
  have hkind : ∃ kind, (Generator.shapeFor c g).2.kindOf? id = some kind := by
    rcases Nat.lt_or_ge id g.rows.size with hlt | hge
    · obtain ⟨kind, hkind, _⟩ := h.complete id hlt
      exact ⟨kind, hmade.later.rules id kind hkind⟩
    · exact hmade.new id hge hid
  obtain ⟨kind, hkind⟩ := hkind
  exact ⟨kind, hkind, hsound.below_of_kindOf? hkind⟩

theorem entryFor {id : ShapeId} (hid : id < g.rows.size) (direction : Direction) :
    Ends graph g (entryFor id direction g).2 := by
  obtain ⟨hkeyed, hlinked, _⟩ := enters_entryFor (id, direction) h.keyed h.complete hid
  have hsound := (makes_entryFor (n := g.rows.size) hid direction g h.sound (Nat.le_refl _)).1
  refine ⟨⟨hlinked.canon ▸ h.canon, hsound,
    h.tabled.of_eq hlinked.canon hlinked.rows hlinked.shapeOf, hlinked.complete h.complete,
    hkeyed⟩, hlinked.canon ▸ fun _ _ hid => hid, fun _ hp => hlinked.shapeOf ▸ hp,
    fun _ _ hrow => hlinked.rows ▸ hrow, hlinked.entries⟩

end Standing
end Generator
end ScriptBind
