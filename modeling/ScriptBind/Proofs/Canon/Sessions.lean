import ScriptBind.Proofs.Canon.Traversal

/-!
# ScriptBind.Proofs.Canon.Sessions

Calls one after the other, each from the session that the last one left, also if that one failed.

* `Session.answers`, `Session.after` - what the calls give, and the session that they leave.
* `Session.represents_of_mem_answers` - each answer has the tree of its node, in the last session.
* `Session.eq_iff_of_mem_answers` - two answers are equal exactly if the nodes mean the same.
* `Session.normalize_ne_endless` - the bound of the recursion is high enough.
-/

namespace ScriptBind
namespace Session

open CanonM (Meets)

/-- The nodes asked for, in their order, each with its answer. -/
def answers (g : TypeGraph) : List TypeId → Session → List (TypeId × Except CanonError CanonId)
  | [], _ => []
  | type :: rest, s => (type, (normalize g type s).1) :: answers g rest (normalize g type s).2

def after (g : TypeGraph) : List TypeId → Session → Session
  | [], s => s
  | type :: rest, s => after g rest (normalize g type s).2

variable {g : TypeGraph} {s : Session} {types : List TypeId} {type : TypeId} {id : CanonId}

theorem meets_normalize (type : TypeId) (hs : s.Valid g) : Meets g s (normalize g type)
    (fun e => e.Justified g ((g.size + 1) * (g.size + 1)) s type)
    fun id s' => s'.Represents g type id :=
  meets_normalizeIn g _ true type s hs

theorem valid_after (types : List TypeId) (hs : s.Valid g) : (after g types s).Valid g := by
  induction types generalizing s with
  | nil => exact hs
  | cons type rest ih => exact ih (meets_normalize type hs).valid

theorem extends_after (types : List TypeId) (hs : s.Valid g) : s.Extends (after g types s) := by
  induction types generalizing s with
  | nil => exact .refl s
  | cons type rest ih =>
    have hstep := meets_normalize type hs
    exact hstep.extend.trans (ih hstep.valid)

theorem represents_of_mem_answers (hs : s.Valid g) (h : (type, .ok id) ∈ answers g types s) :
    (after g types s).Represents g type id := by
  induction types generalizing s with
  | nil => cases h
  | cons next rest ih =>
    have hstep := meets_normalize next hs
    rcases List.mem_cons.1 h with h | h
    · obtain ⟨rfl, hok⟩ := Prod.mk.inj h
      exact (hstep.ok id hok.symm).2.mono hstep.valid.interned
        (valid_after rest hstep.valid).interned (extends_after rest hstep.valid)
    · exact ih hstep.valid h

/-- Whatever the graph, whatever else was asked for and whatever failed: a node that has a canonical
type has exactly one tree, and two of them have the same canonical type if and only if they have the
same tree. -/
theorem eq_iff_of_mem_answers {a b : TypeId} {ida idb : CanonId}
    (ha : (a, .ok ida) ∈ answers g types .empty) (hb : (b, .ok idb) ∈ answers g types .empty) :
    ∃ u v, (∀ w, g.Unfolds a w ↔ w = u) ∧ (∀ w, g.Unfolds b w ↔ w = v) ∧
      (ida = idb ↔ u = v) := by
  have hvalid := valid_after types (valid_empty g)
  obtain ⟨hida, hua, _⟩ := represents_of_mem_answers (valid_empty g) ha
  obtain ⟨hidb, hub, _⟩ := represents_of_mem_answers (valid_empty g) hb
  refine ⟨_, _, fun w => ⟨fun h => h.unique hua, fun h => h ▸ hua⟩,
    fun w => ⟨fun h => h.unique hub, fun h => h ▸ hub⟩, fun h => by rw [h], ?_⟩
  exact hvalid.interned.eq_of_unfold_eq hida hidb

/-- A function over an alias, and a method whose receiver is what the alias stands for. -/
def dimmer : TypeGraph where
  nodes := #[.bool, .aliasOf "dimmer.Flag" 0, .interface [],
    .func ⟨[⟨some "on", 1⟩, ⟨some "level", 2⟩], [], false, none, ["L"]⟩,
    .func ⟨[⟨none, 2⟩], [], false, some ⟨0, ["L"]⟩, []⟩,
    .slice 3]
  names := [("dimmer.Flag", 1)]

/-- No node is at position 7. -/
theorem eq_iff_of_mem_answers_dimmer :
    (3, .ok 2) ∈ answers dimmer [5, 7, 4, 3] .empty ∧
    (4, .ok 2) ∈ answers dimmer [5, 7, 4, 3] .empty ∧
    ∃ u v, (∀ w, dimmer.Unfolds 3 w ↔ w = u) ∧ (∀ w, dimmer.Unfolds 4 w ↔ w = v) ∧
      ((2 : CanonId) = 2 ↔ u = v) := by
  have hfunc : (3, .ok 2) ∈ answers dimmer [5, 7, 4, 3] .empty := by decide +kernel
  have hmethod : (4, .ok 2) ∈ answers dimmer [5, 7, 4, 3] .empty := by decide +kernel
  exact ⟨hfunc, hmethod, eq_iff_of_mem_answers hfunc hmethod⟩

/-! ### The bound of the recursion -/

theorem pending_le_size (g : TypeGraph) (s : Session) : g.pending s ≤ g.size := by
  classical
  exact (Finset.card_filter_le _ _).trans_eq (Finset.card_range g.size)

/-- If every cycle of the graph passes through a named type, the recursion ends by itself. -/
theorem normalize_ne_endless (hguarded : ∀ id, ¬ Relation.TransGen g.Inside id id) (hs : s.Valid g)
    (id : TypeId) : (normalize g type s).1 ≠ .error (.endless id) := by
  intro h
  have hle := (meets_normalize type hs).error _ h g.height (fun a b => TypeGraph.height_lt hguarded)
    (TypeGraph.height_le_size hguarded)
  have hheight := TypeGraph.height_le_size hguarded type
  have hpending := Nat.mul_le_mul_right (g.size + 1) (pending_le_size g s)
  rw [Nat.succ_mul] at hle
  omega

end Session
end ScriptBind
