import ScriptBind.Proofs.Canon.Indexed
import ScriptBind.Proofs.Canon.Sessions
import ScriptBind.Proofs.Canon.Written

/-!
# ScriptBind.Proofs.Canon.Consistent

What holds of the table and its indices after any calls, also after calls that failed.

* `Session.Completed` - no named type waits for its underlying type.
* `Indexed.Consistent` - the table and its indices fit together.
* `Indexed.consistent_after` - both, after calls one after the other.
-/

namespace ScriptBind

/-! ### Underlying types -/

namespace Session

variable {g : TypeGraph} {s : Session}

/-- Each named type has its underlying type, and this is not a named type: a single step leads from
any type to what it is made of. -/
structure Completed (s : Session) : Prop where
  named : ∀ id name underlying, s.kind? id = some (.named name underlying) →
    ∃ u kind, underlying = some u ∧ s.kind? u = some kind ∧ kind.isNominal = false
  structural : ∀ id < s.size, ∃ kind, s.kind? (s.structural id) = some kind ∧
    kind.isNominal = false

theorem Valid.completed_of_resolved (hs : s.Valid g) (h : ∀ name, ¬ s.Unresolved name) :
    s.Completed := by
  have hnamed : ∀ id name underlying, s.kind? id = some (.named name underlying) →
      ∃ u kind, underlying = some u ∧ s.kind? u = some kind ∧ kind.isNominal = false := by
    intro id name underlying hid
    cases underlying with
    | none => exact absurd ⟨id, hid⟩ (h name)
    | some u =>
      have hu := hs.underlying id name u hid
      obtain ⟨kind, hkind⟩ := exists_kind? hu.lt_size
      exact ⟨u, kind, rfl, hkind, hu.plain kind hkind⟩
  refine ⟨hnamed, fun id hid => ?_⟩
  obtain ⟨kind, hkind⟩ := exists_kind? hid
  by_cases hnominal : kind.isNominal = true
  · cases kind with
    | named name underlying =>
      obtain ⟨u, kind, rfl, hu, hplain⟩ := hnamed id name underlying hkind
      exact ⟨kind, by rw [structural, hkind]; exact hu, hplain⟩
    | _ => cases hnominal
  · have hplain : kind.isNominal = false := by simpa using hnominal
    have hself : s.structural id = id := by
      rw [structural, hkind]
      cases kind with
      | named => cases hplain
      | _ => rfl
    exact ⟨kind, by rw [hself]; exact hkind, hplain⟩

/-- Calls that all succeed leave no further name without its underlying type. -/
theorem grows_after (hs : s.Valid g) {types : List TypeId}
    (hok : ∀ p ∈ answers g types s, ∃ id, p.2 = .ok id) : s.Grows (after g types s) := by
  induction types generalizing s with
  | nil => exact .refl s
  | cons type rest ih =>
    have hmeets := meets_normalize type hs
    obtain ⟨⟨id, hid⟩, hrest⟩ := List.forall_mem_cons.1 hok
    exact (hmeets.ok id hid).1.trans (ih hmeets.valid hrest)

theorem ne_endless_of_mem_answers (hguarded : ∀ id, ¬ Relation.TransGen g.Inside id id)
    (hs : s.Valid g) {types : List TypeId} :
    ∀ p ∈ answers g types s, ∀ type, p.2 ≠ .error (.endless type) := by
  induction types generalizing s with
  | nil => exact List.forall_mem_nil _
  | cons type rest ih =>
    refine List.forall_mem_cons.2 ⟨fun id => normalize_ne_endless hguarded hs id, ?_⟩
    exact ih (meets_normalize type hs).valid

end Session

/-! ### The table and its indices -/

namespace Indexed

variable {g : TypeGraph} {x : Indexed}

structure Consistent (x : Indexed) : Prop where
  distinct : ∀ id id' kind, x.session.kind? id = some kind → x.session.kind? id' = some kind →
    id = id'
  interned : ∀ kind id, x.interned.lookup kind = some id → x.session.kind? id = some kind
  memo : ∀ type id, x.session.memo.lookup type = some id → id < x.session.size
  names : ∀ name id, x.names.lookup name = some id →
    ∃ underlying, x.session.kind? id = some (.named name underlying)
  /-- All positions in a kind are among these, but that of an underlying type. -/
  below : ∀ id kind, x.session.kind? id = some kind → ∀ r ∈ kind.refs, r < id
  spelled : ∀ id < x.session.size, ∀ text,
    x.session.Spells id text ↔ text = x.session.typeString id

/-- What is looked up in an index stands where it says. -/
theorem Sound.kind?_of_lookup (h : x.Sound) {kind : CanonKind} {id : CanonId}
    (hid : x.interned.lookup kind = some id) : x.session.kind? id = some kind := by
  rw [h.interned kind (h.structural _ (mem_of_lookup hid))] at hid
  obtain ⟨hlt, heq, _⟩ := Array.findIdx?_eq_some_iff_getElem.1 hid
  rw [Session.kind?, Array.getElem?_eq_getElem hlt]
  exact congrArg some (of_decide_eq_true heq)

theorem Sound.consistent (h : x.Sound) (hs : x.session.Valid g) : x.Consistent where
  distinct id id' kind hid hid' := hs.interned.distinct id id' kind kind hid hid' rfl
  interned _ _ := h.kind?_of_lookup
  memo type id hid := (hs.memo (type, id) (mem_of_lookup hid)).lt_size
  names name id hid := by
    rw [h.names] at hid
    exact Session.kind?_of_findNamed hid
  below := hs.interned.below
  spelled id hid text := hs.interned.spells_iff hid

/-! ### Calls one after the other -/

theorem agrees_normalize (h : x.Sound) (g : TypeGraph) (type : TypeId) :
    Agrees x (normalize g type) (Session.normalize g type) :=
  agrees_normalizeIn g _ true type x h

theorem agrees_after (h : x.Sound) (g : TypeGraph) (types : List TypeId) :
    answers g types x = Session.answers g types x.session ∧
      (after g types x).session = Session.after g types x.session ∧ (after g types x).Sound := by
  induction types generalizing x with
  | nil => exact ⟨rfl, rfl, h⟩
  | cons type rest ih =>
    obtain ⟨hrun, hsound⟩ := agrees_normalize h g type
    obtain ⟨hanswers, hsession, hafter⟩ := ih hsound
    rw [answers, Session.answers, after, Session.after, hrun, hanswers, hsession]
    exact ⟨rfl, rfl, hafter⟩

/-- Whatever is asked for, and whatever of it fails. Where no type is inside itself but through a
name, each call comes to an end; if none failed, no named type waits. -/
theorem consistent_after (g : TypeGraph) (types : List TypeId) :
    answers g types empty = Session.answers g types .empty ∧
    (after g types empty).session = Session.after g types .empty ∧
    (after g types empty).Consistent ∧
    ((∀ id, ¬ Relation.TransGen g.Inside id id) →
      ∀ p ∈ answers g types empty, ∀ type, p.2 ≠ .error (.endless type)) ∧
    ((∀ p ∈ answers g types empty, ∃ id, p.2 = .ok id) →
      (after g types empty).session.Completed) := by
  have hempty := Session.valid_empty g
  have hvalid := Session.valid_after types hempty
  obtain ⟨hanswers, hsession, hsound⟩ := agrees_after sound_empty g types
  have hconsistent : (after g types empty).Consistent := hsound.consistent (hsession ▸ hvalid)
  rw [hanswers, hsession]
  refine ⟨rfl, rfl, hconsistent, fun hguarded => ?_, fun hok => ?_⟩
  · exact Session.ne_endless_of_mem_answers hguarded hempty
  · have hgrows := Session.grows_after hempty hok
    refine hvalid.completed_of_resolved fun name hname => ?_
    obtain ⟨id, hid⟩ := hgrows.unresolved name hname
    simp [Session.kind?, Session.empty] at hid

/-- A type that is made of itself, another name for it, and a type that is declared only. -/
def chain : TypeGraph where
  nodes := #[.named "chain.Link" (some 1) [], .slice 0, .named "chain.Head" (some 0) [],
    .named "chain.Lost" none [], .string, .map 4 3]
  names := [("chain.Link", 0), ("chain.Head", 2), ("chain.Lost", 3)]

theorem chain_guarded (id : TypeId) : ¬ Relation.TransGen chain.Inside id id := by
  have hdescends : ∀ a b, chain.Inside a b → b < a := by
    rintro a b ⟨kind, hkind, hnamed, hb⟩
    have hall : ∀ a < 6, ∀ kind ∈ chain.nodes[a]?, kind.isNamed = false →
        ∀ b ∈ kind.refs, b < a := by decide
    exact hall a (Array.getElem?_eq_some_iff.1 hkind).1 kind hkind hnamed b hb
  intro hcycle
  have hlt : Relation.TransGen (fun a b : TypeId => b < a) id id :=
    Relation.TransGen.mono hdescends id id hcycle
  rw [Relation.transGen_eq_self] at hlt
  exact Nat.lt_irrefl id hlt

/-- The third call fails after it has entered a kind, and no node is at position 9. -/
theorem consistent_after_chain :
    (∀ id, ¬ Relation.TransGen chain.Inside id id) ∧
    (answers chain [2, 1, 5, 9, 4] empty).map (·.2.isOk) = [true, true, false, false, true] ∧
    (after chain [2, 1, 5, 9, 4] empty).Consistent ∧
    (∀ p ∈ answers chain [2, 1, 5, 9, 4] empty, ∀ type, p.2 ≠ .error (.endless type)) ∧
    (after chain [2, 1] empty).session.Completed := by
  have hfailing : (answers chain [2, 1, 5, 9, 4] empty).map (·.2.isOk) =
      [true, true, false, false, true] := by decide +kernel
  obtain ⟨_, _, hconsistent, hends, _⟩ := consistent_after chain [2, 1, 5, 9, 4]
  obtain ⟨_, _, _, _, hcompleted⟩ := consistent_after chain [2, 1]
  have hanswers : answers chain [2, 1] empty = [(2, .ok 0), (1, .ok 2)] := by decide +kernel
  refine ⟨chain_guarded, hfailing, hconsistent, hends chain_guarded, hcompleted ?_⟩
  simp [hanswers]

end Indexed
end ScriptBind
