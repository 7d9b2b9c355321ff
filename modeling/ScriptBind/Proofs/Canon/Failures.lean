import ScriptBind.Proofs.Canon.Completion
import ScriptBind.Proofs.Canon.Errors
import ScriptBind.Proofs.Canon.Resolution
import ScriptBind.Proofs.Canon.Trees

/-!
# ScriptBind.Proofs.Canon.Failures

Sessions that go on after a call has failed, also when the graph is completed in between. What is
in the table stays right, but a named type on which a call failed never gets its underlying type.

* `Session.Reached` - the sessions after any calls, while the graph grew.
* `Session.Reached.resumes` - what a call gives in such a session, against a fresh one.
-/

namespace ScriptBind

namespace Session

variable {g : TypeGraph} {s s' : Session} {type : TypeId} {name : String}

/-- A session after any calls, of which some may have failed, while the graph grew. -/
inductive Reached : TypeGraph → Session → Prop
  | empty (g : TypeGraph) : Reached g .empty
  | call {g : TypeGraph} {s : Session} (type : TypeId) :
    Reached g s → Reached g (normalize g type s).2
  | grow {g g' : TypeGraph} {s : Session} : g.Extends g' → Reached g s → Reached g' s

theorem Reached.valid (h : Reached g s) : s.Valid g := by
  induction h with
  | empty g => exact valid_empty g
  | call type _ ih => exact (meets_normalize type ih).valid
  | grow hext _ ih => exact ih.completed hext

/-- A call in a session that may have failed before, and the same call in a fresh one. -/
structure Resumes (g : TypeGraph) (s : Session) (type : TypeId) : Prop where
  /-- A name without an underlying type does not get one any more. -/
  stays : ∀ name, s.Unresolved name → (normalize g type s).2.Unresolved name
  /-- Only a call that fails leaves a further name so. -/
  answered : ∀ id s', normalize g type s = (.ok id, s') →
    ∀ name, s'.Unresolved name → s.Unresolved name
  /-- An error is about a name that has just come in. -/
  reports : ∀ name e s', normalize g type s = (.error e, s') → e.IsAbout name →
    ¬ s.Knows name ∧ s'.Unresolved name
  /-- A named type fails once. -/
  failed : ∀ name e s', g.IsNamed type name → normalize g type s = (.error e, s') →
    ¬ s.Knows name ∧ s'.Unresolved name
  /-- From then on it has an answer, and this has no underlying type. -/
  repeated : ∀ name, g.IsNamed type name → s.Unresolved name →
    ∃ id s', normalize g type s = (.ok id, s') ∧ s'.kind? id = some (.named name none)
  typeString : ∀ id s' id₀ s₀, normalize g type s = (.ok id, s') →
    normalize g type .empty = (.ok id₀, s₀) → s'.typeString id = s₀.typeString id₀
  /-- What stands behind a name is the same type, unless the name was left without it. -/
  underlying : g.UniqueNames → ∀ id s' id₀ s₀ name v, normalize g type s = (.ok id, s') →
    normalize g type .empty = (.ok id₀, s₀) → s₀.kind? id₀ = some (.named name v) →
      s.Unresolved name ∧ s'.kind? id = some (.named name none) ∨
      ¬ s.Unresolved name ∧ ∃ u u₀, s'.kind? id = some (.named name (some u)) ∧ v = some u₀ ∧
        s'.unfold u = s₀.unfold u₀
  /-- On a complete graph on which fresh sessions do not fail. -/
  fails : g.WellFormed → (∀ a b, g.DefinedBy a b → ¬ g.Reaches b a) → type < g.size →
    ∀ e s', normalize g type s = (.error e, s') → ∃ name other a b,
      e = .unresolvedNamed name other ∧ s.Unresolved other ∧ g.Reaches type a ∧
        g.IsNamed a name ∧ g.DefinedBy a b ∧ g.IsNamed b other

section Calls

variable {id id₀ : CanonId} {s₀ s₀' : Session}

theorem Valid.represents_ok (hs : s.Valid g) (h : normalize g type s = (.ok id, s')) :
    s'.Valid g ∧ s.Grows s' ∧ s'.Represents g type id := by
  have hmeets := meets_normalize type hs
  rw [Prod.ext_iff] at h
  obtain ⟨hok, rfl⟩ := h
  exact ⟨hmeets.valid, hmeets.ok id hok⟩

/-- The answers in two sessions have one tree. -/
theorem Valid.unfold_eq (hs : s.Valid g) (hs₀ : s₀.Valid g)
    (h : normalize g type s = (.ok id, s')) (h₀ : normalize g type s₀ = (.ok id₀, s₀')) :
    s'.unfold id = s₀'.unfold id₀ :=
  (hs.represents_ok h).2.2.unfolds.unique (hs₀.represents_ok h₀).2.2.unfolds

theorem Valid.typeString_eq (hs : s.Valid g) (hs₀ : s₀.Valid g)
    (h : normalize g type s = (.ok id, s')) (h₀ : normalize g type s₀ = (.ok id₀, s₀')) :
    s'.typeString id = s₀'.typeString id₀ := by
  obtain ⟨hs', _, hid⟩ := hs.represents_ok h
  obtain ⟨hs₀', _, hid₀⟩ := hs₀.represents_ok h₀
  rw [hs'.interned.typeString_eq_text hid.lt_size, hs₀'.interned.typeString_eq_text hid₀.lt_size,
    hs.unfold_eq hs₀ h h₀]

theorem stays_unresolved (g : TypeGraph) (type : TypeId) (h : s.Unresolved name) :
    (normalize g type s).2.Unresolved name := by
  obtain ⟨id, hid⟩ := h
  exact ⟨id, (stable_kind? id _).normalize g type s hid⟩

/-- A name stands in one place. -/
theorem Valid.kind?_of_unresolved (hs : s.Valid g) {v : Option CanonId}
    (hid : s.kind? id = some (.named name v)) (h : s.Unresolved name) : v = none := by
  obtain ⟨i, hi⟩ := h
  obtain rfl := hs.interned.distinct id i _ _ hid hi rfl
  cases hid.symm.trans hi
  rfl

theorem Valid.repeated (hs : s.Valid g) (hname : g.IsNamed type name) (h : s.Unresolved name) :
    ∃ id s', normalize g type s = (.ok id, s') ∧ s'.kind? id = some (.named name none) := by
  have hknown : s.Knows name := h.imp fun _ hid => ⟨none, hid⟩
  rcases hrun : normalize g type s with ⟨e | id, s'⟩
  · exact absurd hknown (normalize_named_error hname hrun).1
  · obtain ⟨hs', _, hid⟩ := hs.represents_ok hrun
    obtain ⟨v, hv⟩ :=
      kind?_of_unfold_eq hs'.interned hid.lt_size (hid.unfolds.unique hname.unfolds)
    have hstays := stays_unresolved g type h
    rw [hrun] at hstays
    exact ⟨id, s', rfl, hs'.kind?_of_unresolved hv hstays ▸ hv⟩

theorem Valid.underlying_eq {u u₀ : CanonId} (hs : s.Valid g) (hs₀ : s₀.Valid g)
    (hunique : g.UniqueNames) (hid : s.kind? id = some (.named name (some u)))
    (hid₀ : s₀.kind? id₀ = some (.named name (some u₀))) : s.unfold u = s₀.unfold u₀ :=
  TypeGraph.StandsFor.unique hunique ((hs.underlying id name u hid).behind hunique)
    ((hs₀.underlying id₀ name u₀ hid₀).behind hunique)

end Calls

theorem not_unresolved_empty (name : String) : ¬ empty.Unresolved name := by
  rintro ⟨id, hid⟩
  simp [kind?, empty] at hid

/-- Whatever failed before and however the graph was completed since. -/
theorem Reached.resumes (h : s.Reached g) (type : TypeId) : s.Resumes g type where
  stays _ := stays_unresolved g type
  answered id s' hrun := (h.valid.represents_ok hrun).2.1.unresolved
  reports _ _ _ := normalize_error_about
  failed _ _ _ hname := normalize_named_error hname
  repeated _ hname := h.valid.repeated hname
  typeString _ _ _ _ hrun hrun₀ := h.valid.typeString_eq (valid_empty g) hrun hrun₀
  underlying := by
    intro hunique id s' id₀ s₀ name v hrun hrun₀ hid₀
    obtain ⟨hs', hgrows, hid⟩ := h.valid.represents_ok hrun
    obtain ⟨hs₀, hgrows₀, _⟩ := (valid_empty g).represents_ok hrun₀
    have htree := h.valid.unfold_eq (valid_empty g) hrun hrun₀
    rw [hs₀.interned.unfold_eq hid₀] at htree
    obtain ⟨w, hw⟩ := kind?_of_unfold_eq hs'.interned hid.lt_size htree
    obtain ⟨u₀, rfl⟩ : ∃ u₀, v = some u₀ := by
      cases v with
      | none => exact absurd (hgrows₀.unresolved name ⟨id₀, hid₀⟩) (not_unresolved_empty name)
      | some u₀ => exact ⟨u₀, rfl⟩
    by_cases hwaits : s.Unresolved name
    · have hstays := stays_unresolved g type hwaits
      rw [hrun] at hstays
      exact .inl ⟨hwaits, hs'.kind?_of_unresolved hw hstays ▸ hw⟩
    · cases w with
      | none => exact absurd (hgrows.unresolved name ⟨id, hw⟩) hwaits
      | some u => exact .inr ⟨hwaits, u, u₀, hw, rfl, hs'.underlying_eq hs₀ hunique hw hid₀⟩
  fails hwf hdirect htype e s' hrun :=
    unresolved_of_error hwf hdirect h.valid htype (by rw [hrun])

/-- A type that is declared only, until `body` is there. -/
def tide (body : Option TypeId) : TypeGraph where
  nodes := #[.named "tide.Level" body [], .string]
  names := [("tide.Level", 0)]

theorem extends_tide : (tide none).Extends (tide (some 1)) :=
  (TypeGraph.define_eq_ok (show (tide none).define 0 1 = .ok (tide (some 1)) by rfl)).1

/-- The session after a call that failed, once the type is defined. -/
theorem resumes_tide :
    (normalize (tide none) 0 .empty).1 = .error (.undefinedNamed "tide.Level") ∧
    (normalize (tide none) 0 .empty).2.Reached (tide (some 1)) ∧
    (normalize (tide none) 0 .empty).2.Resumes (tide (some 1)) 0 := by
  have hreached : (normalize (tide none) 0 .empty).2.Reached (tide (some 1)) :=
    .grow extends_tide (.call 0 (.empty _))
  exact ⟨by decide +kernel, hreached, hreached.resumes 0⟩

/-- A call that failed succeeds when it is repeated, and the type gets no underlying type any more,
although a fresh session finds it. -/
theorem failure_is_kept :
    let s := (normalize (tide none) 0 .empty).2
    (normalize (tide none) 0 .empty).1 = .error (.undefinedNamed "tide.Level") ∧
    (normalize (tide none) 0 s).1 = .ok 0 ∧
    (normalize (tide (some 1)) 0 s).1 = .ok 0 ∧
    (normalize (tide (some 1)) 0 s).2.kind? 0 = some (.named "tide.Level" none) ∧
    (normalize (tide (some 1)) 0 .empty).1 = .ok 0 ∧
    (normalize (tide (some 1)) 0 .empty).2.kind? 0 = some (.named "tide.Level" (some 1)) ∧
    ¬ ∀ (g : TypeGraph) (s : Session) (type : TypeId) (e : CanonError), s.Reached g →
      (normalize g type s).1 = .error e →
        ∃ e', (normalize g type (normalize g type s).2).1 = .error e' := by
  have herror : (normalize (tide none) 0 .empty).1 = .error (.undefinedNamed "tide.Level") := by
    decide +kernel
  have hok : (normalize (tide none) 0 (normalize (tide none) 0 .empty).2).1 = .ok 0 := by
    decide +kernel
  refine ⟨herror, hok, by decide +kernel, by decide +kernel, by decide +kernel, by decide +kernel,
    fun h => ?_⟩
  obtain ⟨e', he'⟩ := h (tide none) .empty 0 _ (.empty _) herror
  cases hok.symm.trans he'

end Session
end ScriptBind
