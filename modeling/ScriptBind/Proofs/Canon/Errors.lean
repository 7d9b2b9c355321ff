import ScriptBind.Proofs.Canon.Steps

/-!
# ScriptBind.Proofs.Canon.Errors

The errors of `Session.normalize`, and the sessions in which they leave the table.

* `CanonM.Leaves` - what holds of the error of a step and of the session it leaves.
* `Session.leaves_normalizeNamed` - a name is reserved before anything about its type can fail.
* `Session.leaves_normalizeIn` - an error about a named type is raised where this type has been
  reserved, by induction on the bound.
* `Session.normalize_error_about`, `Session.normalize_named_error` - such an error comes once.
-/

namespace ScriptBind

/-- The named type whose definition could not be finished. -/
def CanonError.IsAbout (name : String) : CanonError → Prop
  | .undefinedNamed found => found = name
  | .unresolvedNamed found _ => found = name
  | _ => False

theorem CanonError.IsAbout.unique {e : CanonError} {name other : String} (h : e.IsAbout name)
    (h' : e.IsAbout other) : name = other := by
  cases e <;> first | exact h.symm.trans h' | exact h.elim

namespace CanonM

open Session

variable {α β : Type} {s : Session} {P : Session → Prop} {Q : CanonError → Session → Prop}

/-- Taken from `s`, the step fails only as `Q` says of the error and of the session it leaves. -/
def Leaves (s : Session) (m : CanonM α) (Q : CanonError → Session → Prop) : Prop :=
  ∀ e s', m s = (.error e, s') → Q e s'

namespace Leaves

theorem pure {a : α} : Leaves s (Pure.pure a) Q := by
  intro e s' h
  cases h

theorem throw {e : CanonError} (h : Q e s) : Leaves s (MonadExcept.throw e : CanonM α) Q := by
  intro e' s' h'
  cases h'
  exact h

theorem modify {f : Session → Session} {k : PUnit → CanonM β} (hk : Leaves (f s) (k ⟨⟩) Q) :
    Leaves s (modify f >>= k) Q := hk

theorem get {k : Session → CanonM β} (hk : Leaves s (k s) Q) :
    Leaves s (MonadState.get >>= k) Q := hk

theorem set {s' : Session} {k : PUnit → CanonM β} (hk : Leaves s' (k ⟨⟩) Q) :
    Leaves s (MonadState.set s' >>= k) Q := hk

theorem of_preserves {m : CanonM α} (hm : Preserves P m) (hs : P s)
    (hQ : ∀ e s', P s' → Q e s') : Leaves s m Q := by
  intro e s' h
  have hs' := hm s hs
  rw [h] at hs'
  exact hQ e s' hs'

theorem bind {m : CanonM α} {k : α → CanonM β} (hm : Leaves s m Q) (hP : Preserves P m)
    (hs : P s) (hk : ∀ a s', P s' → Leaves s' (k a) Q) : Leaves s (m >>= k) Q := by
  intro e s' h
  have hs' := hP s hs
  rw [bind_apply] at h
  rcases hrun : m s with ⟨_ | a, _⟩
  · rw [hrun] at h
    cases h
    exact hm e s' hrun
  · rw [hrun] at h hs'
    exact hk a _ hs' e s' h

end Leaves
end CanonM

namespace Session

open CanonM (Leaves Preserves)

variable {g : TypeGraph} {s s' : Session} {type : TypeId} {name : String}
  {P : Session → Prop} {Q : CanonError → Session → Prop}

theorem stable_true : Stable fun _ => True :=
  ⟨fun _ _ _ _ => trivial, fun _ _ _ _ => trivial, fun _ _ _ => trivial,
    fun _ _ _ _ => trivial, fun _ _ _ _ _ _ _ => trivial⟩

theorem Stable.and {P' : Session → Prop} (hP : Stable P) (hP' : Stable P') :
    Stable fun s => P s ∧ P' s where
  intern s kind h hkind := ⟨hP.intern s kind h.1 hkind, hP'.intern s kind h.2 hkind⟩
  remember s type id h := ⟨hP.remember s type id h.1, hP'.remember s type id h.2⟩
  registerAlias s id h := ⟨hP.registerAlias s id h.1, hP'.registerAlias s id h.2⟩
  reserve s type name h := ⟨hP.reserve s type name h.1, hP'.reserve s type name h.2⟩
  setUnderlying s s' type name underlying h h' :=
    ⟨hP.setUnderlying s s' type name underlying h.1 h'.1,
      hP'.setUnderlying s s' type name underlying h.2 h'.2⟩

theorem not_knows_of_findNamed (h : s.findNamed name = none) : ¬ s.Knows name := by
  rintro ⟨id, underlying, hid⟩
  exact not_named_of_findNamed h id underlying hid

theorem leaves_node (g : TypeGraph) (type : TypeId) (hQ : ∀ e, Q (.graph e) s) :
    Leaves s (node g type) Q := by
  rw [node]
  split
  · exact .pure
  · exact .throw (hQ _)

theorem leaves_underlyingOf (name : String) (found : CanonId)
    (hQ : ∀ other, Q (.unresolvedNamed name other) s) : Leaves s (underlyingOf name found) Q := by
  refine .get ?_
  split
  · exact .pure
  · exact .throw (hQ _)
  · exact .pure

/-- A relation for the errors that are about no named type. -/
theorem Stable.leaves_congruence (hP : Stable P)
    (hother : ∀ e s, (∀ name, ¬ CanonError.IsAbout name e) → Q e s) :
    CanonM.Congruence fun m _ => Preserves P m ∧ ∀ s, P s → Leaves s m Q where
  pure a := ⟨.pure a, fun _ _ => .pure⟩
  bind hm hk := ⟨hm.1.bind fun a => (hk a).1,
    fun s hs => (hm.2 s hs).bind hm.1 hs fun a s' hs' => (hk a).2 s' hs'⟩
  get := ⟨hP.congruence.get, fun _ _ => nofun⟩
  graph _ := ⟨.throw _, fun s _ => .throw (hother _ s fun _ => id)⟩
  conflicting _ _ _ := ⟨.throw _, fun s _ => .throw (hother _ s fun _ => id)⟩
  internM kind hkind := ⟨hP.congruence.internM kind hkind, fun _ _ => nofun⟩
  registerAlias id := ⟨hP.congruence.registerAlias id, fun _ _ => nofun⟩
  remember type id := ⟨hP.congruence.remember type id, fun _ _ => nofun⟩

/-- The definition of a named type, once its name is reserved. -/
theorem leaves_definition {fuel : Nat} (body : TypeId) (id : CanonId) (hP : Stable P) (hs : P s)
    (h : ∀ s', P s' → (∀ register body, Leaves s' (normalizeIn g fuel register body) Q) ∧
      ∀ e, (∃ cause, e = .graph cause) ∨ e.IsAbout name → Q e s') :
    Leaves s (do
      let kind ← node g body
      let found ← normalizeIn g fuel (!isStruct kind) body
      let underlying ← underlyingOf name found
      modify (setUnderlying id name underlying)
      return id) Q := by
  refine (leaves_node g body fun e => (h s hs).2 _ (.inl ⟨e, rfl⟩)).bind (preserves_node g body)
    hs fun kind s₁ hs₁ => ?_
  refine ((h s₁ hs₁).1 _ body).bind (hP.normalizeIn g fuel _ body) hs₁ fun found s₂ hs₂ => ?_
  exact (leaves_underlyingOf name found fun other => (h s₂ hs₂).2 _ (.inr rfl)).bind
    (preserves_underlyingOf name found) hs₂ fun _ _ _ => .modify .pure

theorem leaves_normalizeNamed {fuel : Nat} {body : Option TypeId} (hP : Stable P) (hs : P s)
    (h : s.findNamed name = none → ∀ s',
      P s' ∧ s'.kind? (s.reserve type name).2 = some (.named name none) →
        (∀ register body, Leaves s' (normalizeIn g fuel register body) Q) ∧
        ∀ e, (∃ cause, e = .graph cause) ∨ e.IsAbout name → Q e s') :
    Leaves s (normalizeNamed g (normalizeIn g fuel) type name body) Q := by
  refine .get ?_
  split
  · exact .pure
  · rename_i hnone
    have hwaits := hP.and (stable_kind? (s.reserve type name).2 (.named name none))
    have hreserved : P (s.reserve type name).1 ∧ (s.reserve type name).1.kind?
        (s.reserve type name).2 = some (.named name none) :=
      ⟨hP.reserve s type name hs, kind?_reserve type⟩
    refine .get (.set ?_)
    cases body with
    | none => exact .throw ((h hnone _ hreserved).2 _ (.inr rfl))
    | some body => exact leaves_definition body _ hwaits hreserved (h hnone)

/-- An error that is not about a named type is raised anywhere; one that is, only where this type is
in the table since its name has been reserved. -/
theorem leaves_normalizeIn (hP : Stable P)
    (hother : ∀ e s, (∀ name, ¬ CanonError.IsAbout name e) → Q e s)
    (hnamed : ∀ s s' type name e, P s → ¬ s.Knows name →
      s'.kind? (s.reserve type name).2 = some (.named name none) →
        CanonError.IsAbout name e → Q e s') :
    ∀ (fuel : Nat) (register : Bool) (type : TypeId) (s : Session), P s →
      Leaves s (normalizeIn g fuel register type) Q := by
  intro fuel
  induction fuel with
  | zero => exact fun _ _ s _ => .throw (hother _ s fun _ => id)
  | succ fuel ih =>
    intro register type
    have hin : ∀ register type, Preserves P (normalizeIn g fuel register type) ∧
        ∀ s, P s → Leaves s (normalizeIn g fuel register type) Q :=
      fun register type => ⟨hP.normalizeIn g fuel register type, ih register type⟩
    refine ((hP.leaves_congruence hother).normalizeIn fuel fuel hin register type
      fun name body => ⟨hP.normalizeNamed g (fun r t => (hin r t).1) type name body, ?_⟩).2
    intro s hs
    refine leaves_normalizeNamed hP hs ?_
    rintro hnone s' ⟨hs', hwaits⟩
    refine ⟨fun register body => ih register body s' hs', fun e he => ?_⟩
    rcases he with ⟨cause, rfl⟩ | habout
    · exact hother _ s' fun _ => id
    · exact hnamed s s' type name e hs (not_knows_of_findNamed hnone) hwaits habout

/-- A named type fails at most once, and then it is in the table without an underlying type. -/
theorem leaves_named (hname : g.IsNamed type name) (fuel : Nat) (register : Bool) :
    Leaves s (normalizeIn g (fuel + 1) register type) fun _ s' =>
      ¬ s.Knows name ∧ s'.Unresolved name := by
  obtain ⟨body, typeParams, hnode⟩ := hname
  have hget : node g type = pure (.named name body typeParams) := by
    rw [node, TypeGraph.get, hnode]
  have hwaits := stable_kind? (s.reserve type name).2 (.named name none)
  have hnamed : Leaves s (normalizeNamed g (normalizeIn g fuel) type name body) fun _ s' =>
      ¬ s.Knows name ∧ s'.Unresolved name := by
    refine leaves_normalizeNamed stable_true trivial ?_
    rintro hnone s' ⟨_, hs'⟩
    have hnew := not_knows_of_findNamed hnone
    refine ⟨fun register body => ?_, fun _ _ => ⟨hnew, _, hs'⟩⟩
    exact .of_preserves (hwaits.normalizeIn g fuel register body) hs' fun _ _ h => ⟨hnew, _, h⟩
  rw [normalizeIn]
  refine .get ?_
  split
  · split
    · exact .modify .pure
    · exact .pure
  · have hdone := hnamed.bind (P := fun _ => True) (fun _ _ => trivial) trivial
      (k := fun id => do modify fun s => s.remember type id; return id) fun _ _ _ => .modify .pure
    rw [normalizeNamed_bind] at hdone
    rw [hget, pure_bind]
    exact hdone

/-- Another type is known by then, so the error names one that was not in the table. -/
theorem normalize_error_about {e : CanonError} (h : normalize g type s = (.error e, s'))
    (habout : e.IsAbout name) : ¬ s.Knows name ∧ s'.Unresolved name := by
  constructor
  · rintro ⟨id, underlying, hid⟩
    have hleaves : Leaves s (normalize g type) fun e _ => ¬ e.IsAbout name :=
      leaves_normalizeIn (stable_kind? id (.named name underlying)) (fun e _ hnone => hnone name)
        (fun s₁ _ _ other e hs₁ hnew _ hother hname =>
          hnew ⟨id, underlying, hname.unique hother ▸ hs₁⟩) _ true type s hid
    exact hleaves e s' h habout
  · have hleaves : Leaves s (normalize g type) fun e s' => e.IsAbout name → s'.Unresolved name :=
      leaves_normalizeIn stable_true (fun e _ hnone hname => absurd hname (hnone name))
        (fun _ s' _ other e _ _ hwaits hother hname =>
          hname.unique hother ▸ ⟨_, hwaits⟩) _ true type s trivial
    exact hleaves e s' h habout

theorem normalize_named_error {e : CanonError} (hname : g.IsNamed type name)
    (h : normalize g type s = (.error e, s')) : ¬ s.Knows name ∧ s'.Unresolved name := by
  rw [normalize, Nat.succ_mul, ← Nat.add_assoc] at h
  exact leaves_named hname _ true e s' h

end Session

end ScriptBind
