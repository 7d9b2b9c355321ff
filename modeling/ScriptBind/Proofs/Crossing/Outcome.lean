import ScriptBind.Crossing.Boundary

/-!
# ScriptBind.Proofs.Crossing.Outcome

What can be said of a computation at the boundary without running it.

* `CrossM.Yields` - from every state it succeeds, and the answer has a property.
* `CrossM.Gives` - from some state it succeeds with this answer.
* `CrossM.Terminates` - from no state it is without end.
* `CrossM.Below` - another computation does the same wherever this one terminates.

Each of them goes through `pure`, `>>=` and `within`, which is all that conversions of parts use.
-/

namespace ScriptBind
namespace CrossM

variable {α β : Type}

/-! ### Running -/

theorem pure_apply (a : α) (b : Boundary) : (pure a : CrossM α) b = (.ok a, b) := rfl

theorem fail_apply (e : ConversionError) (b : Boundary) :
    (fail e : CrossM α) b = (.error (.failed e), b) := rfl

theorem update_apply (f : Boundary → α × Boundary) (b : Boundary) :
    update f b = (.ok (f b).1, (f b).2) := rfl

theorem bind_apply (m : CrossM α) (k : α → CrossM β) (b : Boundary) :
    (m >>= k) b =
      match m b with
      | (.ok a, b) => k a b
      | (.error e, b) => (.error e, b) := by
  simp only [bind, ExceptT.bind, ExceptT.mk, StateT.bind, ExceptT.bindCont]
  rcases m b with ⟨_ | _, _⟩ <;> rfl

theorem bind_of_ok {m : CrossM α} {k : α → CrossM β} {b b' : Boundary} {a : α}
    (h : m b = (.ok a, b')) : (m >>= k) b = k a b' := by
  rw [bind_apply, h]

theorem bind_of_error {m : CrossM α} {k : α → CrossM β} {b b' : Boundary} {e : Stop}
    (h : m b = (.error e, b')) : (m >>= k) b = (.error e, b') := by
  rw [bind_apply, h]

theorem ok_of_bind {m : CrossM α} {k : α → CrossM β} {b b'' : Boundary} {c : β}
    (h : (m >>= k) b = (.ok c, b'')) : ∃ a b', m b = (.ok a, b') ∧ k a b' = (.ok c, b'') := by
  rw [bind_apply] at h
  rcases hm : m b with ⟨e | a, b'⟩
  · rw [hm] at h; cases h
  · rw [hm] at h; exact ⟨a, b', rfl, h⟩

/-! ### Changing errors -/

theorem mapError_apply (f : ConversionError → ConversionError) (m : CrossM α) (b : Boundary) :
    m.mapError f b =
      match m b with
      | (.error (.failed e), b) => (.error (.failed (f e)), b)
      | other => other := rfl

theorem mapError_of_ok {f : ConversionError → ConversionError} {m : CrossM α} {b b' : Boundary}
    {a : α} (h : m b = (.ok a, b')) : m.mapError f b = (.ok a, b') := by
  rw [mapError_apply, h]

theorem mapError_of_failed {f : ConversionError → ConversionError} {m : CrossM α}
    {b b' : Boundary} {e : ConversionError} (h : m b = (.error (.failed e), b')) :
    m.mapError f b = (.error (.failed (f e)), b') := by
  rw [mapError_apply, h]

theorem mapError_of_endless {f : ConversionError → ConversionError} {m : CrossM α}
    {b b' : Boundary} (h : m b = (.error .endless, b')) :
    m.mapError f b = (.error .endless, b') := by
  rw [mapError_apply, h]

theorem ok_of_mapError {f : ConversionError → ConversionError} {m : CrossM α} {b b' : Boundary}
    {a : α} (h : m.mapError f b = (.ok a, b')) : m b = (.ok a, b') := by
  rcases hm : m b with ⟨(e | _) | c, c'⟩
  · rw [mapError_of_failed hm] at h; cases h
  · rw [mapError_of_endless hm] at h; cases h
  · rw [mapError_of_ok hm] at h; exact h

theorem mapError_fail (f : ConversionError → ConversionError) (e : ConversionError) :
    (fail e : CrossM α).mapError f = fail (f e) := rfl

theorem mapError_mapError (f g : ConversionError → ConversionError) (m : CrossM α) :
    (m.mapError f).mapError g = m.mapError (g ∘ f) := by
  funext b
  rcases hm : m b with ⟨(e | _) | c, c'⟩
  · rw [mapError_of_failed hm, mapError_of_failed (mapError_of_failed hm)]; rfl
  · rw [mapError_of_endless hm, mapError_of_endless (mapError_of_endless hm)]
  · rw [mapError_of_ok hm, mapError_of_ok (mapError_of_ok hm)]

theorem mapError_bind (f : ConversionError → ConversionError) (m : CrossM α)
    (k : α → CrossM β) : (m >>= k).mapError f = m.mapError f >>= fun a => (k a).mapError f := by
  funext b
  rcases hm : m b with ⟨(e | _) | a, b'⟩
  · rw [mapError_of_failed (bind_of_error hm), bind_of_error (mapError_of_failed hm)]
  · rw [mapError_of_endless (bind_of_error hm), bind_of_error (mapError_of_endless hm)]
  · rw [bind_of_ok (mapError_of_ok hm), mapError_apply, mapError_apply, bind_of_ok hm]

/-! ### Success with a property -/

def Yields (m : CrossM α) (P : α → Prop) : Prop := ∀ b, ∃ a b', m b = (.ok a, b') ∧ P a

theorem Yields.pure {P : α → Prop} {a : α} (h : P a) : Yields (Pure.pure a) P :=
  fun b => ⟨a, b, rfl, h⟩

theorem Yields.bind {P : α → Prop} {Q : β → Prop} {m : CrossM α} {k : α → CrossM β}
    (hm : Yields m P) (hk : ∀ a, P a → Yields (k a) Q) : Yields (m >>= k) Q := by
  intro b
  obtain ⟨a, b', ha, hP⟩ := hm b
  obtain ⟨c, b'', hc, hQ⟩ := hk a hP b'
  exact ⟨c, b'', by rw [bind_of_ok ha, hc], hQ⟩

theorem Yields.mono {P Q : α → Prop} {m : CrossM α} (hm : Yields m P) (h : ∀ a, P a → Q a) :
    Yields m Q := by
  intro b
  obtain ⟨a, b', ha, hP⟩ := hm b
  exact ⟨a, b', ha, h a hP⟩

theorem Yields.mapError {P : α → Prop} {m : CrossM α} (hm : Yields m P)
    (f : ConversionError → ConversionError) : Yields (m.mapError f) P := by
  intro b
  obtain ⟨a, b', ha, hP⟩ := hm b
  exact ⟨a, b', mapError_of_ok ha, hP⟩

theorem Yields.within {P : α → Prop} {m : CrossM α} (hm : Yields m P) (field : String) :
    Yields (within field m) P :=
  hm.mapError _

theorem Yields.update {P : α → Prop} {f : Boundary → α × Boundary} (h : ∀ b, P (f b).1) :
    Yields (CrossM.update f) P :=
  fun b => ⟨(f b).1, (f b).2, rfl, h b⟩

/-! ### A possible answer -/

def Gives (m : CrossM α) (a : α) : Prop := ∃ b b', m b = (.ok a, b')

theorem gives_pure {a c : α} : Gives (pure a) c ↔ c = a := by
  constructor
  · rintro ⟨b, b', h⟩; cases h; rfl
  · rintro rfl; exact ⟨.empty, .empty, rfl⟩

theorem not_gives_fail {e : ConversionError} {a : α} : ¬ Gives (fail e) a := by
  rintro ⟨b, b', h⟩; cases h

theorem not_gives_endless {a : α} : ¬ Gives endless a := by
  rintro ⟨b, b', h⟩; cases h

theorem Gives.of_bind {m : CrossM α} {k : α → CrossM β} {c : β} (h : Gives (m >>= k) c) :
    ∃ a, Gives m a ∧ Gives (k a) c := by
  obtain ⟨b, b'', h⟩ := h
  obtain ⟨a, b', hm, hk⟩ := ok_of_bind h
  exact ⟨a, ⟨b, b', hm⟩, ⟨b', b'', hk⟩⟩

theorem Gives.of_bind_pure {m : CrossM α} {k : α → β} {c : β}
    (h : Gives (m >>= fun a => pure (k a)) c) : ∃ a, Gives m a ∧ c = k a := by
  obtain ⟨a, hm, hk⟩ := h.of_bind
  exact ⟨a, hm, gives_pure.1 hk⟩

theorem Gives.of_mapError {f : ConversionError → ConversionError} {m : CrossM α} {a : α}
    (h : Gives (m.mapError f) a) : Gives m a := by
  obtain ⟨b, b', h⟩ := h
  exact ⟨b, b', ok_of_mapError h⟩

theorem Gives.of_within {field : String} {m : CrossM α} {a : α} (h : Gives (within field m) a) :
    Gives m a :=
  h.of_mapError

theorem Yields.and_gives {P Q : α → Prop} {m : CrossM α} (hm : Yields m P)
    (h : ∀ a, Gives m a → Q a) : Yields m fun a => P a ∧ Q a := by
  intro b
  obtain ⟨a, b', ha, hP⟩ := hm b
  exact ⟨a, b', ha, hP, h a ⟨b, b', ha⟩⟩

/-! ### Termination -/

def Terminates (m : CrossM α) : Prop := ∀ b, (m b).1 ≠ .error .endless

/-- `m'` does what `m` does wherever `m` terminates. -/
def Below (m m' : CrossM α) : Prop := ∀ b, (m b).1 ≠ .error .endless → m' b = m b

theorem Below.refl (m : CrossM α) : Below m m := fun _ _ => rfl

theorem Below.trans {m₁ m₂ m₃ : CrossM α} (h : Below m₁ m₂) (h' : Below m₂ m₃) :
    Below m₁ m₃ := by
  intro b hb
  have h12 := h b hb
  rw [h' b (by rw [h12]; exact hb), h12]

theorem endless_below (m : CrossM α) : Below endless m := fun _ h => absurd rfl h

theorem Below.eq {m m' : CrossM α} (h : Below m m') (he : Terminates m) : m' = m :=
  funext fun b => h b (he b)

theorem Terminates.pure (a : α) : Terminates (Pure.pure a) := fun b => by simp [pure_apply]

theorem Terminates.fail (e : ConversionError) : Terminates (CrossM.fail e : CrossM α) :=
  fun b => by simp [fail_apply]

theorem Terminates.update (f : Boundary → α × Boundary) : Terminates (CrossM.update f) :=
  fun b => by simp [update_apply]

theorem terminates_mapError {f : ConversionError → ConversionError} {m : CrossM α} :
    Terminates (m.mapError f) ↔ Terminates m := by
  refine forall_congr' fun b => ?_
  rcases hm : m b with ⟨(e | _) | c, c'⟩
  · rw [mapError_of_failed hm]; simp
  · rw [mapError_of_endless hm]
  · rw [mapError_of_ok hm]

theorem Terminates.bind {m : CrossM α} {k : α → CrossM β} (hm : Terminates m)
    (hk : ∀ a, Terminates (k a)) : Terminates (m >>= k) := by
  intro b
  rcases h : m b with ⟨e | a, b'⟩
  · have he : e ≠ .endless := by
      rintro rfl
      exact hm b (by rw [h])
    rw [bind_of_error h]
    simpa using he
  · rw [bind_of_ok h]; exact hk a b'

theorem Below.bind {m m' : CrossM α} {k k' : α → CrossM β} (hm : Below m m')
    (hk : ∀ a, Below (k a) (k' a)) : Below (m >>= k) (m' >>= k') := by
  intro b hb
  rcases h : m b with ⟨e | a, b'⟩
  · rw [bind_of_error h] at hb ⊢
    have he : (m b).1 ≠ .error .endless := by
      rw [h]
      simpa using hb
    rw [bind_of_error (by rw [hm b he, h])]
  · rw [bind_of_ok h] at hb ⊢
    rw [bind_of_ok (by rw [hm b (by rw [h]; simp), h]), hk a b' hb]

theorem Below.mapError {m m' : CrossM α} (h : Below m m')
    (f : ConversionError → ConversionError) : Below (m.mapError f) (m'.mapError f) := by
  intro b hb
  have hm : (m b).1 ≠ .error .endless := by
    intro he
    apply hb
    rcases hm : m b with ⟨x, c⟩
    rw [hm] at he
    subst he
    rw [mapError_of_endless hm]
  rw [mapError_apply, mapError_apply, h b hm]

end CrossM
end ScriptBind
