import Mathlib.Data.List.Forall2
import ScriptBind.Crossing.Compound
import ScriptBind.Proofs.Crossing.Outcome
import ScriptBind.Proofs.Value.Parts

/-!
# ScriptBind.Proofs.Crossing.Items

What is known of each item holds of a list of items that is converted.

* `Yields.each`, `Yields.entriesToScript`, `Yields.fieldsToScript` - every item succeeds.
* `Gives.each`, `Gives.entriesFromScript`, `Gives.fieldsFromScript` - what the items of an answer
  came from.
* `each_eq_pure`, `entriesFromScript_eq_pure`, `fieldsFromScript_eq_pure` - every answer is known.
-/

namespace ScriptBind
namespace CrossM

variable {α β : Type}

/-! ### Every item succeeds -/

theorem Yields.each {P : α → β → Prop} {f : α → CrossM β} {items : List α} :
    ∀ (position : Nat), (∀ x ∈ items, Yields (f x) (P x)) →
      Yields (CrossM.each f position items) (List.Forall₂ P items) := by
  induction items with
  | nil =>
    intro position h
    exact .pure .nil
  | cons x rest ih =>
    intro position h
    have hx := (h x (by simp)).within ("[" ++ toString position ++ "]")
    have hrest := ih (position + 1) fun y hy => h y (by simp [hy])
    exact hx.bind fun y hy => hrest.bind fun ys hys => .pure (.cons hy hys)

/-- The slot that an entry crosses to. -/
def EntrySlot (P : NativeValue → Value → Prop) (e : Entry) (s : Slot) : Prop :=
  s.name = e.key ∧ P e.value s.value

theorem Yields.entriesToScript {P : NativeValue → Value → Prop} {f : ToScript}
    {entries : List Entry} (h : ∀ e ∈ entries, Yields (f e.value) (P e.value)) :
    Yields (ScriptBind.entriesToScript f entries) (List.Forall₂ (EntrySlot P) entries) := by
  induction entries with
  | nil => exact .pure .nil
  | cons e rest ih =>
    obtain ⟨key, v⟩ := e
    have he := (h ⟨key, v⟩ (by simp)).within key
    have hrest := ih fun e' he' => h e' (by simp [he'])
    exact he.bind fun y hy => hrest.bind fun ys hys => .pure (.cons ⟨rfl, hy⟩ hys)

/-- The slot that the value of a field crosses to. -/
def FieldSlot (P : ShapeId → NativeValue → Value → Prop) (p : FieldShape × NativeValue)
    (s : Slot) : Prop :=
  s.name = p.1.name ∧ P p.1.shape p.2 s.value

theorem Yields.fieldsToScript {P : ShapeId → NativeValue → Value → Prop}
    {f : ShapeId → ToScript} {fields : List FieldShape} :
    ∀ {values : List NativeValue},
      (∀ p ∈ fields.zip values, Yields (f p.1.shape p.2) (P p.1.shape p.2)) →
      Yields (ScriptBind.fieldsToScript (fields.map fun s => (s.name, f s.shape)) values)
        (List.Forall₂ (FieldSlot P) (fields.zip values)) := by
  induction fields with
  | nil =>
    intro values h
    exact .pure .nil
  | cons field fields ih =>
    intro values h
    cases values with
    | nil => exact .pure .nil
    | cons v values =>
      have hv := (h (field, v) (by simp)).within field.name
      have hrest := ih fun p (hp : p ∈ fields.zip values) => h p (by simp [hp])
      exact hv.bind fun y hy => hrest.bind fun ys hys => .pure (.cons ⟨rfl, hy⟩ hys)

theorem names_of_fieldSlots {P : ShapeId → NativeValue → Value → Prop}
    {fields : List FieldShape} : ∀ {values : List NativeValue} {slots : List Slot},
      values.length = fields.length → List.Forall₂ (FieldSlot P) (fields.zip values) slots →
      slots.map (·.name) = fields.map (·.name) := by
  induction fields with
  | nil =>
    intro values slots _ h
    cases h
    rfl
  | cons field fields ih =>
    intro values slots hlength h
    cases values with
    | nil => simp at hlength
    | cons v values =>
      rw [List.zip_cons_cons] at h
      cases h with
      | cons hs hrest =>
        have hlength' : values.length = fields.length := by simpa using hlength
        rw [List.map_cons, List.map_cons, hs.1, ih hlength' hrest]

/-! ### What an answer came from -/

theorem Gives.each {P : β → Prop} {f : α → CrossM β} {items : List α} :
    ∀ {position : Nat} {ys : List β}, Gives (CrossM.each f position items) ys →
      (∀ x ∈ items, ∀ y, Gives (f x) y → P y) → ys.length = items.length ∧ ∀ y ∈ ys, P y := by
  induction items with
  | nil =>
    intro position ys h hitem
    rw [gives_pure.1 h]
    simp
  | cons x rest ih =>
    intro position ys h hitem
    obtain ⟨y, hy, h⟩ := h.of_bind
    obtain ⟨zs, hzs, rfl⟩ := h.of_bind_pure
    obtain ⟨hlength, hrest⟩ := ih hzs fun x' hx' => hitem x' (by simp [hx'])
    refine ⟨by simp [hlength], ?_⟩
    intro z hz
    rcases List.mem_cons.1 hz with rfl | hz
    · exact hitem x (by simp) z hy.of_within
    · exact hrest z hz

theorem Gives.entriesFromScript {P : NativeValue → Prop} {f : FromScript} {slots : List Slot} :
    ∀ {entries : List Entry}, Gives (ScriptBind.entriesFromScript f slots) entries →
      (∀ x ∈ slots.map (·.value), ∀ y, Gives (f x) y → P y) → ∀ e ∈ entries, P e.value := by
  induction slots with
  | nil =>
    intro entries h hslot
    rw [gives_pure.1 h]
    simp
  | cons s rest ih =>
    intro entries h hslot
    obtain ⟨name, x⟩ := s
    obtain ⟨y, hy, h⟩ := h.of_bind
    obtain ⟨zs, hzs, rfl⟩ := h.of_bind_pure
    intro e he
    rcases List.mem_cons.1 he with rfl | he
    · exact hslot x (by simp) y hy.of_within
    · exact ih hzs (fun x' hx' => hslot x' (List.mem_cons_of_mem _ hx')) e he

theorem Gives.fieldsFromScript {P : ShapeId → NativeValue → Prop} {f : ShapeId → FromScript}
    {typeName : String} {slots : List Slot} {fields : List FieldShape} :
    ∀ {values : List NativeValue},
      Gives (ScriptBind.fieldsFromScript typeName slots
        (fields.map fun s => (s.name, f s.shape))) values →
      (∀ id, ∀ x ∈ slots.map (·.value), ∀ y, Gives (f id x) y → P id y) →
      values.length = fields.length ∧ ∀ p ∈ fields.zip values, P p.1.shape p.2 := by
  induction fields with
  | nil =>
    intro values h hslot
    rw [gives_pure.1 h]
    simp
  | cons field fields ih =>
    intro values h hslot
    simp only [List.map_cons, ScriptBind.fieldsFromScript] at h
    split at h
    · exact (not_gives_fail h).elim
    · rename_i x hx
      obtain ⟨y, hy, h⟩ := h.of_bind
      obtain ⟨zs, hzs, rfl⟩ := h.of_bind_pure
      obtain ⟨hlength, hrest⟩ := ih hzs hslot
      refine ⟨by simp [hlength], ?_⟩
      intro p hp
      rcases List.mem_cons.1 hp with rfl | hp
      · exact hslot field.shape x (mem_slots_of_slot? hx) y hy.of_within
      · exact hrest p hp

/-! ### Every answer is known -/

theorem within_pure (field : String) (a : α) : within field (pure a) = pure a := rfl

theorem each_eq_pure {f : β → CrossM α} {items : List α} {ys : List β} :
    ∀ (position : Nat), List.Forall₂ (fun x y => f y = pure x) items ys →
      each f position ys = pure items := by
  intro position h
  induction h generalizing position with
  | nil => rfl
  | cons hx _ ih =>
    rw [each, hx, within_pure, pure_bind, ih, pure_bind]

theorem entriesFromScript_eq_pure {f : FromScript} {entries : List Entry} {slots : List Slot}
    (h : List.Forall₂ (EntrySlot fun v x => f x = pure v) entries slots) :
    entriesFromScript f slots = pure entries := by
  induction h with
  | nil => rfl
  | @cons e s _ _ hes _ ih =>
    obtain ⟨key, v⟩ := e
    obtain ⟨name, x⟩ := s
    obtain ⟨hname, hvalue⟩ := hes
    simp only at hname hvalue
    rw [entriesFromScript, hvalue, within_pure, pure_bind, ih, pure_bind, hname]

/-- Of slots with distinct names, each is found under its name. -/
theorem slot?_of_mem {slots : List Slot} (hd : (slots.map (·.name)).Nodup) {s : Slot}
    (hs : s ∈ slots) : slot? s.name slots = some s.value := by
  induction slots with
  | nil => simp at hs
  | cons s' rest ih =>
    obtain ⟨name, v⟩ := s'
    rw [List.map_cons, List.nodup_cons] at hd
    rw [slot?]
    rcases List.mem_cons.1 hs with rfl | hrest
    · rw [if_pos rfl]
    · have hne : name ≠ s.name := by
        intro hname
        exact hd.1 (List.mem_map.2 ⟨s, hrest, hname.symm⟩)
      rw [if_neg hne, ih hd.2 hrest]

theorem fieldsFromScript_eq_pure {f : ShapeId → FromScript} {typeName : String}
    {all : List Slot} (hd : (all.map (·.name)).Nodup) {fields : List FieldShape} :
    ∀ {values : List NativeValue} {slots : List Slot}, values.length = fields.length →
      (∀ s ∈ slots, s ∈ all) →
      List.Forall₂ (FieldSlot fun id v x => f id x = pure v) (fields.zip values) slots →
      fieldsFromScript typeName all (fields.map fun s => (s.name, f s.shape)) = pure values := by
  induction fields with
  | nil =>
    intro values slots hlength _ _
    rw [List.eq_nil_of_length_eq_zero hlength]
    rfl
  | cons field fields ih =>
    intro values slots hlength hall h
    cases values with
    | nil => simp at hlength
    | cons v values =>
      rw [List.zip_cons_cons] at h
      cases h with
      | @cons _ s _ rest hs hrest =>
        obtain ⟨hname, hvalue⟩ := hs
        have hfound : slot? field.name all = some s.value := by
          rw [← hname]
          exact slot?_of_mem hd (hall s (by simp))
        have hlength' : values.length = fields.length := by simpa using hlength
        have hfields := ih hlength' (fun s' hs' => hall s' (by simp [hs'])) hrest
        simp only [List.map_cons, fieldsFromScript, hfound, hvalue]
        rw [within_pure, pure_bind, hfields, pure_bind]

end CrossM
end ScriptBind
