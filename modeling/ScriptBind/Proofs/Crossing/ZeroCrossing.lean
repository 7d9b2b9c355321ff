import ScriptBind.Proofs.Crossing.RoundTrip
import ScriptBind.Proofs.Crossing.ZeroEnds

/-!
# ScriptBind.Proofs.Crossing.ZeroCrossing

The value that native code has where nothing was assigned crosses to the script and back.

* `ShapeTable.Unboxed` - no value in a box is held in place, at any depth.
* `ShapeTable.ComesBack` - a script value is taken by a shape, for the same value if it is unboxed.
* `ShapeTable.zeroOf?_crosses` - so it is with zero values, by induction on the rules that nest.
* `Library.zeroValue_crosses` - the same of the conversions of a library.

Names do not matter here, in contrast to other values that come back: the pointers in a zero value
are nil, and the one handle that can be made is looked at by the rule that made it.
-/

namespace ScriptBind

open CrossM (Yields FieldSlot)

def ShapeKind.fieldNames : ShapeKind → List String
  | .record fields => fields.map (·.name)
  | _ => []

/-! ### What comes back item by item -/

section Items

variable {α β : Type}

theorem exists_returned {f : β → CrossM α} {u : Prop} {items : List α} {xs : List β}
    (h : List.Forall₂ (fun v x => ∃ w, f x = pure w ∧ (w = v ↔ u)) items xs) :
    ∃ ws, List.Forall₂ (fun w x => f x = pure w) ws xs ∧ (ws = items ↔ ∀ v ∈ items, u) := by
  induction h with
  | nil => exact ⟨[], .nil, by simp⟩
  | cons hx _ ih =>
    obtain ⟨w, hw, hsame⟩ := hx
    obtain ⟨ws, hws, hrest⟩ := ih
    refine ⟨w :: ws, .cons hw hws, ?_⟩
    rw [List.cons.injEq, List.forall_mem_cons]
    exact and_congr hsame hrest

theorem exists_returned_fields {f : ShapeId → FromScript} {u : ShapeId → Prop}
    {fields : List FieldShape} : ∀ {values : List NativeValue} {slots : List Slot},
      values.length = fields.length →
      List.Forall₂ (FieldSlot fun id v x => ∃ w, f id x = pure w ∧ (w = v ↔ u id))
        (fields.zip values) slots →
      ∃ ws, ws.length = fields.length ∧
        List.Forall₂ (FieldSlot fun id w x => f id x = pure w) (fields.zip ws) slots ∧
        (ws = values ↔ ∀ field ∈ fields, u field.shape) := by
  induction fields with
  | nil =>
    intro values slots hlength h
    obtain rfl := List.eq_nil_of_length_eq_zero hlength
    cases h
    exact ⟨[], rfl, .nil, by simp⟩
  | cons field fields ih =>
    intro values slots hlength h
    cases values with
    | nil => simp at hlength
    | cons v values =>
      rw [List.zip_cons_cons] at h
      cases h with
      | cons hs hrest =>
        obtain ⟨hname, w, hw, hsame⟩ := hs
        obtain ⟨ws, hlengths, hws, hall⟩ := ih (by simpa using hlength) hrest
        refine ⟨w :: ws, by simp [hlengths], .cons ⟨hname, hw⟩ hws, ?_⟩
        rw [List.cons.injEq, List.forall_mem_cons]
        exact and_congr hsame hall

end Items

namespace ShapeTable

/-- As in every table in which no rule names a shape that is missing. -/
def PartsKnown (shapes : ShapeTable) : Prop :=
  ∀ shape ∈ shapes.shapes.toList, ∀ part ∈ shape.kind.inPlace, (shapes.get? part).isSome

def FieldsDistinct (shapes : ShapeTable) : Prop :=
  ∀ shape ∈ shapes.shapes.toList, shape.kind.fieldNames.Nodup

instance (shapes : ShapeTable) : Decidable shapes.PartsKnown :=
  inferInstanceAs (Decidable (∀ shape ∈ shapes.shapes.toList, ∀ part ∈ shape.kind.inPlace,
    (shapes.get? part).isSome))

instance (shapes : ShapeTable) : Decidable shapes.FieldsDistinct :=
  inferInstanceAs (Decidable (∀ shape ∈ shapes.shapes.toList, shape.kind.fieldNames.Nodup))

/-- Nothing that a value of this shape holds in place, fields and elements at any depth, is in a
box. -/
def Unboxed (shapes : ShapeTable) (id : ShapeId) : Prop :=
  ∀ part, Relation.ReflTransGen shapes.HasInPlace id part →
    ∀ shape, shapes.get? part = some shape → shape.kind.isBoxed = false

variable {shapes : ShapeTable} {id : ShapeId} {shape : Shape} {v : NativeValue}

theorem unboxed_iff (found : shapes.get? id = some shape) :
    shapes.Unboxed id ↔
      shape.kind.isBoxed = false ∧ ∀ part ∈ shape.kind.inPlace, shapes.Unboxed part := by
  constructor
  · intro h
    refine ⟨h id .refl shape found, fun part hpart other hother => ?_⟩
    exact h other (.head ((hasInPlace_iff found).2 hpart) hother)
  · rintro ⟨hboxed, hparts⟩ other hother
    cases hother.cases_head with
    | inl hid =>
      subst hid
      intro shape' found'
      obtain rfl := Option.some.inj (found.symm.trans found')
      exact hboxed
    | inr hnext =>
      obtain ⟨part, hpart, hother⟩ := hnext
      exact hparts part ((hasInPlace_iff found).1 hpart) other hother

/-- The way back gives a value, which is this one just if nothing in it is in a box. -/
def ComesBack (shapes : ShapeTable) (id : ShapeId) (v : NativeValue) (x : Value) : Prop :=
  ∃ w, shapes.fromScript id x = pure w ∧ (w = v ↔ shapes.Unboxed id)

theorem comesBack_of_rule {x : Value} {w : NativeValue} (found : shapes.get? id = some shape)
    (hback : shape.fromScript shapes.fromScript x = pure w)
    (hsame : w = v ↔ shape.kind.isBoxed = false ∧
      ∀ part ∈ shape.kind.inPlace, shapes.Unboxed part) : shapes.ComesBack id v x := by
  refine ⟨w, ?_, hsame.trans (unboxed_iff found).symm⟩
  rw [fromScript_eq, found]
  exact hback

/-- A value that holds nothing in place comes back by its own rule. -/
theorem crosses_alone (found : shapes.get? id = some shape) (hboxed : shape.kind.isBoxed = false)
    (halone : shape.kind.inPlace = [])
    (h : Yields (shape.toScript shapes.toScript v) fun x =>
      shape.fromScript shapes.fromScript x = pure v) :
    Yields (shapes.toScript id v) (shapes.ComesBack id v) := by
  rw [toScript_eq, found]
  refine h.mono fun x hx => comesBack_of_rule found hx (iff_of_true rfl ⟨hboxed, ?_⟩)
  rw [halone]
  exact List.forall_mem_nil _

theorem crosses_boxed {n : ShapeId} {name reason : String}
    (found : shapes.get? id = some ⟨n, name, .boxed reason⟩) :
    Yields (shapes.toScript id (.dynamic .none)) (shapes.ComesBack id (.dynamic .none)) := by
  rw [toScript_eq, found]
  refine (newHandle_yields name (.dynamic .none)).mono ?_
  rintro x ⟨handle, rfl⟩
  refine comesBack_of_rule (w := .boxed ⟨handle, name, .dynamic .none⟩) found (if_pos rfl) ?_
  exact iff_of_false nofun fun h => by cases h.1

theorem crosses_array {n : ShapeId} {name : String} {length : Nat} {element : ShapeId}
    (found : shapes.get? id = some ⟨n, name, .array length element⟩) (hlength : length ≠ 0)
    (h : Yields (shapes.toScript element v) (shapes.ComesBack element v)) :
    Yields (shapes.toScript id (.array (List.replicate length v)))
      (shapes.ComesBack id (.array (List.replicate length v))) := by
  rw [toScript_eq, found]
  simp only [Shape.toScript, arrayToScript, List.length_replicate, if_true]
  have hitems : ∀ w ∈ List.replicate length v,
      Yields (shapes.toScript element w) (shapes.ComesBack element w) := by
    intro w hw
    rw [List.eq_of_mem_replicate hw]
    exact h
  refine (Yields.each 0 hitems).bind fun xs hxs => .pure ?_
  obtain ⟨ws, hws, hsame⟩ := exists_returned hxs
  have hsize : xs.length = length := hxs.length_eq.symm.trans List.length_replicate
  refine comesBack_of_rule (w := .array ws) found ?_ ?_
  · simp only [Shape.fromScript, arrayFromScript, passOr, passThrough?, if_pos hsize]
    rw [CrossM.each_eq_pure 0 hws, pure_bind]
  · rw [NativeValue.array.injEq, hsame]
    simp [ShapeKind.isBoxed, ShapeKind.inPlace, hlength]

theorem crosses_record {n : ShapeId} {name : String} {fields : List FieldShape}
    {values : List NativeValue} (found : shapes.get? id = some ⟨n, name, .record fields⟩)
    (hnames : (fields.map (·.name)).Nodup) (hlength : values.length = fields.length)
    (h : ∀ p ∈ fields.zip values,
      Yields (shapes.toScript p.1.shape p.2) (shapes.ComesBack p.1.shape p.2)) :
    Yields (shapes.toScript id (.struct values)) (shapes.ComesBack id (.struct values)) := by
  rw [toScript_eq, found]
  simp only [Shape.toScript, recordToScript, List.length_map, if_pos hlength]
  refine (Yields.fieldsToScript h).bind fun slots hslots => .pure ?_
  have hsame : slots.map (·.name) = fields.map (·.name) :=
    CrossM.names_of_fieldSlots hlength hslots
  obtain ⟨ws, hlengths, hws, hvalues⟩ := exists_returned_fields hlength hslots
  refine comesBack_of_rule (w := .struct ws) found ?_ ?_
  · simp only [Shape.fromScript, recordFromScript, passOr, passThrough?]
    rw [CrossM.fieldsFromScript_eq_pure (hsame ▸ hnames) hlengths (fun _ hs => hs) hws, pure_bind]
  · rw [NativeValue.struct.injEq, hvalues]
    simp [ShapeKind.isBoxed, ShapeKind.inPlace]

theorem zeroOf?_crosses (hparts : shapes.PartsKnown) (hfields : shapes.FieldsDistinct)
    {bound : Nat} : ∀ {id : ShapeId} {v : NativeValue}, (shapes.get? id).isSome →
      zeroOf? shapes bound id = some v →
      Yields (shapes.toScript id v) (shapes.ComesBack id v) := by
  induction bound with
  | zero =>
    intro id v _ h
    cases h
  | succ bound ih =>
    intro id v hsome h
    obtain ⟨shape, found⟩ := Option.isSome_iff_exists.1 hsome
    rw [zeroOf?, found] at h
    have hknown := hparts shape (mem_of_get? found)
    have hdistinct := hfields shape (mem_of_get? found)
    obtain ⟨n, name, kind⟩ := shape
    cases kind with
    | array length element =>
      simp only at h
      split at h
      · rename_i hzero
        cases h
        refine crosses_alone found rfl (if_pos hzero) ?_
        subst hzero
        exact .pure rfl
      · rename_i hlength
        obtain ⟨w, hw, rfl⟩ := Option.map_eq_some_iff.1 h
        have helement : (shapes.get? element).isSome :=
          hknown element (by simp [ShapeKind.inPlace, hlength])
        exact crosses_array found hlength (ih helement hw)
    | record fields =>
      obtain ⟨values, hvalues, rfl⟩ := Option.map_eq_some_iff.1 h
      have hzeros := mapM_eq_some_iff.1 hvalues
      refine crosses_record found hdistinct hzeros.length_eq.symm fun p hp => ?_
      have hfield : p.1.shape ∈ fields.map (·.shape) :=
        List.mem_map_of_mem (List.of_mem_zip hp).1
      exact ih (hknown p.1.shape hfield) ((List.forall₂_iff_zip.1 hzeros).2 hp)
    | boxed reason =>
      cases h
      exact crosses_boxed found
    | scalar s =>
      refine crosses_alone found rfl rfl (Scalar.toScript_yields_fromScript ?_)
      cases s with
      | int width signedness =>
        cases signedness with
        | signed => cases h; exact Signedness.fits_zero_signed width
        | unsigned => cases h; exact Signedness.fits_zero_unsigned width
      | float precision => cases h; exact Precision.round_zero precision
      | _ => cases h; trivial
    | slice element | map value | pointer element | func signature | chan direction element
    | interface methods =>
      cases h
      exact crosses_alone found rfl rfl (.pure rfl)

end ShapeTable

/-- A zero value crosses to the script, and what the script got crosses back, whatever happened in
between. It is the zero value again unless something in it is in a box: that comes back in the box
in which it crossed. -/
theorem Library.zeroValue_crosses (lib : Library) (hparts : lib.shapes.PartsKnown)
    (hfields : lib.shapes.FieldsDistinct) {id : ShapeId} {v : NativeValue}
    (hid : (lib.shapes.get? id).isSome) (hzero : lib.zeroValue? id = some v) (b : Boundary) :
    ∃ x b', lib.toScript id v b = (.ok x, b') ∧
      ∃ w, (∀ c, lib.fromScript id x c = (.ok w, c)) ∧ (w = v ↔ lib.shapes.Unboxed id) := by
  obtain ⟨x, b', hx, w, hback, hsame⟩ :=
    (ShapeTable.zeroOf?_crosses hparts hfields hid hzero).mapError lib.names.explain b
  refine ⟨x, b', hx, w, fun c => ?_, hsame⟩
  rw [Library.fromScript_eq, hback]
  rfl

/-- A struct of arrays that can be followed by another one. -/
def gridLibrary : Library :=
  ⟨.ofList [("float64", .scalar (.float .double)), ("[2]float64", .array 2 0),
    ("[2][2]float64", .array 2 1), ("*Grid", .pointer 4),
    ("Grid", .record [⟨"cells", 2⟩, ⟨"next", 3⟩])], .empty⟩

def gridZero : NativeValue :=
  .struct [.array [.array [.float .zero, .float .zero], .array [.float .zero, .float .zero]],
    .pointer none]

theorem unboxed_gridLibrary : gridLibrary.shapes.Unboxed 4 := by
  have hcell : gridLibrary.shapes.Unboxed 0 := by
    rw [ShapeTable.unboxed_iff rfl]
    exact ⟨rfl, List.forall_mem_nil _⟩
  have hrow : gridLibrary.shapes.Unboxed 1 := by
    rw [ShapeTable.unboxed_iff rfl]
    exact ⟨rfl, List.forall_mem_singleton.2 hcell⟩
  have hcells : gridLibrary.shapes.Unboxed 2 := by
    rw [ShapeTable.unboxed_iff rfl]
    exact ⟨rfl, List.forall_mem_singleton.2 hrow⟩
  have hnext : gridLibrary.shapes.Unboxed 3 := by
    rw [ShapeTable.unboxed_iff rfl]
    exact ⟨rfl, List.forall_mem_nil _⟩
  rw [ShapeTable.unboxed_iff rfl]
  exact ⟨rfl, List.forall_mem_cons.2 ⟨hcells, List.forall_mem_singleton.2 hnext⟩⟩

theorem zeroValue_crosses_grid :
    ∃ x b', gridLibrary.toScript 4 gridZero .empty = (.ok x, b') ∧
      ∀ c, gridLibrary.fromScript 4 x c = (.ok gridZero, c) := by
  have hparts : gridLibrary.shapes.PartsKnown := by decide
  have hfields : gridLibrary.shapes.FieldsDistinct := by decide
  have hzero : gridLibrary.zeroValue? 4 = some gridZero := rfl
  obtain ⟨x, b', hx, w, hback, hsame⟩ :=
    Library.zeroValue_crosses gridLibrary hparts hfields rfl hzero .empty
  exact ⟨x, b', hx, hsame.2 unboxed_gridLibrary ▸ hback⟩

end ScriptBind
