import ScriptBind.Proofs.Crossing.Pointer

/-!
# ScriptBind.Proofs.Crossing.RoundTrip

A typed value that native code made alone comes back from the script as it was.

* `ShapeTable.Unambiguous` - no script value can be taken for that of another shape.
* `Shape.toScript_yields_fromScript` - the leaves come back.
* `ShapeTable.Typed.toScript_yields_fromScript` - so does everything, by induction on the typing.
* `Library.fromScript_toScript` - the same of the conversions of a library.

The case to watch is the pointer, because its target crosses in its place: a target must not look
like a nil pointer or like a handle of the pointer type (`ShapeTable.not_reserved`).
-/

namespace ScriptBind

open CrossM (Gives Yields EntrySlot FieldSlot)

structure ShapeTable.Unambiguous (shapes : ShapeTable) : Prop where
  names : (shapes.shapes.toList.map (·.name)).Nodup
  fields : ∀ shape ∈ shapes.shapes.toList, ∀ fields, shape.kind = .record fields →
    (fields.map (·.name)).Nodup
  pointees : ∀ shape ∈ shapes.shapes.toList, ∀ element, shape.kind = .pointer element →
    ∃ target, shapes.get? element = some target ∧ target.kind.isPointee = true

/-! ### Leaves -/

theorem Scalar.toScript_yields_fromScript {s : Scalar} {v : NativeValue} (h : s.Holds v) :
    Yields (s.toScript v) fun x => s.fromScript x = pure v := by
  cases s with
  | bool => cases v <;> first | exact h.elim | exact .pure rfl
  | int width signedness =>
    have hwrap := Signedness.wrap_of_fits h
    have hscript : (Scalar.int width signedness).toScript v =
        pure (.int (Signedness.scriptInt v)) := by
      cases signedness <;> cases v <;> first | exact h.elim | rfl
    rw [hscript]
    refine .pure ?_
    rw [Scalar.fromScript, hwrap]
  | float precision =>
    cases v with
    | float x =>
      have hround : precision.round x = x := h
      refine .pure ?_
      rw [Scalar.fromScript, hround]
    | _ => exact h.elim
  | string => cases v <;> first | exact h.elim | exact .pure rfl
  | any => cases v <;> first | exact h.elim | exact .pure rfl
  | error =>
    cases v with
    | error message => cases message <;> exact .pure rfl
    | _ => exact h.elim

theorem Shape.toScript_yields_fromScript {shape : Shape} {f : ShapeId → ToScript}
    (g : ShapeId → FromScript) {v : NativeValue} (hparts : shape.kind.hasParts = false)
    (h : shape.HoldsPlain v) :
    Yields (shape.toScript f v) fun x => shape.fromScript g x = pure v := by
  obtain ⟨n, name, kind⟩ := shape
  obtain ⟨hv, hplain⟩ := h
  cases kind with
  | scalar s => exact Scalar.toScript_yields_fromScript hv
  | func signature =>
    cases v with
    | func function =>
      cases function with
      | none => exact .pure rfl
      | some k =>
        have horigin : k.origin = none := hplain
        simp only [Shape.toScript, funcToScript, horigin]
        exact .pure rfl
    | _ => exact hv.elim
  | chan direction element =>
    cases v with
    | chan native =>
      cases native with
      | none => exact .pure rfl
      | some c => exact hplain.elim
    | _ => exact hv.elim
  | interface methods =>
    cases v with
    | interface object =>
      cases object with
      | none => exact .pure rfl
      | some o =>
        have hscript : o.scriptValue? = none := hplain
        simp only [Shape.toScript, interfaceToScript, objectToScript, hscript]
        refine (newHandle_yields _ _).mono ?_
        rintro x ⟨id, rfl⟩
        simp only [Shape.fromScript, interfaceFromScript, if_true]
    | _ => exact hv.elim
  | boxed reason =>
    cases v with
    | boxed handle =>
      have hname : handle.typeName = name := hv
      refine .pure ?_
      simp only [Shape.fromScript, boxedFromScript, if_pos hname]
    | _ => exact hv.elim
  | _ => cases hparts

/-! ### Every depth -/

namespace ShapeTable

variable {shapes : ShapeTable} {id : ShapeId} {v : NativeValue}

theorem Typed.toScript_yields_fromScript (hshapes : shapes.Unambiguous)
    (h : shapes.Typed Shape.HoldsPlain id v) :
    Yields (shapes.toScript id v) fun x => shapes.fromScript id x = pure v := by
  induction h with
  | leaf found hparts hv =>
    rw [toScript_eq, found]
    refine (Shape.toScript_yields_fromScript shapes.fromScript hparts hv).mono ?_
    intro x hx
    rw [fromScript_eq, found]
    exact hx
  | slice found _ ih =>
    rw [toScript_eq, found]
    refine (Yields.each 0 ih).bind fun xs hxs => .pure ?_
    rw [fromScript_eq, found]
    show CrossM.each _ 0 xs >>= _ = _
    rw [CrossM.each_eq_pure 0 hxs, pure_bind]
  | array found hlength _ ih =>
    rw [toScript_eq, found]
    simp only [Shape.toScript, arrayToScript, if_pos hlength]
    refine (Yields.each 0 ih).bind fun xs hxs => .pure ?_
    rw [fromScript_eq, found]
    have hsame : xs.length = _ := hxs.length_eq.symm.trans hlength
    simp only [Shape.fromScript, arrayFromScript, passOr, passThrough?, if_pos hsame]
    rw [CrossM.each_eq_pure 0 hxs, pure_bind]
  | map found _ ih =>
    rw [toScript_eq, found]
    refine (Yields.entriesToScript (P := fun v x => shapes.fromScript _ x = pure v) ih).bind
      fun xs hxs => .pure ?_
    rw [fromScript_eq, found]
    show entriesFromScript _ xs >>= _ = _
    rw [CrossM.entriesFromScript_eq_pure hxs, pure_bind]
  | nil found =>
    rw [toScript_eq, found]
    refine .pure ?_
    rw [fromScript_eq, found]
    rfl
  | @pointer id n name element target found htarget ih =>
    obtain ⟨shape, hshape, hkind⟩ := hshapes.pointees _ (mem_of_get? found) element rfl
    have hfree (x : Value) (hx : Gives (shapes.toScript element target) x) :
        x.isReserved name = false :=
      htarget.isReserved_eq_false (fun _ _ h => h.1) hshapes.names found
        (not_reserved hshape hkind) hx
    rw [toScript_pointer found]
    refine (ih.and_gives hfree).mono ?_
    rintro x ⟨hback, hx⟩
    rw [fromScript_eq, found]
    simp only [Shape.fromScript]
    rw [pointerFromScript_of_not_reserved hx, hback, pure_bind]
  | @record id n name fields values found hlength _ ih =>
    have hfields := hshapes.fields _ (mem_of_get? found) fields rfl
    rw [toScript_eq, found]
    simp only [Shape.toScript, recordToScript, List.length_map, if_pos hlength]
    refine (Yields.fieldsToScript (P := fun id v x => shapes.fromScript id x = pure v) ih).bind
      fun slots hslots => .pure ?_
    have hnames : slots.map (·.name) = fields.map (·.name) :=
      CrossM.names_of_fieldSlots hlength hslots
    rw [fromScript_eq, found]
    simp only [Shape.fromScript, recordFromScript, passOr, passThrough?]
    rw [CrossM.fieldsFromScript_eq_pure (hnames ▸ hfields) hlength (fun _ hs => hs) hslots,
      pure_bind]

end ShapeTable

/-- A typed value that native code made alone crosses to the script, and what the script got
crosses back to that value, whatever happened in between. The way back changes nothing. -/
theorem Library.fromScript_toScript (lib : Library) (hshapes : lib.shapes.Unambiguous)
    {id : ShapeId} {v : NativeValue} (hv : lib.shapes.Typed Shape.HoldsPlain id v)
    (b : Boundary) :
    ∃ x b', lib.toScript id v b = (.ok x, b') ∧ ∀ c, lib.fromScript id x c = (.ok v, c) := by
  obtain ⟨x, b', hx, hback⟩ := (hv.toScript_yields_fromScript hshapes).mapError lib.names.explain b
  refine ⟨x, b', hx, fun c => ?_⟩
  rw [Library.fromScript_eq, hback]
  rfl

/-- A panel has a part of every kind that crosses in its own way. -/
def panelLibrary : Library :=
  ⟨.ofList [("uint8", .scalar (.int 8 .unsigned)), ("any", .scalar .any),
    ("Window", .boxed "no fields"), ("Drawer", .interface []),
    ("Panel", .record [⟨"level", 0⟩, ⟨"tag", 1⟩, ⟨"window", 2⟩, ⟨"drawer", 3⟩]),
    ("*Panel", .pointer 4)], .empty⟩

def panelNative : NativeValue :=
  .pointer (some (.struct [.uint 200, .dynamic (.list [.int 0]),
    .boxed ⟨7, "Window", .string "frame"⟩, .interface (some (.library 3 "Pen"))]))

theorem panelLibrary_unambiguous : panelLibrary.shapes.Unambiguous where
  names := by decide
  fields shape hshape fields hkind := by
    have hmem := ShapeTable.mem_ofList hshape
    rw [hkind] at hmem
    obtain ⟨-, rfl⟩ : shape.name = "Panel" ∧
        fields = [⟨"level", 0⟩, ⟨"tag", 1⟩, ⟨"window", 2⟩, ⟨"drawer", 3⟩] := by simpa using hmem
    decide
  pointees shape hshape element hkind := by
    have hmem := ShapeTable.mem_ofList hshape
    rw [hkind] at hmem
    obtain ⟨-, rfl⟩ : shape.name = "*Panel" ∧ element = 4 := by simpa using hmem
    exact ⟨_, rfl, rfl⟩

theorem panelNative_typed : panelLibrary.shapes.Typed Shape.HoldsPlain 5 panelNative := by
  refine .pointer rfl (.record rfl rfl ?_)
  intro p hp
  simp only [List.zip_cons_cons, List.zip_nil_right, List.mem_cons, List.not_mem_nil,
    or_false] at hp
  have hlevel : Signedness.unsigned.Fits 8 (.uint 200) := Signedness.inRange_unsigned.2 (by decide)
  rcases hp with rfl | rfl | rfl | rfl
  · exact .leaf rfl rfl ⟨hlevel, trivial⟩
  · exact .leaf rfl rfl ⟨trivial, trivial⟩
  · exact .leaf rfl rfl ⟨rfl, trivial⟩
  · exact .leaf rfl rfl ⟨trivial, rfl⟩

theorem fromScript_toScript_panel :
    ∃ x b', panelLibrary.toScript 5 panelNative .empty = (.ok x, b') ∧
      ∀ c, panelLibrary.fromScript 5 x c = (.ok panelNative, c) :=
  Library.fromScript_toScript panelLibrary panelLibrary_unambiguous panelNative_typed .empty

end ScriptBind
