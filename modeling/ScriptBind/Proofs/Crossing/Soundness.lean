import ScriptBind.Proofs.Crossing.Items
import ScriptBind.Proofs.Crossing.Typing
import ScriptBind.Proofs.Number.Single

/-!
# ScriptBind.Proofs.Crossing.Soundness

Whatever a script hands over, native code gets a value of the shape that it asked for.

* `Value.HandleFree` - no handles, which would pass without conversion.
* `ShapeTable.typed_of_convertFrom` - an answer is typed, by induction on the bound.
* `ShapeTable.Typed.toScript_yields` - a typed value crosses back, by induction on its typing.
* `Library.fromScript_sound` - both, of the conversions of a library.
-/

namespace ScriptBind

open CrossM (Gives Yields)

/-- A conversion does not look into the slots of a context, so handles may stand there. -/
inductive Value.HandleFree : Value → Prop where
  | intro {x : Value} : (∀ h, x ≠ .native h) → (∀ y ∈ x.parts, HandleFree y) → HandleFree x

theorem Value.HandleFree.ne_native {x : Value} (h : x.HandleFree) (handle : Handle) :
    x ≠ .native handle := by
  cases h with
  | intro hne _ => exact hne handle

theorem Value.HandleFree.of_mem_parts {x y : Value} (h : x.HandleFree) (hy : y ∈ x.parts) :
    y.HandleFree := by
  cases h with
  | intro _ hparts => exact hparts y hy

theorem passOr_of_ne_native {typeName : String} {convert : FromScript} {x : Value}
    (h : ∀ handle, x ≠ .native handle) : passOr typeName convert x = convert x := by
  cases x with
  | native handle => exact absurd rfl (h handle)
  | _ => rfl

/-! ### Leaves -/

theorem Precision.round_round (p : Precision) (x : Double) : p.round (p.round x) = p.round x := by
  cases p with
  | single => exact Double.toSingle_toSingle x
  | double => rfl

namespace Scalar

theorem holds_of_fromScript {s : Scalar} {x : Value} {v : NativeValue}
    (h : Gives (s.fromScript x) v) : s.Holds v := by
  cases s with
  | bool =>
    cases x <;> simp only [fromScript, CrossM.gives_pure, CrossM.not_gives_fail] at h
    subst h
    trivial
  | int width signedness =>
    cases x <;> simp only [fromScript, CrossM.gives_pure, CrossM.not_gives_fail] at h
    subst h
    exact signedness.fits_wrap width _
  | float precision =>
    cases x <;> simp only [fromScript, CrossM.gives_pure, CrossM.not_gives_fail] at h
    · subst h
      exact precision.round_round _
    · subst h
      exact precision.round_round _
  | string =>
    cases x <;> simp only [fromScript, CrossM.gives_pure, CrossM.not_gives_fail] at h
    subst h
    trivial
  | any =>
    simp only [fromScript, CrossM.gives_pure] at h
    subst h
    trivial
  | error =>
    cases x <;> simp only [fromScript, CrossM.gives_pure, CrossM.not_gives_fail] at h <;>
      subst h <;> trivial

theorem toScript_yields {s : Scalar} {v : NativeValue} (h : s.Holds v) :
    Yields (s.toScript v) fun _ => True := by
  cases s with
  | int width signedness =>
    cases signedness <;> cases v <;> first | exact h.elim | exact .pure trivial
  | error =>
    cases v with
    | error message => cases message <;> exact .pure trivial
    | _ => exact h.elim
  | _ => cases v <;> first | exact h.elim | exact .pure trivial

end Scalar

namespace Shape

theorem holds_of_fromScript {shape : Shape} {f : ShapeId → FromScript} {x : Value}
    {v : NativeValue} (hparts : shape.kind.hasParts = false) (hx : ∀ h, x ≠ .native h)
    (h : Gives (shape.fromScript f x) v) : shape.Holds v := by
  obtain ⟨n, name, kind⟩ := shape
  cases kind with
  | scalar s => exact Scalar.holds_of_fromScript h
  | func signature =>
    simp only [fromScript] at h
    unfold funcFromScript at h
    split at h
    · rw [CrossM.gives_pure.1 h]; trivial
    · split at h
      · rw [CrossM.gives_pure.1 h]; trivial
      · exact (CrossM.not_gives_fail h).elim
    · rw [CrossM.gives_pure.1 h]; trivial
    · obtain ⟨g, -, rfl⟩ := h.of_bind_pure
      trivial
    · exact absurd rfl (hx _)
    · exact (CrossM.not_gives_fail h).elim
  | chan direction element =>
    simp only [fromScript] at h
    unfold chanFromScript at h
    split at h
    · rw [CrossM.gives_pure.1 h]; trivial
    · split at h
      · rw [CrossM.gives_pure.1 h]; trivial
      · exact (CrossM.not_gives_fail h).elim
    · obtain ⟨g, -, rfl⟩ := h.of_bind_pure
      trivial
    · exact absurd rfl (hx _)
    · exact (CrossM.not_gives_fail h).elim
  | interface methods =>
    simp only [fromScript] at h
    unfold interfaceFromScript at h
    split at h
    · rw [CrossM.gives_pure.1 h]; trivial
    · exact absurd rfl (hx _)
    · obtain ⟨object, -, rfl⟩ := h.of_bind_pure
      trivial
    · exact (CrossM.not_gives_fail h).elim
  | boxed reason =>
    simp only [fromScript] at h
    unfold boxedFromScript at h
    split at h
    · exact absurd rfl (hx _)
    · exact (CrossM.not_gives_fail h).elim
  | _ => cases hparts

theorem toScript_yields {shape : Shape} {f : ShapeId → ToScript} {v : NativeValue}
    (hparts : shape.kind.hasParts = false) (h : shape.Holds v) :
    Yields (shape.toScript f v) fun _ => True := by
  obtain ⟨n, name, kind⟩ := shape
  cases kind with
  | scalar s => exact Scalar.toScript_yields h
  | func signature =>
    cases v with
    | func function =>
      cases function with
      | none => exact .pure trivial
      | some g =>
        simp only [toScript, funcToScript]
        split <;> exact .pure trivial
    | _ => exact h.elim
  | chan direction element =>
    cases v with
    | chan native =>
      cases native with
      | none => exact .pure trivial
      | some c =>
        exact Yields.bind (P := fun _ => True) (.update fun _ => trivial) fun _ _ => .pure trivial
    | _ => exact h.elim
  | interface methods =>
    cases v with
    | interface object =>
      cases object with
      | none => exact .pure trivial
      | some o =>
        simp only [toScript, interfaceToScript, objectToScript]
        split
        · exact .pure trivial
        · exact (newHandle_yields _ _).mono fun _ _ => trivial
    | _ => exact h.elim
  | boxed reason =>
    cases v with
    | boxed handle => exact .pure trivial
    | _ => exact h.elim
  | _ => cases hparts

end Shape

/-! ### Every depth -/

namespace ShapeTable

variable {shapes : ShapeTable}

theorem typed_of_convertFrom {bound : Nat} : ∀ {id : ShapeId} {x : Value} {v : NativeValue},
    x.HandleFree → Gives (convertFrom shapes bound id x) v → shapes.Typed Shape.Holds id v := by
  induction bound with
  | zero =>
    intro id x v hx h
    exact (CrossM.not_gives_endless h).elim
  | succ bound ih =>
    intro id x v hx h
    rw [convertFrom] at h
    split at h
    · exact (CrossM.not_gives_fail h).elim
    rename_i shape found
    by_cases hparts : shape.kind.hasParts = false
    · exact .leaf found hparts (Shape.holds_of_fromScript hparts hx.ne_native h)
    have hitem : ∀ id, ∀ y ∈ x.parts, ∀ w, Gives (convertFrom shapes bound id y) w →
        shapes.Typed Shape.Holds id w := fun id y hy w hw => ih (hx.of_mem_parts hy) hw
    obtain ⟨n, name, kind⟩ := shape
    cases kind with
    | slice element =>
      simp only [Shape.fromScript, sliceFromScript, passOr_of_ne_native hx.ne_native] at h
      split at h
      · obtain ⟨ys, hys, rfl⟩ := h.of_bind_pure
        exact .slice found (hys.each (hitem element)).2
      · rw [CrossM.gives_pure.1 h]
        exact .slice found (by simp)
      · exact (CrossM.not_gives_fail h).elim
    | array length element =>
      simp only [Shape.fromScript, arrayFromScript, passOr_of_ne_native hx.ne_native] at h
      split at h
      · split at h
        · rename_i hlength
          obtain ⟨ys, hys, rfl⟩ := h.of_bind_pure
          obtain ⟨hsame, htyped⟩ := hys.each (hitem element)
          exact .array found (hsame.trans hlength) htyped
        · exact (CrossM.not_gives_fail h).elim
      · exact (CrossM.not_gives_fail h).elim
    | map value =>
      simp only [Shape.fromScript, mapFromScript, passOr_of_ne_native hx.ne_native] at h
      split at h
      · obtain ⟨ys, hys, rfl⟩ := h.of_bind_pure
        exact .map found (hys.entriesFromScript (hitem value))
      · rw [CrossM.gives_pure.1 h]
        exact .map found (by simp)
      · exact (CrossM.not_gives_fail h).elim
    | pointer element =>
      simp only [Shape.fromScript, pointerFromScript, passOr_of_ne_native hx.ne_native] at h
      split at h
      · rw [CrossM.gives_pure.1 h]
        exact .nil found
      · split at h
        · rw [CrossM.gives_pure.1 h]
          exact .nil found
        · exact (CrossM.not_gives_fail h).elim
      · obtain ⟨t, ht, rfl⟩ := h.of_bind_pure
        exact .pointer found (ih hx ht)
    | record fields =>
      simp only [Shape.fromScript, recordFromScript, passOr_of_ne_native hx.ne_native] at h
      split at h
      · obtain ⟨ys, hys, rfl⟩ := h.of_bind_pure
        obtain ⟨hlength, htyped⟩ := hys.fieldsFromScript hitem
        exact .record found hlength htyped
      · obtain ⟨ys, hys, rfl⟩ := h.of_bind_pure
        obtain ⟨hlength, htyped⟩ := hys.fieldsFromScript hitem
        exact .record found hlength htyped
      · exact (CrossM.not_gives_fail h).elim
    | _ => exact absurd rfl hparts

theorem Typed.toScript_yields {id : ShapeId} {v : NativeValue}
    (h : shapes.Typed Shape.Holds id v) : Yields (shapes.toScript id v) fun _ => True := by
  induction h with
  | leaf found hparts hv =>
    rw [toScript_eq, found]
    exact Shape.toScript_yields hparts hv
  | slice found _ ih =>
    rw [toScript_eq, found]
    exact (Yields.each 0 ih).bind fun _ _ => .pure trivial
  | array found hlength _ ih =>
    rw [toScript_eq, found]
    simp only [Shape.toScript, arrayToScript, if_pos hlength]
    exact (Yields.each 0 ih).bind fun _ _ => .pure trivial
  | map found _ ih =>
    rw [toScript_eq, found]
    exact (Yields.entriesToScript (P := fun _ _ => True) ih).bind fun _ _ => .pure trivial
  | nil found =>
    rw [toScript_eq, found]
    exact .pure trivial
  | pointer found _ ih =>
    rw [toScript_eq, found]
    exact ih
  | record found hlength _ ih =>
    rw [toScript_eq, found]
    simp only [Shape.toScript, recordToScript, List.length_map, if_pos hlength]
    exact (Yields.fieldsToScript (P := fun _ _ _ => True) ih).bind fun _ _ => .pure trivial

end ShapeTable

/-- What comes out of a script value without handles is typed at every depth, and crosses back
whatever the boundary has become. -/
theorem Library.fromScript_sound (lib : Library) {id : ShapeId} {x : Value} {v : NativeValue}
    {b b' : Boundary} (hx : x.HandleFree) (h : lib.fromScript id x b = (.ok v, b')) :
    lib.shapes.Typed Shape.Holds id v ∧ ∀ c, ∃ y c', lib.toScript id v c = (.ok y, c') := by
  have hgives : Gives (lib.fromScript id x) v := ⟨b, b', h⟩
  rw [Library.fromScript_eq] at hgives
  have htyped := ShapeTable.typed_of_convertFrom hx hgives.of_mapError
  refine ⟨htyped, fun c => ?_⟩
  obtain ⟨y, c', hy, -⟩ := htyped.toScript_yields.mapError lib.names.explain c
  exact ⟨y, c', hy⟩

/-- A chain of records, each with a number and a pointer to the next. -/
def chainLibrary : Library :=
  ⟨.ofList [("int8", .scalar (.int 8 .signed)), ("*Chain", .pointer 2),
    ("Chain", .record [⟨"value", 0⟩, ⟨"next", 1⟩])], .empty⟩

/-- One record is a dict with a field too many, the other ends the chain with a zero. -/
def chainScript : Value :=
  .dict [⟨"extra", .bool true⟩, ⟨"next", .record "Chain" [⟨"value", .int 1⟩, ⟨"next", .int 0⟩]⟩,
    ⟨"value", .int 300⟩]

theorem chainScript_handleFree : chainScript.HandleFree := by
  have hbool : (Value.bool true).HandleFree := .intro (by simp) (by simp [Value.parts])
  have hint : ∀ n, (Value.int n).HandleFree := fun n => .intro (by simp) (by simp [Value.parts])
  have hlast : (Value.record "Chain" [⟨"value", .int 1⟩, ⟨"next", .int 0⟩]).HandleFree :=
    .intro (by simp) (by simp [Value.parts, hint])
  exact .intro (by simp [chainScript]) (by simp [chainScript, Value.parts, hbool, hint, hlast])

def chainNative : NativeValue :=
  .struct [.int 44, .pointer (some (.struct [.int 1, .pointer none]))]

theorem fromScript_sound_chain :
    chainLibrary.fromScript 2 chainScript .empty = (.ok chainNative, .empty) ∧
      chainLibrary.shapes.Typed Shape.Holds 2 chainNative ∧
        ∀ c, ∃ y c', chainLibrary.toScript 2 chainNative c = (.ok y, c') :=
  ⟨rfl, Library.fromScript_sound chainLibrary (b := .empty) chainScript_handleFree rfl⟩

end ScriptBind
