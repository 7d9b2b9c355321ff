import ScriptBind.Proofs.Crossing.Soundness
import ScriptBind.Proofs.Lists

/-!
# ScriptBind.Proofs.Crossing.ZeroValues

Where the value that native code has when nothing was assigned is a value of its own type.

* `ShapeTable.Zeroable` - no boxed value and no missing shape is held in place.
* `ShapeTable.typed_zeroOf?_iff` - then the zero value is typed, and only then.
-/

namespace ScriptBind

/-- The parts that a value has in place, whatever the value is. -/
def ShapeKind.inPlace : ShapeKind → List ShapeId
  | .array length element => if length = 0 then [] else [element]
  | .record fields => fields.map (·.shape)
  | _ => []

theorem Signedness.fits_zero_signed (width : Nat) : signed.Fits width (.int 0) := by
  rcases keptBits_eq width with rfl | rfl | rfl | ⟨-, -, -, hkept⟩ <;>
    simp [Fits, inRange_signed, keptBits]

theorem Signedness.fits_zero_unsigned (width : Nat) : unsigned.Fits width (.uint 0) := by
  rcases keptBits_eq width with rfl | rfl | rfl | ⟨-, -, -, hkept⟩ <;>
    simp [Fits, inRange_unsigned, keptBits]

theorem Precision.round_zero (p : Precision) : p.round .zero = .zero := by
  cases p <;> decide

namespace ShapeTable

inductive Zeroable (shapes : ShapeTable) : ShapeId → Prop where
  | intro {id : ShapeId} {shape : Shape} (found : shapes.get? id = some shape)
      (hboxed : shape.kind.isBoxed = false)
      (hparts : ∀ part ∈ shape.kind.inPlace, Zeroable shapes part) : Zeroable shapes id

variable {shapes : ShapeTable} {id : ShapeId}

theorem zeroable_iff {shape : Shape} (found : shapes.get? id = some shape) :
    shapes.Zeroable id ↔
      shape.kind.isBoxed = false ∧ ∀ part ∈ shape.kind.inPlace, shapes.Zeroable part := by
  constructor
  · rintro ⟨found', hboxed, hparts⟩
    obtain rfl := Option.some.inj (found.symm.trans found')
    exact ⟨hboxed, hparts⟩
  · rintro ⟨hboxed, hparts⟩
    exact .intro found hboxed hparts

theorem typed_leaf_iff {Leaf : Shape → NativeValue → Prop} {shape : Shape} {v : NativeValue}
    (found : shapes.get? id = some shape) (hparts : shape.kind.hasParts = false) :
    shapes.Typed Leaf id v ↔ Leaf shape v := by
  refine ⟨fun h => ?_, .leaf found hparts⟩
  cases h with
  | leaf found' _ hv =>
    obtain rfl := Option.some.inj (found.symm.trans found')
    exact hv
  | slice found' | array found' | map found' | nil found' | pointer found' | record found' =>
    obtain rfl := Option.some.inj (found.symm.trans found')
    cases hparts

theorem typed_array_iff {Leaf : Shape → NativeValue → Prop} {n : ShapeId} {name : String}
    {length : Nat} {element : ShapeId} {items : List NativeValue}
    (found : shapes.get? id = some ⟨n, name, .array length element⟩) :
    shapes.Typed Leaf id (.array items) ↔
      items.length = length ∧ ∀ v ∈ items, shapes.Typed Leaf element v := by
  refine ⟨fun h => ?_, fun h => .array found h.1 h.2⟩
  cases h with
  | leaf found' hparts =>
    obtain rfl := Option.some.inj (found.symm.trans found')
    cases hparts
  | array found' hlength hitems =>
    cases found.symm.trans found'
    exact ⟨hlength, hitems⟩

theorem typed_struct_iff {Leaf : Shape → NativeValue → Prop} {n : ShapeId} {name : String}
    {fields : List FieldShape} {values : List NativeValue}
    (found : shapes.get? id = some ⟨n, name, .record fields⟩) :
    shapes.Typed Leaf id (.struct values) ↔
      List.Forall₂ (fun field v => shapes.Typed Leaf field.shape v) fields values := by
  rw [List.forall₂_iff_zip]
  refine ⟨fun h => ?_, fun h => .record found h.1.symm fun p hp => h.2 hp⟩
  cases h with
  | leaf found' hparts =>
    obtain rfl := Option.some.inj (found.symm.trans found')
    cases hparts
  | record found' hlength hfields =>
    cases found.symm.trans found'
    exact ⟨hlength.symm, fun hp => hfields _ hp⟩

theorem typed_zeroOf?_iff {bound : Nat} : ∀ {id : ShapeId} {v : NativeValue},
    zeroOf? shapes bound id = some v →
    (shapes.Typed Shape.Holds id v ↔ shapes.Zeroable id) := by
  induction bound with
  | zero =>
    intro id v h
    cases h
  | succ bound ih =>
    intro id v h
    rw [zeroOf?] at h
    split at h
    · rename_i hmissing
      refine iff_of_false (fun htyped => ?_) ?_
      · have hsome := htyped.isSome
        rw [hmissing] at hsome
        cases hsome
      · rintro ⟨found, -, -⟩
        cases hmissing.symm.trans found
    rename_i shape found
    rw [zeroable_iff found]
    obtain ⟨n, name, kind⟩ := shape
    cases kind with
    | array length element =>
      simp only at h
      split at h
      · rename_i hzero
        cases h
        rw [typed_array_iff found]
        simp [ShapeKind.isBoxed, ShapeKind.inPlace, hzero]
      · rename_i hlength
        obtain ⟨w, hw, rfl⟩ := Option.map_eq_some_iff.1 h
        rw [typed_array_iff found]
        simp [ShapeKind.isBoxed, ShapeKind.inPlace, hlength, ih hw]
    | record fields =>
      obtain ⟨values, hvalues, rfl⟩ := Option.map_eq_some_iff.1 h
      rw [typed_struct_iff found]
      simp only [ShapeKind.isBoxed, ShapeKind.inPlace, List.forall_mem_map, true_and]
      replace hvalues := mapM_eq_some_iff.1 hvalues
      clear h found
      induction hvalues with
      | nil => simp
      | cons hv _ ihrest =>
        simp only [List.forall₂_cons, ih hv, ihrest, List.forall_mem_cons]
    | boxed reason =>
      cases h
      rw [typed_leaf_iff found rfl]
      simp [Shape.Holds, ShapeKind.isBoxed]
    | scalar s =>
      rw [typed_leaf_iff found rfl]
      refine iff_of_true ?_ ⟨rfl, List.forall_mem_nil _⟩
      cases s with
      | int width signedness =>
        cases signedness with
        | signed => cases h; exact Signedness.fits_zero_signed width
        | unsigned => cases h; exact Signedness.fits_zero_unsigned width
      | float precision => cases h; exact Precision.round_zero precision
      | _ => cases h; trivial
    | slice element =>
      cases h
      exact iff_of_true (.slice found (List.forall_mem_nil _)) ⟨rfl, List.forall_mem_nil _⟩
    | map value =>
      cases h
      exact iff_of_true (.map found (List.forall_mem_nil _)) ⟨rfl, List.forall_mem_nil _⟩
    | pointer element =>
      cases h
      exact iff_of_true (.nil found) ⟨rfl, List.forall_mem_nil _⟩
    | func signature | chan direction element | interface methods =>
      cases h
      exact iff_of_true (.leaf found rfl trivial) ⟨rfl, List.forall_mem_nil _⟩

end ShapeTable
end ScriptBind
