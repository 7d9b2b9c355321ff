import ScriptBind.Binding.Generator
import ScriptBind.Proofs.Crossing.ZeroValues
import ScriptBind.Proofs.Height

/-!
# ScriptBind.Proofs.Crossing.ZeroEnds

For which shapes the search for the zero value comes to an end.

* `ShapeTable.HasInPlace` - from a shape to one that its values hold in place.
* `ShapeTable.isSome_zeroOf?_succ_iff` - one rule finds a zero value if it does for all parts.
* `Library.isSome_zeroValue?_iff` - it is found unless a shape in place holds itself in place.
* `struct_in_itself_has_no_zero` - a declared type without a zero value.
-/

namespace ScriptBind
namespace ShapeTable

def HasInPlace (shapes : ShapeTable) (id part : ShapeId) : Prop :=
  ∃ shape, shapes.get? id = some shape ∧ part ∈ shape.kind.inPlace

variable {shapes : ShapeTable} {id part : ShapeId} {bound bound' : Nat} {v : NativeValue}

theorem HasInPlace.lt_size (h : shapes.HasInPlace id part) : id < shapes.size := by
  obtain ⟨shape, found, -⟩ := h
  exact (Array.getElem?_eq_some_iff.1 found).1

theorem hasInPlace_iff {shape : Shape} (found : shapes.get? id = some shape) :
    shapes.HasInPlace id part ↔ part ∈ shape.kind.inPlace := by
  constructor
  · rintro ⟨shape', found', hpart⟩
    obtain rfl := Option.some.inj (found.symm.trans found')
    exact hpart
  · intro hpart
    exact ⟨shape, found, hpart⟩

/-- A rule without parts in place always finds one, and so does a missing rule. -/
theorem isSome_zeroOf?_succ_iff :
    (zeroOf? shapes (bound + 1) id).isSome ↔
      ∀ part, shapes.HasInPlace id part → (zeroOf? shapes bound part).isSome := by
  rw [zeroOf?]
  split
  · rename_i hmissing
    refine iff_of_true rfl ?_
    rintro part ⟨shape, found, -⟩
    cases hmissing.symm.trans found
  rename_i shape found
  simp only [hasInPlace_iff found]
  obtain ⟨n, name, kind⟩ := shape
  cases kind with
  | array length element =>
    by_cases hlength : length = 0
    · simp [ShapeKind.inPlace, hlength]
    · simp [ShapeKind.inPlace, hlength]
  | record fields =>
    simp only [ShapeKind.inPlace, Option.isSome_map, isSome_mapM_iff, List.forall_mem_map]
  | scalar s =>
    refine iff_of_true ?_ (List.forall_mem_nil _)
    cases s with
    | int width signedness => cases signedness <;> rfl
    | _ => rfl
  | _ => exact iff_of_true rfl (List.forall_mem_nil _)

theorem zeroOf?_succ (h : zeroOf? shapes bound id = some v) :
    zeroOf? shapes (bound + 1) id = some v := by
  induction bound generalizing id v with
  | zero => cases h
  | succ bound ih =>
    rw [zeroOf?] at h ⊢
    split
    · rename_i hmissing
      rw [hmissing] at h
      exact h
    rename_i shape found
    rw [found] at h
    obtain ⟨n, name, kind⟩ := shape
    cases kind with
    | array length element =>
      simp only at h ⊢
      split
      · rename_i hlength
        rw [if_pos hlength] at h
        exact h
      · rename_i hlength
        rw [if_neg hlength] at h
        obtain ⟨w, hw, rfl⟩ := Option.map_eq_some_iff.1 h
        rw [ih hw]
        rfl
    | record fields =>
      obtain ⟨values, hvalues, rfl⟩ := Option.map_eq_some_iff.1 h
      have hlater : fields.mapM (fun f => zeroOf? shapes (bound + 1) f.shape) = some values :=
        mapM_eq_some_iff.2 ((mapM_eq_some_iff.1 hvalues).imp fun _ _ hv => ih hv)
      simp only [hlater, Option.map_some]
    | scalar s =>
      cases s with
      | int width signedness => cases signedness <;> exact h
      | _ => exact h
    | _ => exact h

/-- More room for rules that nest changes no answer. -/
theorem zeroOf?_mono (hle : bound ≤ bound') (h : zeroOf? shapes bound id = some v) :
    zeroOf? shapes bound' id = some v := by
  induction hle with
  | refl => exact h
  | step _ ih => exact zeroOf?_succ ih

/-- Each rule takes one from the bound, and the shapes that remain in place are fewer. -/
theorem isSome_zeroOf?_height
    (hends : ∀ part, Relation.ReflTransGen shapes.HasInPlace id part →
      ¬ Relation.TransGen shapes.HasInPlace part part) :
    (zeroOf? shapes (height shapes.HasInPlace shapes.size id + 1) id).isSome := by
  induction hheight : height shapes.HasInPlace shapes.size id using Nat.strongRecOn
    generalizing id with
  | _ k ih =>
    subst hheight
    rw [isSome_zeroOf?_succ_iff]
    intro part hpart
    have hlt : height shapes.HasInPlace shapes.size part <
        height shapes.HasInPlace shapes.size id :=
      height_lt hpart.lt_size hpart (hends part (.single hpart))
    have hfound := ih _ hlt (fun other hother => hends other (.head hpart hother)) rfl
    obtain ⟨v, hv⟩ := Option.isSome_iff_exists.1 hfound
    rw [zeroOf?_mono hlt hv]
    rfl

/-- The search goes on along the shapes in place, so it cannot come back to the same shape. -/
theorem not_isSome_zeroOf?_of_cycle {top : ShapeId}
    (htop : Relation.ReflTransGen shapes.HasInPlace top id)
    (hcycle : Relation.TransGen shapes.HasInPlace id id) :
    ¬ (zeroOf? shapes bound top).isSome := by
  induction bound generalizing top with
  | zero => exact Bool.false_ne_true
  | succ bound ih =>
    intro h
    have hleads : Relation.TransGen shapes.HasInPlace top id := .trans_right htop hcycle
    obtain ⟨next, hnext, hrest⟩ := Relation.TransGen.head'_iff.1 hleads
    exact ih hrest (isSome_zeroOf?_succ_iff.1 h next hnext)

end ShapeTable

/-- What is found within some bound is the zero value. It is found unless the shape itself, or one
that its values hold in place at any depth, is held in place by its own values. -/
theorem Library.isSome_zeroValue?_iff (lib : Library) (id : ShapeId) :
    (∀ bound v, zeroOf? lib.shapes bound id = some v → lib.zeroValue? id = some v) ∧
      ((lib.zeroValue? id).isSome ↔
        ∀ part, Relation.ReflTransGen lib.shapes.HasInPlace id part →
          ¬ Relation.TransGen lib.shapes.HasInPlace part part) := by
  have hfinds : (∀ part, Relation.ReflTransGen lib.shapes.HasInPlace id part →
      ¬ Relation.TransGen lib.shapes.HasInPlace part part) → (lib.zeroValue? id).isSome := by
    intro hends
    obtain ⟨v, hv⟩ := Option.isSome_iff_exists.1 (ShapeTable.isSome_zeroOf?_height hends)
    rw [Library.zeroValue?,
      ShapeTable.zeroOf?_mono (Nat.succ_le_succ (height_le (hends id .refl))) hv]
    rfl
  have hends : ∀ bound, (zeroOf? lib.shapes bound id).isSome →
      ∀ part, Relation.ReflTransGen lib.shapes.HasInPlace id part →
        ¬ Relation.TransGen lib.shapes.HasInPlace part part := by
    intro bound hsome part hpart hcycle
    exact ShapeTable.not_isSome_zeroOf?_of_cycle hpart hcycle hsome
  refine ⟨fun bound v h => ?_, hends _, hfinds⟩
  obtain ⟨w, hw⟩ := Option.isSome_iff_exists.1
    (hfinds (hends bound (Option.isSome_iff_exists.2 ⟨v, h⟩)))
  -- both bounds reach the larger one
  have hv := ShapeTable.zeroOf?_mono (Nat.le_max_left bound (lib.shapes.size + 1)) h
  have hw' := ShapeTable.zeroOf?_mono (Nat.le_max_right bound (lib.shapes.size + 1)) hw
  rw [hw, ← hv, hw']

/-! ### A struct in itself -/

/-- `type T struct { next T }` -/
def nestDeclaration : Declaration :=
  ⟨⟨"nest", none⟩, [⟨"T", "struct \x7b next T \x7d", false, [], true⟩], [], [], []⟩

def nestLibrary : Library := ⟨.ofList [("nest.T", .record [⟨"next", 0⟩])], .empty⟩

theorem shapes_nestDeclaration :
    (nestDeclaration.lower.toOption.bind fun l => l.generate.1.toOption.map (·.shapes)) =
      some nestLibrary.shapes := by
  decide +kernel

/-- The declaration is accepted, and its shapes are those of the library. -/
theorem struct_in_itself_has_no_zero :
    (nestDeclaration.lower.toOption.bind fun l => l.generate.1.toOption.map (·.shapes)) =
        some nestLibrary.shapes ∧
      nestDeclaration.check = .ok () ∧ ∀ bound, zeroOf? nestLibrary.shapes bound 0 = none := by
  refine ⟨shapes_nestDeclaration, by decide +kernel, fun bound => ?_⟩
  have hself : nestLibrary.shapes.HasInPlace 0 0 :=
    ⟨⟨0, "nest.T", .record [⟨"next", 0⟩]⟩, rfl, List.mem_singleton_self 0⟩
  exact Option.not_isSome_iff_eq_none.1
    (ShapeTable.not_isSome_zeroOf?_of_cycle .refl (.single hself))

end ScriptBind
