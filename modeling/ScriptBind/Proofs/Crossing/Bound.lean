import Mathlib.Data.Fintype.Pigeonhole
import ScriptBind.Proofs.Crossing.Hereditary

/-!
# ScriptBind.Proofs.Crossing.Bound

The bounds of the two conversions are enough, so that what follows can do without them.

* `ShapeTable.toScript`, `ShapeTable.fromScript` - the conversions without explained errors.
* `ShapeTable.toScript_eq`, `ShapeTable.fromScript_eq` - each applies the rule of the shape with
  itself for the parts.
* `ShapeTable.toScript_terminates` - towards the script there is always an end.
* `convertTo_below`, `convertFrom_below` - a bounded conversion that terminates gives the same
  answer.

Towards native code a conversion can be without end, when pointers lead back to a pointer that
was already followed at the same value. By the pigeonhole principle it is without end when more
pointers are followed at one value than there are shapes (`follow_isSome`).
-/

namespace ScriptBind

open CrossM (Yields Terminates Below fail endless)

/-! ### Relations that the rules respect -/

theorem CrossM.eq_congruence (own : ConversionError → Prop) :
    CrossM.Congruence (fun m m' => m = m') own where
  pure _ := rfl
  fail _ := rfl
  bind hm hk := by
    obtain rfl := funext hk
    rw [hm]
  within _ hm := by rw [hm]

theorem CrossM.terminates_hereditary : CrossM.Hereditary Terminates where
  pure := .pure
  fail := .fail
  bind := .bind
  mapError _ := CrossM.terminates_mapError.2
  freshId := .update _
  scriptSide _ _ _ := .update _
  nativeSide _ _ _ := .update _

theorem CrossM.below_congruence (own : ConversionError → Prop) :
    CrossM.Congruence Below own where
  pure _ := .refl _
  fail _ := .refl _
  bind hm hk := hm.bind hk
  within _ hm := hm.mapError _

/-! ### Towards the script -/

theorem newHandle_yields (typeName : String) (v : NativeValue) :
    Yields (newHandle typeName v) fun x => ∃ id, x = .native ⟨id, typeName, v⟩ :=
  Yields.bind (P := fun _ => True) (.update fun _ => trivial) fun id _ => .pure ⟨id, rfl⟩

theorem convertTo_terminates {shapes : ShapeTable} : ∀ {bound : Nat} {v : NativeValue},
    v.depth < bound → ∀ id, Terminates (convertTo shapes bound id v)
  | bound + 1, v, hv, id => by
    rw [convertTo]
    split
    · exact .fail _
    · rename_i shape _
      cases hp : shape.kind.hasParts with
      | false => exact CrossM.terminates_hereditary.toScript_of_not_hasParts hp _ v
      | true =>
        refine Shape.toScript_congr (f := convertTo shapes bound)
          (CrossM.terminates_hereditary.congruence _) hp fun id x hx => ?_
        have hlt := NativeValue.depth_lt_of_mem_parts hx
        exact convertTo_terminates (by omega) id

theorem convertTo_below_succ {shapes : ShapeTable} : ∀ (bound : Nat) (id : ShapeId)
    (v : NativeValue), Below (convertTo shapes bound id v) (convertTo shapes (bound + 1) id v)
  | 0, _, _ => CrossM.endless_below _
  | bound + 1, id, v => by
    rw [convertTo, convertTo]
    split
    · exact .refl _
    · rename_i shape _
      cases hp : shape.kind.hasParts with
      | false =>
        rw [Shape.toScript_of_not_hasParts hp (convertTo shapes bound)]
        exact .refl _
      | true =>
        exact Shape.toScript_congr (CrossM.below_congruence _) hp
          fun id x _ => convertTo_below_succ bound id x

theorem convertTo_below_of_le {shapes : ShapeTable} {bound bound' : Nat} (h : bound ≤ bound')
    (id : ShapeId) (v : NativeValue) :
    Below (convertTo shapes bound id v) (convertTo shapes bound' id v) := by
  induction h with
  | refl => exact .refl _
  | step _ ih => exact ih.trans (convertTo_below_succ _ id v)

/-- The conversion with a bound that is enough. -/
def ShapeTable.toScript (shapes : ShapeTable) (id : ShapeId) (v : NativeValue) : CrossM Value :=
  convertTo shapes (v.depth + 1) id v

theorem convertTo_eq {shapes : ShapeTable} {bound : Nat} {v : NativeValue} (h : v.depth < bound)
    (id : ShapeId) : convertTo shapes bound id v = shapes.toScript id v :=
  (convertTo_below_of_le h id v).eq (convertTo_terminates (Nat.lt_succ_self _) id)

namespace ShapeTable

variable {shapes : ShapeTable}

theorem toScript_terminates (id : ShapeId) (v : NativeValue) : Terminates (shapes.toScript id v) :=
  convertTo_terminates (Nat.lt_succ_self _) id

theorem toScript_eq (id : ShapeId) (v : NativeValue) :
    shapes.toScript id v =
      match shapes.get? id with
      | none => fail (.unknownShape id)
      | some shape => shape.toScript shapes.toScript v := by
  rw [toScript, convertTo]
  cases shapes.get? id with
  | none => rfl
  | some shape =>
    cases hp : shape.kind.hasParts with
    | false => exact congrFun (Shape.toScript_of_not_hasParts hp _ _) v
    | true =>
      refine Shape.toScript_congr (CrossM.eq_congruence _) hp fun id x hx => ?_
      exact convertTo_eq (NativeValue.depth_lt_of_mem_parts hx) id

end ShapeTable

theorem convertTo_below (shapes : ShapeTable) (bound : Nat) (id : ShapeId) (v : NativeValue) :
    Below (convertTo shapes bound id v) (shapes.toScript id v) := by
  rw [← convertTo_eq (Nat.lt_of_lt_of_le (Nat.lt_succ_self v.depth) (Nat.le_max_right bound _)) id]
  exact convertTo_below_of_le (Nat.le_max_left _ _) id v

/-! ### Following pointers at one value -/

/-- After `k` steps; missing when the way ends before. -/
def follow (next : Nat → Option Nat) : Nat → Nat → Option Nat
  | 0, i => some i
  | k + 1, i => (next i).bind (follow next k)

section Follow

variable {next : Nat → Option Nat} {size : Nat}

theorem follow_add (j k i : Nat) :
    follow next (j + k) i = (follow next j i).bind (follow next k) := by
  induction j generalizing i with
  | zero => simp [follow]
  | succ j ih =>
    rw [show j + 1 + k = (j + k) + 1 by omega, follow, follow]
    cases next i with
    | none => rfl
    | some e => exact ih e

theorem follow_isSome_of_le {j k i : Nat} (hjk : j ≤ k) (h : (follow next k i).isSome) :
    (follow next j i).isSome := by
  obtain ⟨r, rfl⟩ := Nat.exists_eq_add_of_le hjk
  rw [follow_add] at h
  cases hj : follow next j i with
  | none => rw [hj] at h; cases h
  | some x => rfl

/-- A way of more steps than there are places comes to a place a second time. -/
theorem follow_repeats (hsize : ∀ i e, next i = some e → i < size) {i : Nat}
    (h : (follow next (size + 1) i).isSome) :
    ∃ a x r, follow next a i = some x ∧ follow next (r + 1) x = some x := by
  have hplace : ∀ j : Fin (size + 1), ∃ x : Fin size, follow next j i = some x.val := by
    intro j
    have hj : (follow next (j + 1) i).isSome := follow_isSome_of_le (by omega) h
    rw [follow_add] at hj
    cases hx : follow next j i with
    | none => rw [hx] at hj; cases hj
    | some x =>
      rw [hx] at hj
      cases he : next x with
      | none => simp [follow, he] at hj
      | some e => exact ⟨⟨x, hsize x e he⟩, rfl⟩
  choose place hplace using hplace
  obtain ⟨a, b, hab, hsame⟩ := Fintype.exists_ne_map_eq_of_card_lt place (by simp)
  wlog hlt : a < b generalizing a b
  · exact this b a (Ne.symm hab) hsame.symm (lt_of_le_of_ne (Fin.not_lt.1 hlt) (Ne.symm hab))
  have hsteps : b.val = a.val + (b.val - a.val - 1 + 1) := by
    have := Fin.lt_def.1 hlt
    omega
  have hb := hplace b
  rw [hsteps, follow_add, hplace a, ← hsame] at hb
  exact ⟨a, place a, b.val - a.val - 1, hplace a, hb⟩

/-- From a place that the way comes back to it goes on without end. -/
theorem follow_isSome_of_cycle {x r : Nat} (h : follow next (r + 1) x = some x) (k : Nat) :
    (follow next k x).isSome := by
  induction k using Nat.strong_induction_on with
  | _ k ih =>
    rcases Nat.lt_or_ge k (r + 1) with hk | hk
    · exact follow_isSome_of_le (Nat.le_of_lt hk) (by rw [h]; rfl)
    · rw [show k = r + 1 + (k - (r + 1)) by omega, follow_add, h]
      exact ih (k - (r + 1)) (by omega)

theorem follow_isSome (hsize : ∀ i e, next i = some e → i < size) {i : Nat}
    (h : (follow next (size + 1) i).isSome) (k : Nat) : (follow next k i).isSome := by
  obtain ⟨a, x, r, hx, hcycle⟩ := follow_repeats hsize h
  have hfar : (follow next (a + k) i).isSome := by
    rw [follow_add, hx]
    exact follow_isSome_of_cycle hcycle k
  exact follow_isSome_of_le (Nat.le_add_left k a) hfar

end Follow

/-! ### Towards native code -/

/-- The shape to which the rule of a shape hands over the value that it was given. -/
def ShapeTable.redirect? (shapes : ShapeTable) (v : Value) (id : ShapeId) : Option ShapeId :=
  (shapes.get? id).bind fun shape => shape.redirect? v

theorem convertFrom_of_redirect? {shapes : ShapeTable} {v : Value} {id element : ShapeId}
    (h : shapes.redirect? v id = some element) (bound : Nat) :
    convertFrom shapes (bound + 1) id v =
      convertFrom shapes bound element v >>= fun t => pure (.pointer (some t)) := by
  rw [ShapeTable.redirect?] at h
  rw [convertFrom]
  cases hs : shapes.get? id with
  | none => simp [hs] at h
  | some shape =>
    rw [hs] at h
    exact Shape.fromScript_of_redirect? h _

theorem lt_size_of_redirect? {shapes : ShapeTable} {v : Value} {id element : ShapeId}
    (h : shapes.redirect? v id = some element) : id < shapes.size := by
  rw [ShapeTable.redirect?] at h
  by_contra hlt
  have hnone : shapes.get? id = none := Array.getElem?_eq_none (Nat.not_lt.1 hlt)
  simp [hnone] at h

theorem convertFrom_eq_of_redirect?_eq_none {shapes : ShapeTable} {v : Value} {id : ShapeId}
    (h : shapes.redirect? v id = none) {bound bound' : Nat}
    (hparts : ∀ id, ∀ x ∈ v.parts, convertFrom shapes bound id x = convertFrom shapes bound' id x) :
    convertFrom shapes (bound + 1) id v = convertFrom shapes (bound' + 1) id v := by
  rw [convertFrom, convertFrom]
  cases hs : shapes.get? id with
  | none => rfl
  | some shape =>
    have hnone : shape.redirect? v = none := by simpa [ShapeTable.redirect?, hs] using h
    cases hp : shape.kind.hasParts with
    | false => exact congrFun (Shape.fromScript_of_not_hasParts hp _ _) v
    | true =>
      refine Shape.fromScript_congr (CrossM.eq_congruence _) hp hparts fun id hid => ?_
      rw [hnone] at hid
      cases hid

/-- A way of pointers that does not end at this value is followed without end. -/
theorem convertFrom_eq_endless {shapes : ShapeTable} {v : Value} : ∀ (bound : Nat)
    {id : ShapeId}, (∀ k, (follow (shapes.redirect? v) k id).isSome) →
      convertFrom shapes bound id v = endless
  | 0, _, _ => rfl
  | bound + 1, id, h => by
    obtain ⟨element, he⟩ := Option.isSome_iff_exists.1 (h 1)
    simp only [follow, Option.bind_eq_some_iff, Option.some.injEq, exists_eq_right] at he
    have hrest : ∀ k, (follow (shapes.redirect? v) k element).isSome := by
      intro k
      have hk := h (k + 1)
      rwa [follow, he] at hk
    rw [convertFrom_of_redirect? he, convertFrom_eq_endless bound hrest]
    rfl

/-- A way of pointers that ends within `k` steps needs a bound of `k + 1` more than the parts. -/
theorem convertFrom_eq_of_follow_eq_none {shapes : ShapeTable} {v : Value} {least : Nat}
    (hparts : ∀ bound, least ≤ bound → ∀ id, ∀ x ∈ v.parts,
      convertFrom shapes bound id x = convertFrom shapes least id x) :
    ∀ (k : Nat) {id : ShapeId} {bound bound' : Nat},
      follow (shapes.redirect? v) (k + 1) id = none →
      least + k + 1 ≤ bound → least + k + 1 ≤ bound' →
      convertFrom shapes bound id v = convertFrom shapes bound' id v
  | k, id, 0, _, _, h, _ => by omega
  | k, id, _, 0, _, _, h => by omega
  | k, id, bound + 1, bound' + 1, h, hb, hb' => by
    cases he : shapes.redirect? v id with
    | none =>
      refine convertFrom_eq_of_redirect?_eq_none he fun id x hx => ?_
      rw [hparts bound (by omega) id x hx, hparts bound' (by omega) id x hx]
    | some element =>
      rw [convertFrom_of_redirect? he, convertFrom_of_redirect? he]
      rw [follow, he] at h
      cases k with
      | zero => simp [follow] at h
      | succ k =>
        have hrest : convertFrom shapes bound element v = convertFrom shapes bound' element v :=
          convertFrom_eq_of_follow_eq_none hparts k h (by omega) (by omega)
        rw [hrest]

/-- The bound that a conversion towards native code needs. -/
def ShapeTable.need (shapes : ShapeTable) (v : Value) : Nat := (v.depth + 1) * (shapes.size + 1)

theorem convertFrom_eq_of_need {shapes : ShapeTable} (v : Value) (id : ShapeId) {bound : Nat}
    (hb : shapes.need v ≤ bound) :
    convertFrom shapes bound id v = convertFrom shapes (shapes.need v) id v := by
  -- by induction on the depth, which is less for the parts
  induction hd : v.depth using Nat.strong_induction_on generalizing v id bound with
  | _ d ih =>
    subst hd
    have hneed : shapes.need v = v.depth * (shapes.size + 1) + shapes.size + 1 := by
      rw [ShapeTable.need, Nat.succ_mul]
      rfl
    have hparts : ∀ bound, v.depth * (shapes.size + 1) ≤ bound → ∀ id, ∀ x ∈ v.parts,
        convertFrom shapes bound id x =
          convertFrom shapes (v.depth * (shapes.size + 1)) id x := by
      intro bound hbound id x hx
      have hlt := Value.depth_lt_of_mem_parts hx
      have hle : shapes.need x ≤ v.depth * (shapes.size + 1) := Nat.mul_le_mul_right _ hlt
      rw [ih x.depth hlt x id (hle.trans hbound) rfl, ih x.depth hlt x id hle rfl]
    cases hf : follow (shapes.redirect? v) (shapes.size + 1) id with
    | none =>
      exact convertFrom_eq_of_follow_eq_none hparts shapes.size hf (hneed ▸ hb) (by omega)
    | some x =>
      have hforever : ∀ k, (follow (shapes.redirect? v) k id).isSome :=
        follow_isSome (fun _ _ => lt_size_of_redirect?) (by simp [hf])
      rw [convertFrom_eq_endless _ hforever, convertFrom_eq_endless _ hforever]

theorem convertFrom_below_succ {shapes : ShapeTable} : ∀ (bound : Nat) (id : ShapeId)
    (v : Value), Below (convertFrom shapes bound id v) (convertFrom shapes (bound + 1) id v)
  | 0, _, _ => CrossM.endless_below _
  | bound + 1, id, v => by
    rw [convertFrom, convertFrom]
    split
    · exact .refl _
    · rename_i shape _
      cases hp : shape.kind.hasParts with
      | false =>
        rw [Shape.fromScript_of_not_hasParts hp (convertFrom shapes bound)]
        exact .refl _
      | true =>
        exact Shape.fromScript_congr (CrossM.below_congruence _) hp
          (fun id x _ => convertFrom_below_succ bound id x)
          fun id _ => convertFrom_below_succ bound id v

theorem convertFrom_below_of_le {shapes : ShapeTable} {bound bound' : Nat} (h : bound ≤ bound')
    (id : ShapeId) (v : Value) :
    Below (convertFrom shapes bound id v) (convertFrom shapes bound' id v) := by
  induction h with
  | refl => exact .refl _
  | step _ ih => exact ih.trans (convertFrom_below_succ _ id v)

/-- The conversion with a bound that is enough. -/
def ShapeTable.fromScript (shapes : ShapeTable) (id : ShapeId) (v : Value) : CrossM NativeValue :=
  convertFrom shapes (shapes.need v + 1) id v

theorem convertFrom_eq {shapes : ShapeTable} {bound : Nat} {v : Value}
    (h : shapes.need v ≤ bound) (id : ShapeId) :
    convertFrom shapes bound id v = shapes.fromScript id v := by
  rw [ShapeTable.fromScript, convertFrom_eq_of_need v id h,
    convertFrom_eq_of_need v id (Nat.le_succ _)]

theorem convertFrom_below (shapes : ShapeTable) (bound : Nat) (id : ShapeId) (v : Value) :
    Below (convertFrom shapes bound id v) (shapes.fromScript id v) := by
  rw [← convertFrom_eq (Nat.le_max_right bound _) id]
  exact convertFrom_below_of_le (Nat.le_max_left _ _) id v

theorem ShapeTable.fromScript_eq {shapes : ShapeTable} (id : ShapeId) (v : Value) :
    shapes.fromScript id v =
      match shapes.get? id with
      | none => fail (.unknownShape id)
      | some shape => shape.fromScript shapes.fromScript v := by
  rw [fromScript, convertFrom]
  cases shapes.get? id with
  | none => rfl
  | some shape =>
    cases hp : shape.kind.hasParts with
    | false => exact congrFun (Shape.fromScript_of_not_hasParts hp _ _) v
    | true =>
      refine Shape.fromScript_congr (CrossM.eq_congruence _) hp (fun id x hx => ?_) fun id _ => ?_
      · have hlt := Value.depth_lt_of_mem_parts hx
        exact convertFrom_eq (Nat.mul_le_mul_right _ (by omega)) id
      · exact convertFrom_eq (Nat.le_refl _) id

/-! ### The conversions of a library -/

theorem Library.toScript_eq (lib : Library) (id : ShapeId) (v : NativeValue) :
    lib.toScript id v = (lib.shapes.toScript id v).mapError lib.names.explain := rfl

theorem Library.fromScript_eq (lib : Library) (id : ShapeId) (v : Value) :
    lib.fromScript id v = (lib.shapes.fromScript id v).mapError lib.names.explain := rfl

theorem Library.toScript_terminates (lib : Library) (id : ShapeId) (v : NativeValue) :
    Terminates (lib.toScript id v) := by
  rw [Library.toScript_eq]
  exact CrossM.terminates_mapError.2 (lib.shapes.toScript_terminates id v)

end ScriptBind
