import ScriptBind.Binding.Generator
import ScriptBind.Proofs.Crossing.Items
import ScriptBind.Proofs.Crossing.Typing
import ScriptBind.Proofs.Shape.Table

/-!
# ScriptBind.Proofs.Crossing.Pointer

The target of a pointer crosses in its place. Some script values are reserved: the pointer type
reads them as something else than a target.

* `Value.isReserved` - none, integers, and handles of the pointer type itself.
* `pointerFromScript_of_not_reserved` - all other values are left to the rule of the target.
* `ShapeKind.Reserves`, `ShapeTable.Reserved` - the targets that look so in the script, by kind:
  all, none, or those that are nil.
* `ShapeTable.Typed.isReserved_iff` - these are the ones, among typed values.
* `Library.fromScript_toScript_pointer` - what becomes of a pointer whose target comes back.
* `Library.pointer_comes_back` - the pointer comes back if its target is not reserved.
* `pointer_to_zero_lost` - a pointer to an integer does not come back.
-/

namespace ScriptBind

open CrossM (Gives)

/-- Read by a pointer type of this name without a look at its target. -/
def Value.isReserved (typeName : String) : Value → Bool
  | .none => true
  | .int _ => true
  | .native h => h.typeName = typeName
  | _ => false

variable {typeName : String} {convert : FromScript}

theorem pointerFromScript_none :
    pointerFromScript typeName convert .none = pure (.pointer none) := rfl

theorem pointerFromScript_zero :
    pointerFromScript typeName convert (.int 0) = pure (.pointer none) := rfl

theorem pointerFromScript_int {n : Int64} (h : n ≠ 0) :
    pointerFromScript typeName convert (.int n) = CrossM.fail (.invalidNil typeName n) := by
  simp only [pointerFromScript, passOr, passThrough?, if_neg h]

theorem pointerFromScript_handle {handle : Handle} (h : handle.typeName = typeName) :
    pointerFromScript typeName convert (.native handle) = pure handle.value := by
  simp only [pointerFromScript, passOr, passThrough?, if_pos h]

theorem pointerFromScript_of_not_reserved {x : Value} (h : x.isReserved typeName = false) :
    pointerFromScript typeName convert x =
      convert x >>= fun t => pure (.pointer (some t)) := by
  cases x with
  | none => cases h
  | int n => cases h
  | native handle =>
    have hname : handle.typeName ≠ typeName := of_decide_eq_false h
    simp only [pointerFromScript, passOr, passThrough?, if_neg hname]
  | _ => rfl

/-! ### Which targets are reserved -/

/-- The kinds whose values can be told from a nil pointer in the script. -/
def ShapeKind.isPointee : ShapeKind → Bool
  | .scalar .bool => true
  | .scalar (.float _) => true
  | .scalar .string => true
  | .slice _ => true
  | .array _ _ => true
  | .map _ => true
  | .record _ => true
  | .boxed _ => true
  | _ => false

/-- Which values of a kind without parts are reserved in the script: all integers, what is nil, and
what stands in a place for any value, if it is reserved itself. -/
def ShapeKind.Reserves (typeName : String) : ShapeKind → NativeValue → Prop
  | .scalar (.int _ _), _ => True
  | .scalar .any, .dynamic x => x.isReserved typeName = true
  | .scalar .error, v => v.isNil = true
  | .func _, v => v.isNil = true
  | .chan _ _, v => v.isNil = true
  | .interface _, v => v.isNil = true
  | _, _ => False

/-- A pointer is reserved with its target, which crosses in its place. -/
inductive ShapeTable.Reserved (shapes : ShapeTable) (typeName : String) :
    ShapeId → NativeValue → Prop where
  | leaf {id : ShapeId} {shape : Shape} {v : NativeValue} : shapes.get? id = some shape →
      shape.kind.Reserves typeName v → Reserved shapes typeName id v
  | nil {id n : ShapeId} {name : String} {element : ShapeId} :
      shapes.get? id = some ⟨n, name, .pointer element⟩ →
      Reserved shapes typeName id (.pointer none)
  | pointer {id n : ShapeId} {name : String} {element : ShapeId} {target : NativeValue} :
      shapes.get? id = some ⟨n, name, .pointer element⟩ →
      Reserved shapes typeName element target → Reserved shapes typeName id (.pointer (some target))

theorem ShapeKind.not_reserves {kind : ShapeKind} (hkind : kind.isPointee = true)
    (v : NativeValue) : ¬ kind.Reserves typeName v := by
  cases kind with
  | scalar s => cases s <;> first | exact id | cases hkind
  | _ => first | exact id | cases hkind

theorem Scalar.isReserved_iff {s : Scalar} {v : NativeValue} {x : Value} (hv : s.Holds v)
    (h : Gives (s.toScript v) x) :
    x.isReserved typeName = true ↔ (ShapeKind.scalar s).Reserves typeName v := by
  cases s with
  | int width signedness =>
    cases v <;> simp only [Scalar.toScript, CrossM.gives_pure, CrossM.not_gives_fail] at h
    all_goals
      subst h
      exact iff_of_true rfl trivial
  | any =>
    cases v with
    | dynamic held =>
      cases CrossM.gives_pure.1 h
      exact Iff.rfl
    | _ => exact hv.elim
  | error =>
    cases v with
    | error message =>
      cases message <;>
        · cases CrossM.gives_pure.1 h
          simp [Value.isReserved, ShapeKind.Reserves, NativeValue.isNil]
    | _ => exact hv.elim
  | _ =>
    cases v <;> simp only [Scalar.toScript, CrossM.gives_pure, CrossM.not_gives_fail] at h
    subst h
    exact iff_of_false Bool.false_ne_true id


theorem Shape.isReserved_iff {shape : Shape} {f : ShapeId → ToScript} {v : NativeValue} {x : Value}
    (hparts : shape.kind.hasParts = false) (hv : shape.Holds v) (hne : shape.name ≠ typeName)
    (h : Gives (shape.toScript f v) x) :
    x.isReserved typeName = true ↔ shape.kind.Reserves typeName v := by
  obtain ⟨n, name, kind⟩ := shape
  cases kind with
  | scalar s => exact Scalar.isReserved_iff hv h
  | func signature =>
    cases v with
    | func function =>
      cases function with
      | none =>
        cases CrossM.gives_pure.1 h
        exact iff_of_true rfl rfl
      | some k =>
        simp only [Shape.toScript, funcToScript] at h
        split at h <;>
          · cases CrossM.gives_pure.1 h
            exact iff_of_false Bool.false_ne_true Bool.false_ne_true
    | _ => exact hv.elim
  | chan direction element =>
    cases v with
    | chan native =>
      cases native with
      | none =>
        cases CrossM.gives_pure.1 h
        exact iff_of_true rfl rfl
      | some c =>
        obtain ⟨id, -, rfl⟩ := h.of_bind_pure
        exact iff_of_false Bool.false_ne_true Bool.false_ne_true
    | _ => exact hv.elim
  | interface methods =>
    cases v with
    | interface object =>
      cases object with
      | none =>
        cases CrossM.gives_pure.1 h
        exact iff_of_true rfl rfl
      | some o =>
        -- an object of a script is its context again, any other one gets a handle
        cases o with
        | library id made =>
          obtain ⟨id, -, rfl⟩ := h.of_bind_pure
          exact iff_of_false (of_decide_eq_true.mt hne) Bool.false_ne_true
        | synthesized id interface context methods =>
          cases CrossM.gives_pure.1 h
          exact iff_of_false Bool.false_ne_true Bool.false_ne_true
    | _ => exact hv.elim
  | boxed reason =>
    cases v with
    | boxed handle =>
      have hname : handle.typeName = name := hv
      cases CrossM.gives_pure.1 h
      exact iff_of_false (of_decide_eq_true.mt fun h => hne (hname ▸ h))
        (ShapeKind.not_reserves rfl _)
    | _ => exact hv.elim
  | _ => cases hparts

namespace ShapeTable

variable {shapes : ShapeTable} {id n element : ShapeId} {name : String} {v : NativeValue}
  {x : Value}

theorem toScript_pointer (found : shapes.get? id = some ⟨n, name, .pointer element⟩)
    (p : NativeValue) : shapes.toScript id (.pointer (some p)) = shapes.toScript element p := by
  rw [toScript_eq, found]
  rfl

/-- The values of pointee kinds are never reserved. -/
theorem not_reserved {shape : Shape} (found : shapes.get? id = some shape)
    (hkind : shape.kind.isPointee = true) : ¬ shapes.Reserved typeName id v := by
  intro h
  cases h with
  | leaf found' hv =>
    cases found.symm.trans found'
    exact ShapeKind.not_reserves hkind v hv
  | nil found' | pointer found' _ =>
    cases found.symm.trans found'
    cases hkind

/-- Where names are distinct, no other shape makes handles that a pointer type takes for its own. -/
theorem name_ne_of_pointer (hnames : (shapes.shapes.toList.map (·.name)).Nodup)
    (found : shapes.get? id = some ⟨n, name, .pointer element⟩) {other : ShapeId} {shape : Shape}
    (hother : shapes.get? other = some shape) (hparts : shape.kind.hasParts = false) :
    shape.name ≠ name := by
  intro hname
  have hsame := List.inj_on_of_nodup_map hnames (mem_of_get? hother) (mem_of_get? found) hname
  subst hsame
  cases hparts

/-- Among typed values, those that look reserved in the script are known by their kinds. -/
theorem Typed.isReserved_iff {Leaf : Shape → NativeValue → Prop}
    (hleaf : ∀ shape v, Leaf shape v → shape.Holds v)
    (hnames : ∀ {other : ShapeId} {shape : Shape}, shapes.get? other = some shape →
      shape.kind.hasParts = false → shape.name ≠ typeName)
    (hv : shapes.Typed Leaf id v) (h : Gives (shapes.toScript id v) x) :
    x.isReserved typeName = true ↔ shapes.Reserved typeName id v := by
  induction hv with
  | @leaf id shape v found hparts hv =>
    rw [toScript_eq, found] at h
    rw [Shape.isReserved_iff hparts (hleaf shape v hv) (hnames found hparts) h]
    refine ⟨.leaf found, fun hr => ?_⟩
    cases hr with
    | leaf found' hv =>
      cases found.symm.trans found'
      exact hv
    | nil found' | pointer found' _ =>
      cases found.symm.trans found'
      cases hparts
  | slice found _ _ =>
    rw [toScript_eq, found] at h
    obtain ⟨ys, -, rfl⟩ := h.of_bind_pure
    exact iff_of_false Bool.false_ne_true (not_reserved found rfl)
  | array found hlength _ _ =>
    rw [toScript_eq, found] at h
    simp only [Shape.toScript, arrayToScript, if_pos hlength] at h
    obtain ⟨ys, -, rfl⟩ := h.of_bind_pure
    exact iff_of_false Bool.false_ne_true (not_reserved found rfl)
  | map found _ _ =>
    rw [toScript_eq, found] at h
    obtain ⟨ys, -, rfl⟩ := h.of_bind_pure
    exact iff_of_false Bool.false_ne_true (not_reserved found rfl)
  | nil found =>
    rw [toScript_eq, found] at h
    cases CrossM.gives_pure.1 h
    exact iff_of_true rfl (.nil found)
  | pointer found _ ih =>
    rw [toScript_pointer found] at h
    rw [ih h]
    refine ⟨.pointer found, fun hr => ?_⟩
    cases hr with
    | leaf found' hv =>
      cases found.symm.trans found'
      exact hv.elim
    | pointer found' hr =>
      cases found.symm.trans found'
      exact hr
  | record found hlength _ _ =>
    rw [toScript_eq, found] at h
    simp only [Shape.toScript, recordToScript, List.length_map, if_pos hlength] at h
    obtain ⟨ys, -, rfl⟩ := h.of_bind_pure
    exact iff_of_false Bool.false_ne_true (not_reserved found rfl)

theorem Typed.isReserved_eq_false {Leaf : Shape → NativeValue → Prop} {p : NativeValue}
    (hleaf : ∀ shape v, Leaf shape v → shape.Holds v)
    (hnames : (shapes.shapes.toList.map (·.name)).Nodup)
    (found : shapes.get? id = some ⟨n, name, .pointer element⟩)
    (hp : shapes.Typed Leaf element p) (hfree : ¬ shapes.Reserved name element p)
    (h : Gives (shapes.toScript element p) x) : x.isReserved name = false := by
  have hreserved := hp.isReserved_iff hleaf (name_ne_of_pointer hnames found) h
  rw [← Bool.not_eq_true, hreserved]
  exact hfree

end ShapeTable

namespace Library

variable (lib : Library) {id n element : ShapeId} {name : String} {x : Value}

theorem toScript_pointer (found : lib.shapes.get? id = some ⟨n, name, .pointer element⟩)
    (p : NativeValue) : lib.toScript id (.pointer (some p)) = lib.toScript element p := by
  rw [Library.toScript_eq, Library.toScript_eq, ShapeTable.toScript_pointer found]

theorem fromScript_pointer (found : lib.shapes.get? id = some ⟨n, name, .pointer element⟩) :
    lib.fromScript id x =
      (pointerFromScript name (lib.shapes.fromScript element) x).mapError lib.names.explain := by
  rw [Library.fromScript_eq, ShapeTable.fromScript_eq, found]
  rfl

theorem fromScript_pointer_of_not_reserved {p : NativeValue} {b₁ b₂ : Boundary}
    (found : lib.shapes.get? id = some ⟨n, name, .pointer element⟩)
    (hx : x.isReserved name = false) (hfrom : lib.fromScript element x b₁ = (.ok p, b₂)) :
    lib.fromScript id x b₁ = (.ok (.pointer (some p)), b₂) := by
  rw [Library.fromScript_eq] at hfrom
  have htarget := CrossM.ok_of_mapError hfrom
  rw [lib.fromScript_pointer found, pointerFromScript_of_not_reserved hx]
  apply CrossM.mapError_of_ok
  rw [CrossM.bind_of_ok htarget]
  rfl

/-- A pointer whose target comes back comes back itself, unless the script form of the target is
reserved. Then it is a nil pointer, an error, or what a handle holds. -/
theorem fromScript_toScript_pointer {p : NativeValue} {b b₁ b₂ : Boundary}
    (found : lib.shapes.get? id = some ⟨n, name, .pointer element⟩)
    (hto : lib.toScript element p b = (.ok x, b₁))
    (hfrom : lib.fromScript element x b₁ = (.ok p, b₂)) :
    lib.toScript id (.pointer (some p)) b = (.ok x, b₁) ∧
      (x.isReserved name = false → lib.fromScript id x b₁ = (.ok (.pointer (some p)), b₂)) ∧
      (x = .none ∨ x = .int 0 → lib.fromScript id x b₁ = (.ok (.pointer none), b₁)) ∧
      (∀ k, k ≠ 0 → x = .int k → lib.fromScript id x b₁ =
        (.error (.failed (.invalidNil (lib.names.describe name) k)), b₁)) ∧
      (∀ h, h.typeName = name → x = .native h → lib.fromScript id x b₁ = (.ok h.value, b₁)) := by
  rw [lib.toScript_pointer found]
  refine ⟨hto, fun hx => lib.fromScript_pointer_of_not_reserved found hx hfrom, ?_⟩
  rw [lib.fromScript_pointer found]
  refine ⟨?_, ?_, ?_⟩
  · rintro (rfl | rfl)
    · rw [pointerFromScript_none]
      rfl
    · rw [pointerFromScript_zero]
      rfl
  · rintro k hk rfl
    rw [pointerFromScript_int hk]
    rfl
  · rintro h hname rfl
    rw [pointerFromScript_handle hname]
    rfl

/-- A pointer to a typed value comes back with its target, unless the target is one of those that
its kind reserves. -/
theorem pointer_comes_back {p : NativeValue} {b b₁ b₂ : Boundary}
    (hnames : (lib.shapes.shapes.toList.map (·.name)).Nodup)
    (found : lib.shapes.get? id = some ⟨n, name, .pointer element⟩)
    (hp : lib.shapes.Typed Shape.Holds element p) (hfree : ¬ lib.shapes.Reserved name element p)
    (hto : lib.toScript element p b = (.ok x, b₁))
    (hfrom : lib.fromScript element x b₁ = (.ok p, b₂)) :
    lib.fromScript id x b₁ = (.ok (.pointer (some p)), b₂) := by
  have hgives : Gives (lib.shapes.toScript element p) x := by
    rw [Library.toScript_eq] at hto
    exact .of_mapError ⟨b, b₁, hto⟩
  have hx := hp.isReserved_eq_false (fun _ _ h => h) hnames found hfree hgives
  exact lib.fromScript_pointer_of_not_reserved found hx hfrom

end Library

/-! ### A pointer to an integer -/

def counterDeclaration : Declaration := ⟨⟨"counter", none⟩, [], [], [], [⟨"*int64", .both⟩]⟩

def counterLibrary : Library :=
  ⟨.ofList [("*int64", .pointer 1), ("int64", .scalar (.int 64 .signed))], .empty⟩

/-- The shapes that are generated for the declaration. -/
theorem counterLibrary_generated :
    (counterDeclaration.lower.toOption.bind fun l => l.generate.1.toOption.map (·.shapes)) =
      some counterLibrary.shapes := by
  decide +kernel

/-- A record, behind a pointer and behind a pointer to that. -/
def scoreLibrary : Library :=
  ⟨.ofList [("**Score", .pointer 1), ("*Score", .pointer 2),
    ("Score", .record [⟨"points", 3⟩]), ("int64", .scalar (.int 64 .signed))], .empty⟩

/-- A pointer to a pointer to a record comes back, and a pointer to an integer does not. -/
theorem fromScript_toScript_pointer_counter :
    scoreLibrary.toScript 0 (.pointer (some (.pointer (some (.struct [.int 7]))))) .empty =
        (.ok (.record "Score" [⟨"points", .int 7⟩]), .empty) ∧
      scoreLibrary.fromScript 0 (.record "Score" [⟨"points", .int 7⟩]) .empty =
        (.ok (.pointer (some (.pointer (some (.struct [.int 7]))))), .empty) ∧
      counterLibrary.fromScript 0 (.int 7) .empty =
        (.error (.failed (.invalidNil "*int64" 7)), .empty) := by
  have hscore : scoreLibrary.shapes.get? 0 = some ⟨0, "**Score", .pointer 1⟩ := rfl
  have hcounter : counterLibrary.shapes.get? 0 = some ⟨0, "*int64", .pointer 1⟩ := rfl
  have hback := scoreLibrary.fromScript_toScript_pointer
    (p := .pointer (some (.struct [.int 7]))) (b := .empty) hscore rfl rfl
  have hlost := counterLibrary.fromScript_toScript_pointer (p := .int 7) (b := .empty) hcounter
    rfl rfl
  exact ⟨hback.1, hback.2.1 rfl, hlost.2.2.2.1 7 (by decide) rfl⟩

/-- The target comes back, and the pointer to it comes back as a nil pointer. -/
theorem pointer_to_zero_lost :
    (counterDeclaration.lower.toOption.bind fun l => l.generate.1.toOption.map (·.shapes)) =
        some counterLibrary.shapes ∧
      counterLibrary.shapes.get? 0 = some ⟨0, "*int64", .pointer 1⟩ ∧
      counterLibrary.shapes.Typed Shape.Holds 1 (.int 0) ∧
      counterLibrary.toScript 1 (.int 0) .empty = (.ok (.int 0), .empty) ∧
      counterLibrary.fromScript 1 (.int 0) .empty = (.ok (.int 0), .empty) ∧
      counterLibrary.toScript 0 (.pointer (some (.int 0))) .empty = (.ok (.int 0), .empty) ∧
      counterLibrary.fromScript 0 (.int 0) .empty = (.ok (.pointer none), .empty) := by
  have hzero : Signedness.signed.Fits 64 (.int 0) := Signedness.inRange_signed.2 (by decide)
  exact ⟨counterLibrary_generated, rfl, .leaf rfl rfl hzero, rfl, rfl, rfl, rfl⟩

end ScriptBind
