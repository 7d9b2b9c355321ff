import ScriptBind.Proofs.Canon.Table

/-!
# ScriptBind.Proofs.Canon.Written

Canonical types in writing, one step at a time.

* `CanonKind.written` - a kind in writing, given its parts in writing.
* `Session.Interned.typeString_eq_written` - a type in writing is its kind in writing, over the
  types that it refers to.
* `Session.Spells` - what a type is written as by going from each kind to its parts.
* `Session.Interned.spells_iff` - this comes to an end, at one text.
-/

namespace ScriptBind

open Session (funcStringWith funcStringWith_congr)

/-- A part in writing, and what is written of it as a last parameter that collects arguments. -/
def CanonKind.written (text elementText : CanonId → String) : CanonKind → String
  | .bool => "bool"
  | .int width signedness => signedness.typeName width
  | .float precision => precision.typeName
  | .complex bits => "complex" ++ toString bits
  | .unsafePointer => "unsafe.Pointer"
  | .string => "string"
  | .slice element => "[]" ++ text element
  | .array length element => "[" ++ toString length ++ "]" ++ text element
  | .map key value => "map[" ++ text key ++ "]" ++ text value
  | .pointer element => "*" ++ text element
  | .func f => "func" ++ funcStringWith text elementText f
  | .chan direction element => direction.keyword ++ text element
  | .interface methods =>
    "interface \x7b " ++
      "; ".intercalate (methods.map fun m => m.name ++ funcStringWith text elementText m.func) ++
      " \x7d"
  | .any => "any"
  | .error => "error"
  | .struct aliasName _ => aliasName
  | .named name _ => name
  | .typeParam name => name

theorem CanonKind.written_congr {text text' elementText elementText' : CanonId → String}
    {kind : CanonKind} (h : ∀ r ∈ kind.refs, text r = text' r)
    (helement : ∀ r ∈ kind.refs, elementText r = elementText' r) :
    kind.written text elementText = kind.written text' elementText' := by
  cases kind with
  | slice element | pointer element | array length element | chan direction element =>
    simp only [written, h element (by simp [refs])]
  | map key value =>
    simp only [written, h key (by simp [refs]), h value (by simp [refs])]
  | func f => exact congrArg ("func" ++ ·) (funcStringWith_congr h helement)
  | interface methods =>
    refine congrArg (fun texts => "interface \x7b " ++ "; ".intercalate texts ++ " \x7d")
      (List.map_congr_left fun m hm => congrArg (m.name ++ ·) ?_)
    exact funcStringWith_congr (fun r hr => h r (List.mem_flatMap.2 ⟨m, hm, hr⟩))
      fun r hr => helement r (List.mem_flatMap.2 ⟨m, hm, hr⟩)
  | _ => rfl

namespace Session

variable {s : Session}

/-- The element of a slice, and any other type itself. -/
def element (s : Session) (id : CanonId) : CanonId :=
  match s.kind? id with
  | some (.slice element) => element
  | _ => id

theorem typeStringIn_succ {fuel id : Nat} {kind : CanonKind} (hid : s.kind? id = some kind) :
    s.typeStringIn (fuel + 1) id =
      kind.written (s.typeStringIn fuel) fun r => s.typeStringIn fuel (s.element r) := by
  have hstep : s.typeStringIn (fuel + 1) id = kind.written (s.typeStringIn fuel) fun r =>
      match s.kind? r with
      | some (.slice element) => s.typeStringIn fuel element
      | _ => s.typeStringIn fuel r := by
    rw [typeStringIn, hid]
    cases kind <;> rfl
  refine hstep.trans (CanonKind.written_congr (fun _ _ => rfl) fun r _ => ?_)
  rw [element]
  cases s.kind? r with
  | none => rfl
  | some kind => cases kind <;> rfl

namespace Interned

variable (h : s.Interned)

include h

theorem element_le {id : CanonId} : s.element id ≤ id := by
  rw [element]
  split
  · rename_i element hid
    exact Nat.le_of_lt (h.below id _ hid element (by simp [CanonKind.refs]))
  · exact Nat.le_refl id

theorem typeStringIn_eq : ∀ {depth id : Nat}, id < depth →
    s.typeStringIn depth id = s.typeString id := by
  intro depth id
  induction id using Nat.strongRecOn generalizing depth with
  | _ id ih =>
    intro hlt
    obtain ⟨depth, rfl⟩ := Nat.exists_eq_succ_of_ne_zero (Nat.ne_zero_of_lt hlt)
    rw [typeString]
    cases hid : s.kind? id with
    | none => rw [typeStringIn, typeStringIn, hid]
    | some kind =>
      have hsame : ∀ r < id, s.typeStringIn depth r = s.typeStringIn id r := fun r hr => by
        rw [ih r hr (Nat.lt_of_lt_of_le hr (Nat.le_of_lt_succ hlt)), ih r hr hr]
      rw [typeStringIn_succ hid, typeStringIn_succ hid]
      refine CanonKind.written_congr (fun r hr => hsame r (h.below id kind hid r hr)) fun r hr => ?_
      exact hsame _ (Nat.lt_of_le_of_lt h.element_le (h.below id kind hid r hr))

theorem typeString_eq_written {id : CanonId} {kind : CanonKind} (hid : s.kind? id = some kind) :
    s.typeString id = kind.written s.typeString fun r => s.typeString (s.element r) := by
  rw [typeString, typeStringIn_succ hid]
  refine CanonKind.written_congr (fun r hr => h.typeStringIn_eq (h.below id kind hid r hr))
    fun r hr => h.typeStringIn_eq ?_
  exact Nat.lt_of_le_of_lt h.element_le (h.below id kind hid r hr)

end Interned

/-! ### Going from each kind to its parts -/

/-- Without a bound on the depth: a text is one that is made in finitely many steps. -/
inductive Spells (s : Session) : CanonId → String → Prop
  | kind {id : CanonId} {kind : CanonKind} {text elementText : CanonId → String} :
    s.kind? id = some kind → (∀ r ∈ kind.refs, s.Spells r (text r)) →
      (∀ r ∈ kind.refs, s.Spells (s.element r) (elementText r)) →
        s.Spells id (kind.written text elementText)

namespace Interned

variable (h : s.Interned) {id : CanonId} {text : String}

include h

theorem eq_typeString_of_spells (hid : s.Spells id text) : text = s.typeString id := by
  induction hid with
  | kind hkind _ _ ihparts ihelements =>
    rw [h.typeString_eq_written hkind]
    exact CanonKind.written_congr ihparts ihelements

theorem spells_typeString (hid : id < s.size) : s.Spells id (s.typeString id) := by
  induction id using Nat.strongRecOn with
  | _ id ih =>
    obtain ⟨kind, hkind⟩ := exists_kind? hid
    have hbelow := h.below id kind hkind
    rw [h.typeString_eq_written hkind]
    refine .kind hkind (fun r hr => ih r (hbelow r hr) (h.refs_lt_size hkind r hr)) fun r hr => ?_
    have hlt : s.element r < id := Nat.lt_of_le_of_lt h.element_le (hbelow r hr)
    exact ih (s.element r) hlt (Nat.lt_trans hlt hid)

theorem spells_iff (hid : id < s.size) : s.Spells id text ↔ text = s.typeString id := by
  constructor
  · intro hspells
    exact h.eq_typeString_of_spells hspells
  · rintro rfl
    exact h.spells_typeString hid

end Interned
end Session
end ScriptBind
