import ScriptBind.Json.Decode
import ScriptBind.Proofs.Json.RoundTrip
import ScriptBind.Proofs.Lists

/-!
# ScriptBind.Proofs.Json.Coded

Data as JSON, of which both the text and the data can be read back.

* `Json.Coded` - a value that is decoded to a datum, and that has an exact text.
* `Json.fields?_record` - the fields of a record.
* `Json.Coded.list`, `Json.Coded.textMap` - lists, and texts under keys.
* `Json.Exact.isDecodable`, `Json.depth_record_le` - what a decoder may ask for in advance.
-/

namespace ScriptBind
namespace Json

variable {α β : Type} {encode : α → Json} {decode : Json → Option α}

structure Coded (j : Json) (decode : Json → Option α) (a : α) : Prop where
  exact : j.Exact
  decoded : decode j = some a

theorem Coded.string (s : String) : Coded (.string s) string? s := ⟨.string s, rfl⟩

theorem Coded.bool (b : Bool) : Coded (.bool b) bool? b := ⟨.bool b, rfl⟩

theorem Coded.nat {bits n : Nat} (hbits : bits ≤ 64) (h : n < 1 <<< bits) :
    Coded (nat n) (nat? bits) n where
  exact := by
    have hle : 1 <<< bits ≤ 1 <<< 64 := by
      rw [Nat.one_shiftLeft, Nat.one_shiftLeft]
      exact Nat.pow_le_pow_right (by decide) hbits
    exact .int (by omega) (by omega)
  decoded := by
    rw [Json.nat, nat?, if_pos ⟨Int.natCast_nonneg n, h⟩]
    rfl

theorem Coded.list {as : List α} (h : ∀ a ∈ as, Coded (encode a) decode a) :
    Coded (.array (as.map encode)) (list? decode) as where
  exact := by
    refine .array fun j hj => ?_
    obtain ⟨a, ha, rfl⟩ := List.mem_map.1 hj
    exact (h a ha).exact
  decoded := mapM_eq_some_iff.2
    (List.forall₂_map_left_iff.2 (List.forall₂_same.2 fun a ha => (h a ha).decoded))

/-! ### Records -/

variable {members : List (String × Json)}

/-- The members of a record as they stand in the object. -/
def memberList (members : List (String × Json)) : List Member :=
  members.map fun (key, value) => ⟨key, value⟩

theorem exact_record_iff : (record members).Exact ↔ ∀ m ∈ members, m.2.Exact := by
  constructor
  · rintro (_ | _ | _ | _ | _ | h) p hp
    exact h ⟨p.1, p.2⟩ (List.mem_map.2 ⟨p, hp, rfl⟩)
  · refine fun h => .object fun m hm => ?_
    obtain ⟨p, hp, rfl⟩ := List.mem_map.1 hm
    exact h p hp

/-- Each key of a record leads to its value alone. -/
theorem filter_memberList (hnodup : (members.map (·.1)).Nodup) {p : String × Json}
    (hp : p ∈ members) : (memberList members).filter (·.key = p.1) = [⟨p.1, p.2⟩] := by
  induction members with
  | nil => cases hp
  | cons m members ih =>
    obtain ⟨hnew, hnodup⟩ := List.nodup_cons.1 hnodup
    rw [memberList, List.map_cons, List.filter_cons]
    rcases List.mem_cons.1 hp with rfl | hp
    · have hrest : (memberList members).filter (·.key = p.1) = [] := by
        refine List.filter_eq_nil_iff.2 fun m hm heq => hnew ?_
        obtain ⟨q, hq, rfl⟩ := List.mem_map.1 hm
        exact List.mem_map.2 ⟨q, hq, of_decide_eq_true heq⟩
      rw [if_pos (decide_eq_true rfl)]
      exact congrArg (List.cons _) hrest
    · have hne : m.1 ≠ p.1 := fun heq => hnew (List.mem_map.2 ⟨p, hp, heq.symm⟩)
      rw [if_neg (by simpa using hne)]
      exact ih hnodup hp

theorem once?_memberList (hnodup : (members.map (·.1)).Nodup) {p : String × Json}
    (hp : p ∈ members) : once? p.1 (memberList members) = some p.2 := by
  rw [once?, filter_memberList hnodup hp]

theorem fields?_record (hnodup : (members.map (·.1)).Nodup) :
    (record members).fields? (members.map (·.1)) = some (members.map (·.2)) :=
  mapM_eq_some_iff.2 (List.forall₂_map_left_iff.2 (List.forall₂_map_right_iff.2
    (List.forall₂_same.2 fun _ hp => once?_memberList hnodup hp)))

/-! ### Texts under keys -/

theorem insertText_of_lt {key text : String} {found : List (String × String)}
    (h : ∀ p ∈ found, p.1 < key) : textMap?.insertText key text found = found ++ [(key, text)] := by
  induction found with
  | nil => rfl
  | cons p found ih =>
    obtain ⟨hp, hfound⟩ := List.forall_mem_cons.1 h
    have hne : key ≠ p.1 := fun heq => String.lt_irrefl key (heq ▸ hp)
    rw [textMap?.insertText, if_neg (String.lt_asymm hp), if_neg hne, ih hfound]
    rfl

/-- If the keys ascend, each text is put at the end. -/
theorem foldlM_insertText {found rest : List (String × String)}
    (hless : ∀ p ∈ found, ∀ q ∈ rest, p.1 < q.1) (hrest : rest.Pairwise (·.1 < ·.1)) :
    (memberList (rest.map fun (key, text) => (key, .string text))).foldlM (fun found m =>
      match m.value with
      | .string text => some (textMap?.insertText m.key text found)
      | _ => none) found = some (found ++ rest) := by
  induction rest generalizing found with
  | nil => exact congrArg some (List.append_nil found).symm
  | cons p rest ih =>
    obtain ⟨hp, hrest⟩ := List.pairwise_cons.1 hrest
    have hfound : ∀ q ∈ found, q.1 < p.1 := fun q hq => hless q hq p List.mem_cons_self
    rw [memberList, List.map_cons, List.map_cons, List.foldlM_cons]
    show (memberList _).foldlM _ (textMap?.insertText p.1 p.2 found) = _
    rw [insertText_of_lt hfound, ih ?_ hrest, List.append_assoc, List.singleton_append]
    intro q hq r hr
    rcases List.mem_append.1 hq with hq | hq
    · exact hless q hq r (List.mem_cons_of_mem _ hr)
    · rw [List.mem_singleton.1 hq]
      exact hp r hr

theorem Coded.textMap {texts : List (String × String)} (h : texts.Pairwise (·.1 < ·.1)) :
    Coded (Json.record (texts.map fun (key, text) => (key, .string text))) textMap? texts where
  exact := by
    refine exact_record_iff.2 fun m hm => ?_
    obtain ⟨p, _, rfl⟩ := List.mem_map.1 hm
    exact .string p.2
  decoded := @foldlM_insertText [] texts (List.forall_mem_nil _) h

/-! ### Depth -/

theorem itemsDepth_le {items : List Json} {d : Nat} (h : ∀ item ∈ items, item.depth ≤ d) :
    itemsDepth items ≤ d := by
  induction items with
  | nil => exact Nat.zero_le d
  | cons item items ih =>
    obtain ⟨hitem, hitems⟩ := List.forall_mem_cons.1 h
    exact Nat.max_le.2 ⟨hitem, ih hitems⟩

theorem membersDepth_le {members : List Member} {d : Nat} (h : ∀ m ∈ members, m.value.depth ≤ d) :
    membersDepth members ≤ d := by
  induction members with
  | nil => exact Nat.zero_le d
  | cons m members ih =>
    obtain ⟨key, value⟩ := m
    obtain ⟨hm, hmembers⟩ := List.forall_mem_cons.1 h
    exact Nat.max_le.2 ⟨hm, ih hmembers⟩

theorem depth_array_le {items : List Json} {d : Nat} (h : ∀ item ∈ items, item.depth ≤ d) :
    (array items).depth ≤ d + 1 :=
  Nat.succ_le_succ (itemsDepth_le h)

theorem depth_record_le {d : Nat} (h : ∀ m ∈ members, m.2.depth ≤ d) :
    (record members).depth ≤ d + 1 := by
  refine Nat.succ_le_succ (membersDepth_le fun m hm => ?_)
  obtain ⟨p, hp, rfl⟩ := List.mem_map.1 hm
  exact h p hp

theorem itemsDecodable_of_forall {items : List Json}
    (h : ∀ item ∈ items, item.isDecodable = true) : itemsDecodable items = true := by
  induction items with
  | nil => rfl
  | cons item items ih =>
    obtain ⟨hitem, hitems⟩ := List.forall_mem_cons.1 h
    rw [itemsDecodable, hitem, ih hitems]
    rfl

theorem membersDecodable_of_forall {members : List Member}
    (h : ∀ m ∈ members, m.value.isDecodable = true) : membersDecodable members = true := by
  induction members with
  | nil => rfl
  | cons m members ih =>
    obtain ⟨key, value⟩ := m
    obtain ⟨hvalue, hmembers⟩ := List.forall_mem_cons.1 h
    rw [membersDecodable, hvalue, ih hmembers]
    rfl

theorem Exact.isDecodable {j : Json} (h : j.Exact) : j.isDecodable = true := by
  induction h with
  | null | bool | int | string => rfl
  | array _ ih => exact itemsDecodable_of_forall ih
  | object _ ih => exact membersDecodable_of_forall ih

end Json
end ScriptBind
