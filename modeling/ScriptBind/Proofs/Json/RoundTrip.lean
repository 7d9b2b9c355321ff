import ScriptBind.Proofs.Json.Lexemes

/-!
# ScriptBind.Proofs.Json.RoundTrip

A JSON text is read as the value that it is written from, in both forms of writing.

* `Json.Exact` - the values of which this is true.
* `Json.Reads` - a value is read back, whatever follows it.
* `Json.read?_pretty` - the text of a value is read as this value.
-/

namespace ScriptBind
namespace Json

/-- Values without floating point numbers, whose integers have 64 bits, signed or unsigned. -/
inductive Exact : Json → Prop
  | null : Exact .null
  | bool (value : Bool) : Exact (.bool value)
  | int {n : Int} : -(1 <<< 63 : Nat) ≤ n → n < (1 <<< 64 : Nat) → Exact (.int n)
  | string (s : String) : Exact (.string s)
  | array {items : List Json} : (∀ item ∈ items, Exact item) → Exact (.array items)
  | object {members : List Member} : (∀ m ∈ members, Exact m.value) → Exact (.object members)

/-- Each character of the text allows for two steps of the recursion. -/
def Reads (j : Json) : Prop :=
  ∀ (level : Option Nat) (rest : List Char) (fuel : Nat), Stops rest →
    2 * (j.chars level).length ≤ fuel → readValue? fuel (j.chars level ++ rest) = some (j, rest)

variable {cs rest : List Char} {fuel : Nat}

/-! ### The text of a value -/

section Chars

variable (level : Option Nat)

theorem chars_null : Json.null.chars level = "null".toList := rfl

theorem chars_bool (value : Bool) :
    (Json.bool value).chars level = if value then "true".toList else "false".toList := by
  cases value <;> rfl

theorem chars_int (n : Int) : (Json.int n).chars level = (toString n).toList := rfl

theorem chars_string (s : String) : (Json.string s).chars level = stringChars s := rfl

theorem chars_array_nil : (Json.array []).chars level = ['[', ']'] := rfl

theorem chars_array_cons (item : Json) (items : List Json) :
    (Json.array (item :: items)).chars level =
      '[' :: lineStart (deeper level) ++ item.chars (deeper level) ++
        itemsChars (deeper level) items ++ lineStart level ++ [']'] :=
  rfl

theorem chars_object_nil : (Json.object []).chars level = ['\x7b', '\x7d'] := rfl

theorem chars_object_cons (key : String) (value : Json) (members : List Member) :
    (Json.object (⟨key, value⟩ :: members)).chars level =
      '\x7b' :: lineStart (deeper level) ++ stringChars key ++ colon level ++
        value.chars (deeper level) ++ membersChars (deeper level) members ++ lineStart level ++
        ['\x7d'] :=
  rfl

end Chars

/-! ### Blanks before a value -/

section Blanks

variable (fuel : Nat) (level : Option Nat) (cs : List Char)

theorem readValue?_congr {cs ds : List Char} (h : skipSpace cs = skipSpace ds) :
    readValue? fuel cs = readValue? fuel ds := by
  cases fuel with
  | zero => rfl
  | succ fuel => rw [readValue?, readValue?, h]

theorem readValue?_lineStart : readValue? fuel (lineStart level ++ cs) = readValue? fuel cs :=
  readValue?_congr fuel (skipSpace_lineStart level cs)

theorem readValue?_space : readValue? fuel (' ' :: cs) = readValue? fuel cs :=
  readValue?_congr fuel rfl

theorem readItems?_lineStart : readItems? fuel (lineStart level ++ cs) = readItems? fuel cs := by
  cases fuel with
  | zero => rfl
  | succ fuel => rw [readItems?, readItems?, readValue?_lineStart]

theorem readMembers?_lineStart :
    readMembers? fuel (lineStart level ++ cs) = readMembers? fuel cs := by
  cases fuel with
  | zero => rfl
  | succ fuel => rw [readMembers?, readMembers?, skipSpace_lineStart]

end Blanks

theorem stops_lineStart {level : Option Nat} {c : Char} (h : Stops (c :: rest)) :
    Stops (lineStart level ++ c :: rest) := by
  cases level with
  | none => exact h
  | some level => exact stops_cons (by decide) (by decide) (by decide) _

/-! ### Numbers -/

theorem isSpace_of_isDigit {c : Char} (h : c.isDigit = true) : isSpace c = false := by
  refine Bool.eq_false_iff.2 fun hc => ?_
  simp only [isSpace, Bool.or_eq_true, decide_eq_true_eq] at hc
  rcases hc with ((rfl | rfl) | rfl) | rfl <;> cases h

theorem readValue?_of_isDigit {c : Char} (h : c.isDigit = true) :
    readValue? (fuel + 1) (c :: cs) = readUnsigned? false (c :: cs) := by
  rw [readValue?, skipSpace_cons (isSpace_of_isDigit h)]
  split <;> first | rfl | (rename_i heq; cases heq; cases h)

theorem toList_toString_ofNat (n : Nat) : (toString (Int.ofNat n)).toList = Nat.toDigits 10 n :=
  Nat.toList_repr

theorem toList_toString_negSucc (n : Nat) :
    (toString (Int.negSucc n)).toList = '-' :: Nat.toDigits 10 (n + 1) := by
  show ("-" ++ Nat.repr (n + 1)).toList = _
  rw [String.toList_append, Nat.toList_repr]
  rfl

theorem integer_toDigits {n : Nat} (h : n < 1 <<< 64) :
    readUnsigned?.integer false (Nat.toDigits 10 n) = .int n := by
  rw [readUnsigned?.integer, natOf_toDigits]
  exact if_pos h

theorem negative_toDigits {n : Nat} (hpos : n ≠ 0) (h : n ≤ 1 <<< 63) :
    readUnsigned?.integer true (Nat.toDigits 10 n) = .int (-(n : Int)) := by
  rw [readUnsigned?.integer, natOf_toDigits]
  exact if_neg (not_or.2 ⟨hpos, Nat.not_lt.2 h⟩)

theorem reads_int {n : Int} (hlow : -(1 <<< 63 : Nat) ≤ n) (hhigh : n < (1 <<< 64 : Nat)) :
    Reads (.int n) := by
  intro level rest fuel hrest hfuel
  rw [chars_int] at hfuel ⊢
  cases n with
  | ofNat m =>
    have hlt : m < 1 <<< 64 := Int.ofNat_lt.1 hhigh
    have hread := readUnsigned?_toDigits false m hrest
    obtain ⟨d, ds, hds, hd⟩ := exists_toDigits m
    rw [toList_toString_ofNat, hds] at hfuel ⊢
    obtain ⟨fuel, rfl⟩ : ∃ k, fuel = k + 1 :=
      ⟨fuel - 1, by rw [List.length_cons] at hfuel; omega⟩
    rw [integer_toDigits hlt, hds] at hread
    exact (readValue?_of_isDigit hd).trans hread
  | negSucc m =>
    have hread := readUnsigned?_toDigits true (m + 1) hrest
    rw [toList_toString_negSucc] at hfuel ⊢
    obtain ⟨fuel, rfl⟩ : ∃ k, fuel = k + 1 :=
      ⟨fuel - 1, by rw [List.length_cons] at hfuel; omega⟩
    rw [negative_toDigits (Nat.succ_ne_zero m) (by omega)] at hread
    exact hread

/-! ### Items and members -/

theorem readItems?_chars {item : Json} {items : List Json} (hitem : item.Reads)
    (hitems : ∀ i ∈ items, Reads i) (level close : Option Nat) (rest : List Char) (fuel : Nat)
    (hfuel : 2 * ((item.chars level).length + (itemsChars level items).length) < fuel) :
    readItems? fuel (item.chars level ++ (itemsChars level items ++
      (lineStart close ++ ']' :: rest))) = some (item :: items, rest) := by
  obtain ⟨fuel, rfl⟩ : ∃ k, fuel = k + 1 := ⟨fuel - 1, by omega⟩
  induction items generalizing item fuel with
  | nil =>
    have hstops : Stops (lineStart close ++ ']' :: rest) :=
      stops_lineStart (stops_cons (by decide) (by decide) (by decide) rest)
    rw [itemsChars, List.nil_append, readItems?, hitem level _ fuel hstops (by omega)]
    simp only [skipSpace_lineStart]
    rfl
  | cons next items ih =>
    obtain ⟨hnext, hitems⟩ := List.forall_mem_cons.1 hitems
    rw [itemsChars] at hfuel ⊢
    simp only [List.cons_append, List.append_assoc, List.length_cons, List.length_append] at hfuel ⊢
    have hstops := stops_cons (c := ',') (by decide) (by decide) (by decide)
    obtain ⟨fuel, rfl⟩ : ∃ k, fuel = k + 1 := ⟨fuel - 1, by omega⟩
    have hrest := ih hnext hitems fuel (by omega)
    rw [readItems?, hitem level _ (fuel + 1) (hstops _) (by omega)]
    simp only [skipSpace_cons (c := ',') rfl, readItems?_lineStart, hrest]

theorem colon_deeper (level : Option Nat) : colon (deeper level) = colon level := by
  cases level <;> rfl

/-- The value stands after the colon, with or without a blank. -/
theorem skipSpace_colon (level : Option Nat) (cs : List Char) :
    ∃ after, skipSpace (colon level ++ cs) = ':' :: after ∧
      ∀ fuel, readValue? fuel after = readValue? fuel cs := by
  cases level with
  | none => exact ⟨cs, rfl, fun _ => rfl⟩
  | some level => exact ⟨' ' :: cs, rfl, fun fuel => readValue?_space fuel cs⟩

theorem consMember_toList (key : String) (value : Json) (members : Option (List Member)) :
    consMember (some key.toList) value members = members.map (⟨key, value⟩ :: ·) := by
  cases members with
  | none => rfl
  | some members => rw [consMember, String.ofList_toList]; rfl

theorem readMembers?_member {value : Json} (hvalue : value.Reads) (key : String)
    {level : Option Nat} (hrest : Stops rest) (hfuel : 2 * (value.chars level).length ≤ fuel) :
    (∀ after, skipSpace rest = '\x7d' :: after →
      readMembers? (fuel + 1) (stringChars key ++ (colon level ++ (value.chars level ++ rest))) =
        some (some [⟨key, value⟩], after)) ∧
    ∀ next, skipSpace rest = ',' :: next →
      readMembers? (fuel + 1) (stringChars key ++ (colon level ++ (value.chars level ++ rest))) =
        (readMembers? fuel next).map fun read =>
          (read.1.map fun members => ⟨key, value⟩ :: members, read.2) := by
  obtain ⟨after, hcolon, hafter⟩ := skipSpace_colon level (value.chars level ++ rest)
  obtain ⟨cs, htext, hkey⟩ := readString?_stringChars key
    (colon level ++ (value.chars level ++ rest))
  rw [htext, readMembers?, skipSpace_cons rfl]
  simp only [hkey, hcolon, hafter, hvalue level rest fuel hrest hfuel, consMember_toList]
  constructor
  · intro after hclose
    simp only [hclose, Option.map_some]
  · intro next hcomma
    simp only [hcomma]
    cases readMembers? fuel next <;> rfl

theorem readMembers?_chars {value : Json} {members : List Member}
    (hvalue : value.Reads) (hmembers : ∀ m ∈ members, m.value.Reads) (key : String)
    (level close : Option Nat) (rest : List Char) (fuel : Nat)
    (hfuel : 2 * ((value.chars level).length + (membersChars level members).length) < fuel) :
    readMembers? fuel (stringChars key ++ (colon level ++ (value.chars level ++
      (membersChars level members ++ (lineStart close ++ '\x7d' :: rest))))) =
        some (some (⟨key, value⟩ :: members), rest) := by
  obtain ⟨fuel, rfl⟩ : ∃ k, fuel = k + 1 := ⟨fuel - 1, by omega⟩
  induction members generalizing key value fuel with
  | nil =>
    have hstops : Stops (lineStart close ++ '\x7d' :: rest) :=
      stops_lineStart (stops_cons (by decide) (by decide) (by decide) rest)
    rw [membersChars, List.nil_append]
    refine (readMembers?_member hvalue key hstops (by omega)).1 rest ?_
    rw [skipSpace_lineStart]
    rfl
  | cons next members ih =>
    obtain ⟨name, v⟩ := next
    have hnext : v.Reads := hmembers ⟨name, v⟩ List.mem_cons_self
    have hmembers := fun m hm => hmembers m (List.mem_cons_of_mem _ hm)
    rw [membersChars] at hfuel ⊢
    simp only [List.cons_append, List.append_assoc, List.length_cons, List.length_append] at hfuel ⊢
    obtain ⟨fuel, rfl⟩ : ∃ k, fuel = k + 1 := ⟨fuel - 1, by omega⟩
    have hstops := stops_cons (c := ',') (by decide) (by decide) (by decide)
    refine ((readMembers?_member hvalue key (hstops _) (by omega)).2 _
      (skipSpace_cons rfl _)).trans ?_
    rw [readMembers?_lineStart, ih hnext hmembers name fuel (by omega)]
    rfl

/-! ### Values -/

section Openings

variable (fuel : Nat) (cs : List Char)

theorem readValue?_quote : readValue? (fuel + 1) ('"' :: cs) =
    match readString? (cs.length + 1) cs with
    | none => none
    | some (text, rest) => some (stringOrBroken text, rest) :=
  rfl

theorem readValue?_bracket : readValue? (fuel + 1) ('[' :: cs) =
    match skipSpace cs with
    | ']' :: rest => some (.array [], rest)
    | rest =>
      match readItems? fuel rest with
      | none => none
      | some (items, rest) => some (.array items, rest) :=
  rfl

theorem readValue?_brace : readValue? (fuel + 1) ('\x7b' :: cs) =
    match skipSpace cs with
    | '\x7d' :: rest => some (.object [], rest)
    | rest =>
      match readMembers? fuel rest with
      | none => none
      | some (members, rest) => some (objectOrBroken members, rest) :=
  rfl

end Openings

/-- How the text of a value starts. -/
theorem Exact.head {j : Json} (h : j.Exact) (level : Option Nat) : ∃ c cs,
    j.chars level = c :: cs ∧ isSpace c = false ∧ c ≠ ']' := by
  cases h with
  | null => exact ⟨'n', _, rfl, rfl, by decide⟩
  | bool value =>
    cases value with
    | true => exact ⟨'t', _, rfl, rfl, by decide⟩
    | false => exact ⟨'f', _, rfl, rfl, by decide⟩
  | @int n hlow hhigh =>
    rw [chars_int]
    cases n with
    | ofNat m =>
      obtain ⟨d, ds, hds, hd⟩ := exists_toDigits m
      refine ⟨d, ds, (toList_toString_ofNat m).trans hds, isSpace_of_isDigit hd, ?_⟩
      rintro rfl
      cases hd
    | negSucc m => exact ⟨'-', _, toList_toString_negSucc m, rfl, by decide⟩
  | string s => exact ⟨'"', _, rfl, rfl, by decide⟩
  | @array items _ => cases items <;> exact ⟨'[', _, rfl, rfl, by decide⟩
  | @object members _ =>
    rcases members with _ | ⟨⟨key, value⟩, rest⟩ <;> exact ⟨'\x7b', _, rfl, rfl, by decide⟩

theorem reads_string (s : String) : Reads (.string s) := by
  intro level rest fuel _ hfuel
  obtain ⟨cs, htext, hread⟩ := readString?_stringChars s rest
  obtain ⟨fuel, rfl⟩ : ∃ k, fuel = k + 1 := by
    rw [chars_string, stringChars, List.cons_append, List.length_cons] at hfuel
    exact ⟨fuel - 1, by omega⟩
  rw [chars_string, htext, readValue?_quote, hread]
  simp only [stringOrBroken, String.ofList_toList]

theorem reads_array {items : List Json} (hexact : ∀ item ∈ items, Exact item)
    (hreads : ∀ item ∈ items, Reads item) : Reads (.array items) := by
  intro level rest fuel _ hfuel
  cases items with
  | nil =>
    obtain ⟨fuel, rfl⟩ : ∃ k, fuel = k + 1 := ⟨fuel - 1, by simp [chars_array_nil] at hfuel; omega⟩
    rfl
  | cons item items =>
    obtain ⟨hitem, hitems⟩ := List.forall_mem_cons.1 hreads
    rw [chars_array_cons] at hfuel ⊢
    simp only [List.cons_append, List.append_assoc, List.length_cons, List.length_append] at hfuel ⊢
    obtain ⟨fuel, rfl⟩ : ∃ k, fuel = k + 1 := ⟨fuel - 1, by omega⟩
    have hread := readItems?_chars hitem hitems (deeper level) level rest fuel (by omega)
    obtain ⟨c, cs, hhead, hspace, hclose⟩ := (hexact item List.mem_cons_self).head (deeper level)
    rw [hhead, List.cons_append] at hread ⊢
    rw [readValue?_bracket]
    simp only [skipSpace_lineStart, skipSpace_cons hspace, List.nil_append]
    split
    · rename_i heq
      exact absurd (List.cons.inj heq).1 hclose
    · rw [hread]

theorem reads_object {members : List Member} (hreads : ∀ m ∈ members, m.value.Reads) :
    Reads (.object members) := by
  intro level rest fuel _ hfuel
  rcases members with _ | ⟨⟨key, value⟩, members⟩
  · obtain ⟨fuel, rfl⟩ : ∃ k, fuel = k + 1 :=
      ⟨fuel - 1, by simp [chars_object_nil] at hfuel; omega⟩
    rfl
  · have hvalue : value.Reads := hreads ⟨key, value⟩ List.mem_cons_self
    have hmembers := fun m hm => hreads m (List.mem_cons_of_mem _ hm)
    rw [chars_object_cons] at hfuel ⊢
    simp only [List.cons_append, List.append_assoc, List.length_cons, List.length_append] at hfuel ⊢
    obtain ⟨fuel, rfl⟩ : ∃ k, fuel = k + 1 := ⟨fuel - 1, by omega⟩
    have hread := readMembers?_chars hvalue hmembers key (deeper level) level rest fuel (by omega)
    rw [colon_deeper, stringChars, List.cons_append, List.cons_append] at hread
    rw [stringChars, List.cons_append, List.cons_append]
    rw [readValue?_brace]
    simp only [skipSpace_lineStart, skipSpace_cons (c := '"') rfl, List.nil_append]
    split
    · rename_i heq
      cases heq
    · rw [hread]
      rfl

theorem Exact.reads {j : Json} (h : j.Exact) : j.Reads := by
  induction h with
  | null =>
    intro level rest fuel _ hfuel
    obtain ⟨fuel, rfl⟩ : ∃ k, fuel = k + 1 := ⟨fuel - 1, by simp [chars_null] at hfuel; omega⟩
    rfl
  | bool value =>
    intro level rest fuel _ hfuel
    obtain ⟨fuel, rfl⟩ : ∃ k, fuel = k + 1 :=
      ⟨fuel - 1, by cases value <;> simp [chars_bool] at hfuel <;> omega⟩
    cases value <;> rfl
  | int hlow hhigh => exact reads_int hlow hhigh
  | string s => exact reads_string s
  | array h ih => exact reads_array h ih
  | object h ih => exact reads_object ih

theorem read?_chars {j : Json} (h : j.Exact) (level : Option Nat) :
    read? (String.ofList (j.chars level)) = some j := by
  have hread := h.reads level [] (2 * (j.chars level).length + 2) stops_nil (by omega)
  rw [List.append_nil] at hread
  simp only [read?, String.toList_ofList, hread]
  rfl

theorem read?_pretty {j : Json} (h : j.Exact) : read? j.pretty = some j := read?_chars h (some 0)

end Json
end ScriptBind
