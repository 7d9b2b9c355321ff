import ScriptBind.Proofs.Canon.Words

/-!
# ScriptBind.Proofs.Canon.Unambiguous

Written forms identify canonical types.

* `Session.CollisionFree` - the names that are made from fields tell the structs of a table apart.
* `Session.told_of_lt` - two types with the same written form, whatever follows, are the same.
* `Session.fieldListing_inj` - fields with the same written form are the same.
* `Session.written_inj_after` - both, for the canonical types of any calls.
-/

namespace ScriptBind

open Notation

namespace Session

variable {s : Session}

def chars (s : Session) (id : CanonId) : List Char := (s.typeString id).toList

/-- The written form of `x` is not that of another type, wherever it stands. -/
abbrev Told (s : Session) (x y : CanonId) : Prop := Separates s.chars x y

/-! ### Functions -/

/-- The parameters, each with whether it collects arguments; such a one stands for its element. -/
def paramItems (s : Session) (variadic : Bool) : List CanonId → List (Bool × CanonId)
  | [] => []
  | [p] => [(variadic, if variadic then s.element p else p)]
  | p :: rest => (false, p) :: s.paramItems variadic rest

def itemChars (s : Session) : Bool × CanonId → List Char
  | (true, id) => '.' :: '.' :: '.' :: s.chars id
  | (false, id) => s.chars id

def sigChars (s : Session) : CanonFunc → List Char :=
  CanonKind.sigChars s.typeString fun r => s.typeString (s.element r)

def methodChars (s : Session) (m : CanonMethod) : List Char := m.name.toList ++ s.sigChars m.func

theorem map_paramStrings (variadic : Bool) (params : List CanonId) :
    (paramStrings s.typeString (fun r => s.typeString (s.element r)) variadic params).map
      String.toList = (s.paramItems variadic params).map s.itemChars := by
  induction params with
  | nil => rfl
  | cons p rest ih =>
    cases rest with
    | nil => cases variadic <;> simp [paramStrings, paramItems, itemChars, chars]
    | cons q rest => exact congrArg (s.chars p :: ·) ih

theorem snd_lt_of_mem_paramItems (variadic : Bool) {params : List CanonId} {n : Nat}
    (helement : ∀ id, s.element id ≤ id) (h : ∀ p ∈ params, p < n) :
    ∀ item ∈ s.paramItems variadic params, item.2 < n := by
  induction params with
  | nil => simp [paramItems]
  | cons p rest ih =>
    obtain ⟨hp, hrest⟩ := List.forall_mem_cons.1 h
    cases rest with
    | nil =>
      intro item hitem
      rw [List.mem_singleton.1 hitem]
      show (if variadic then s.element p else p) < n
      split
      · exact Nat.lt_of_le_of_lt (helement p) hp
      · exact hp
    | cons q rest => exact List.forall_mem_cons.2 ⟨hp, ih hrest⟩

/-- A slice is told by its element. -/
theorem Interned.eq_of_element_eq (h : s.Interned) {p q e e' : CanonId}
    (hp : s.kind? p = some (.slice e)) (hq : s.kind? q = some (.slice e'))
    (heq : s.element p = s.element q) : p = q := by
  rw [element, element, hp, hq] at heq
  have heq : e = e' := heq
  exact h.distinct p q _ _ hp hq (by rw [heq])

theorem paramItems_false (params : List CanonId) :
    s.paramItems false params = params.map (false, ·) := by
  induction params with
  | nil => rfl
  | cons p rest ih =>
    cases rest with
    | nil => rfl
    | cons q rest => exact congrArg ((false, p) :: ·) ih

theorem paramItems_true (init : List CanonId) (last : CanonId) :
    s.paramItems true (init ++ [last]) = init.map (false, ·) ++ [(true, s.element last)] := by
  induction init with
  | nil => rfl
  | cons p rest ih =>
    cases rest with
    | nil => rfl
    | cons q rest => exact congrArg ((false, p) :: ·) ih

theorem Interned.func_eq_of_paramItems_eq (h : s.Interned) {f f' : CanonFunc} (hf : f.Plain s)
    (hf' : f'.Plain s)
    (heq : s.paramItems f.variadic f.params = s.paramItems f'.variadic f'.params) :
    f.params = f'.params ∧ f.variadic = f'.variadic := by
  have hpair : Function.Injective fun p : CanonId => (false, p) := fun p q h => (Prod.mk.inj h).2
  -- one that collects arguments ends in an item that the other does not have
  have hne : ∀ {g g' : CanonFunc}, g.Plain s → g.variadic = true → g'.variadic = false →
      s.paramItems g.variadic g.params ≠ s.paramItems g'.variadic g'.params := by
    intro g g' hg hv hv' heq
    obtain ⟨last, e, hlast, _⟩ := hg.variadic hv
    obtain ⟨init, hparams⟩ := List.getLast?_eq_some_iff.1 hlast
    rw [hv, hv', hparams, paramItems_true, paramItems_false] at heq
    have hmem : (true, s.element last) ∈ g'.params.map (false, ·) := heq ▸ by simp
    obtain ⟨_, _, hmem⟩ := List.mem_map.1 hmem
    cases hmem
  cases hv : f.variadic <;> cases hv' : f'.variadic
  · rw [hv, hv', paramItems_false, paramItems_false] at heq
    exact ⟨List.map_injective_iff.2 hpair heq, rfl⟩
  · exact absurd heq.symm (hne hf' hv' hv)
  · exact absurd heq (hne hf hv hv')
  · obtain ⟨last, e, hlast, he⟩ := hf.variadic hv
    obtain ⟨last', e', hlast', he'⟩ := hf'.variadic hv'
    obtain ⟨init, hparams⟩ := List.getLast?_eq_some_iff.1 hlast
    obtain ⟨init', hparams'⟩ := List.getLast?_eq_some_iff.1 hlast'
    rw [hv, hv', hparams, hparams', paramItems_true, paramItems_true] at heq
    obtain ⟨hinit, heq⟩ := List.append_inj' heq rfl
    have hlast := h.eq_of_element_eq he he' (Prod.mk.inj (List.cons.inj heq).1).2
    rw [hparams, hparams', List.map_injective_iff.2 hpair hinit, hlast]
    exact ⟨rfl, rfl⟩

/-! ### Structs -/

def fieldChars (s : Session) (f : String × CanonId) : List Char :=
  f.1.toList ++ ' ' :: s.chars f.2 ++ [';']

theorem fieldListing_inj {n m : Nat} (htold : ∀ x < n, ∀ y < m, s.Told x y)
    {fields fields' : List (String × CanonId)}
    (hfields : ∀ f ∈ fields, Token.IsIdent f.1 ∧ f.2 < n)
    (hfields' : ∀ f ∈ fields', Token.IsIdent f.1 ∧ f.2 < m)
    (heq : s.fieldListing fields = s.fieldListing fields') : fields = fields' := by
  have hchars : ∀ fields, (s.fieldListing fields).toList = fields.flatMap s.fieldChars := by
    intro fields
    have htext : ∀ f : String × CanonId,
        (f.1 ++ " " ++ s.typeString f.2 ++ ";").toList = s.fieldChars f := fun f => by
      simp [fieldChars, chars]
    simp only [fieldListing, listingWith, String.toList_join, List.flatMap_map, htext]
  replace heq := congrArg String.toList heq
  rw [hchars, hchars] at heq
  induction fields generalizing fields' with
  | nil =>
    cases fields' with
    | nil => rfl
    | cons f rest => simp [fieldChars] at heq
  | cons f rest ih =>
    cases fields' with
    | nil => simp [fieldChars] at heq
    | cons f' rest' =>
      obtain ⟨hf, hrest⟩ := List.forall_mem_cons.1 hfields
      obtain ⟨hf', hrest'⟩ := List.forall_mem_cons.1 hfields'
      rw [List.flatMap_cons, List.flatMap_cons, fieldChars, fieldChars] at heq
      simp only [List.append_assoc, List.cons_append, List.nil_append] at heq
      obtain ⟨hname, heq⟩ := word_inj (isWordChar_of_isIdent hf.1) (isWordChar_of_isIdent hf'.1)
        (.cons (by decide) _) (.cons (by decide) _) heq
      obtain ⟨htype, heq⟩ := htold f.2 hf.2 f'.2 hf'.2 _ _ (.mark _ (by decide))
        (.mark _ (by decide)) (List.cons.inj heq).2
      have hfirst : f = f' := Prod.ext (String.toList_inj.1 hname) htype
      rw [hfirst, ih hrest hrest' (List.cons.inj heq).2]

/-- The fields of each struct in writing. -/
def listings (s : Session) : List String :=
  s.kinds.toList.filterMap fun
    | .struct _ fields => some (s.fieldListing fields)
    | _ => none

def CollisionFree (s : Session) : Prop :=
  ∀ a ∈ s.listings, ∀ b ∈ s.listings, structAlias a = structAlias b → a = b

instance (s : Session) : Decidable s.CollisionFree :=
  inferInstanceAs (Decidable (∀ a ∈ s.listings, ∀ b ∈ s.listings,
    structAlias a = structAlias b → a = b))

theorem fieldListing_mem_listings {id : CanonId} {aliasName : String}
    {fields : List (String × CanonId)} (h : s.kind? id = some (.struct aliasName fields)) :
    s.fieldListing fields ∈ s.listings :=
  List.mem_filterMap.2 ⟨_, Array.mem_toList_iff.2 (Array.mem_of_getElem? h), rfl⟩

/-! ### Parts that are told apart -/

theorem toList_resultString_one (x : CanonId) :
    (resultString s.typeString [x]).toList = ' ' :: s.chars x := by
  simp [resultString, chars]

theorem toList_resultString_several (x y : CanonId) (rest : List CanonId) :
    (resultString s.typeString (x :: y :: rest)).toList =
      ' ' :: '(' :: [',', ' '].intercalate ((x :: y :: rest).map s.chars) ++ [')'] := by
  have hchars : s.chars = String.toList ∘ s.typeString := rfl
  rw [hchars, ← List.map_map]
  simp [resultString, String.toList_intercalate]

section Parts

variable (h : s.Interned) (hplain : s.Plain)

include h hplain

theorem opens_chars {id : CanonId} (hid : id < s.size) (r : List Char) :
    Opens (s.chars id ++ r) := by
  obtain ⟨kind, hkind⟩ := exists_kind? hid
  have hopens := CanonKind.opens_written s.typeString (fun r => s.typeString (s.element r))
    (hplain id kind hkind)
  rw [← h.typeString_eq_written hkind] at hopens
  rw [chars]
  cases hchars : (s.typeString id).toList with
  | nil =>
    rw [hchars] at hopens
    exact hopens.elim
  | cons c rest =>
    rw [hchars] at hopens
    exact hopens

theorem chars_ne {id : CanonId} (hid : id < s.size) {c : Char}
    (hc : c ∈ [')', '(', '\x7d', '.', ' ']) (r r' : List Char) : s.chars id ++ r ≠ c :: r' := by
  intro heq
  have hopens := opens_chars h hplain hid r
  rw [heq] at hopens
  exact hopens hc

theorem separates_itemChars {x y : Bool × CanonId} (hx : x.2 < s.size) (hy : y.2 < s.size)
    (htold : s.Told x.2 y.2) : Separates s.itemChars x y := by
  intro r r' hr hr' heq
  obtain ⟨b, x⟩ := x
  obtain ⟨b', y⟩ := y
  cases b <;> cases b'
  · obtain ⟨rfl, hrest⟩ := htold r r' hr hr' heq
    exact ⟨rfl, hrest⟩
  · exact absurd heq (chars_ne h hplain hx (by decide) _ _)
  · exact absurd heq.symm (chars_ne h hplain hy (by decide) _ _)
  · simp only [itemChars, List.cons_append, List.cons.injEq, true_and] at heq
    obtain ⟨rfl, hrest⟩ := htold r r' hr hr' heq
    exact ⟨rfl, hrest⟩

theorem itemChars_ne {item : Bool × CanonId} (hitem : item.2 < s.size) (r r' : List Char) :
    s.itemChars item ++ r ≠ [')'] ++ r' := by
  obtain ⟨b, id⟩ := item
  cases b
  · exact chars_ne h hplain hitem (by decide) r r'
  · intro heq
    cases heq

variable {rs rs' : List CanonId} {r r' : List Char}

/-- One result stands alone, several stand in parentheses. -/
theorem resultString_inj (hrs : ∀ x ∈ rs, x < s.size) (hrs' : ∀ x ∈ rs', x < s.size)
    (htold : ∀ x ∈ rs, ∀ y ∈ rs', s.Told x y) (hr : Closes r) (hr' : Closes r')
    (heq : (resultString s.typeString rs).toList ++ r =
      (resultString s.typeString rs').toList ++ r') : rs = rs' ∧ r = r' := by
  -- what closes a type is not a blank with a result after it
  have hnone : ∀ {x cs t}, x < s.size → Closes t → t ≠ ' ' :: s.chars x ++ cs :=
    fun hx ht => ht.ne_blank (chars_ne h hplain hx (by decide) _)
  have hseveral : ∀ {cs t}, Closes t → t ≠ ' ' :: '(' :: cs := fun ht => ht.ne_blank nofun
  have hopen : ∀ {x : CanonId} {cs t}, x < s.size → s.chars x ++ t ≠ '(' :: cs :=
    fun hx => chars_ne h hplain hx (by decide) _ _
  rcases rs with _ | ⟨x, _ | ⟨y, rest⟩⟩
  · rcases rs' with _ | ⟨x', _ | ⟨y', rest'⟩⟩
    · exact ⟨rfl, heq⟩
    · rw [toList_resultString_one] at heq
      exact absurd heq (hnone (hrs' x' (by simp)) hr)
    · rw [toList_resultString_several] at heq
      exact absurd heq (hseveral hr)
  · rcases rs' with _ | ⟨x', _ | ⟨y', rest'⟩⟩
    · rw [toList_resultString_one] at heq
      exact absurd heq.symm (hnone (hrs x (by simp)) hr')
    · rw [toList_resultString_one, toList_resultString_one, List.cons_append, List.cons_append,
        List.cons.injEq] at heq
      obtain ⟨rfl, hrest⟩ := htold x (by simp) x' (by simp) r r' hr hr' heq.2
      exact ⟨rfl, hrest⟩
    · rw [toList_resultString_one, toList_resultString_several] at heq
      exact absurd (List.cons.inj heq).2 (hopen (hrs x (by simp)))
  · rcases rs' with _ | ⟨x', _ | ⟨y', rest'⟩⟩
    · rw [toList_resultString_several] at heq
      exact absurd heq.symm (hseveral hr')
    · rw [toList_resultString_one, toList_resultString_several] at heq
      exact absurd (List.cons.inj heq).2.symm (hopen (hrs' x' (by simp)))
    · rw [toList_resultString_several, toList_resultString_several] at heq
      simp only [List.cons_append, List.append_assoc, List.cons.injEq, true_and] at heq
      refine intercalate_inj (by simp) closer_paren htold (fun z hz r r' => ?_) heq
      exact chars_ne h hplain (hz.elim (hrs z) (hrs' z)) (by decide) r r'

variable {n : Nat} (hn : n ≤ s.size) (htold : ∀ x < n, ∀ y < s.size, s.Told x y)

include hn htold

theorem sigChars_inj {f f' : CanonFunc} (hf : f.Plain s) (hf' : f'.Plain s)
    (hbelow : ∀ x ∈ f.refs, x < n) (hbelow' : ∀ x ∈ f'.refs, x < s.size)
    (hr : Closes r) (hr' : Closes r')
    (heq : s.sigChars f ++ r = s.sigChars f' ++ r') : f = f' ∧ r = r' := by
  simp only [sigChars, CanonKind.sigChars] at heq
  rw [map_paramStrings, map_paramStrings] at heq
  simp only [List.cons_append, List.append_assoc, List.cons.injEq, true_and] at heq
  have hitems := snd_lt_of_mem_paramItems f.variadic (fun _ => h.element_le)
    fun p hp => hbelow p (List.mem_append_left _ hp)
  have hitems' := snd_lt_of_mem_paramItems f'.variadic (fun _ => h.element_le)
    fun p hp => hbelow' p (List.mem_append_left _ hp)
  have hlt : ∀ item ∈ s.paramItems f.variadic f.params, item.2 < s.size := fun item hitem =>
    Nat.lt_of_lt_of_le (hitems item hitem) hn
  obtain ⟨hparams, hresults⟩ := intercalate_inj (by simp) closer_paren
    (fun x hx y hy => separates_itemChars h hplain (hlt x hx) (hitems' y hy)
      (htold x.2 (hitems x hx) y.2 (hitems' y hy)))
    (fun x hx => itemChars_ne h hplain (hx.elim (hlt x) (hitems' x))) heq
  obtain ⟨hparams, hvariadic⟩ := h.func_eq_of_paramItems_eq hf hf' hparams
  have hresult : ∀ x ∈ f.results, x < n := fun x hx => hbelow x (List.mem_append_right _ hx)
  have hresult' : ∀ x ∈ f'.results, x < s.size := fun x hx =>
    hbelow' x (List.mem_append_right _ hx)
  obtain ⟨hresults, hrest⟩ := resultString_inj h hplain
    (fun x hx => Nat.lt_of_lt_of_le (hresult x hx) hn) hresult'
    (fun x hx y hy => htold x (hresult x hx) y (hresult' y hy)) hr hr' hresults
  refine ⟨?_, hrest⟩
  obtain ⟨params, results, variadic, typeParams⟩ := f
  obtain ⟨params', results', variadic', typeParams'⟩ := f'
  cases hf.typeParams
  cases hf'.typeParams
  cases hparams
  cases hvariadic
  cases hresults
  rfl

omit h hplain hn htold in
theorem methodChars_ne {m : CanonMethod} (hm : Token.IsIdent m.name) (r r' : List Char) :
    s.methodChars m ++ r ≠ [' ', '\x7d'] ++ r' := by
  intro heq
  have hopens := opens_of_isIdent hm (s.sigChars m.func ++ r)
  rw [← List.append_assoc] at hopens
  change Opens (s.methodChars m ++ r) at hopens
  rw [heq] at hopens
  exact hopens (by decide)

theorem separates_methods {m m' : CanonMethod} (hm : Token.IsIdent m.name ∧ m.func.Plain s)
    (hm' : Token.IsIdent m'.name ∧ m'.func.Plain s) (hbelow : ∀ x ∈ m.func.refs, x < n)
    (hbelow' : ∀ x ∈ m'.func.refs, x < s.size) : Separates s.methodChars m m' := by
  intro r r' hr hr' heq
  rw [methodChars, methodChars, List.append_assoc, List.append_assoc] at heq
  obtain ⟨hname, heq⟩ := word_inj (isWordChar_of_isIdent hm.1) (isWordChar_of_isIdent hm'.1)
    (.cons (by decide) _) (.cons (by decide) _) heq
  obtain ⟨hfunc, hrest⟩ := sigChars_inj h hplain hn htold hm.2 hm'.2 hbelow hbelow' hr hr' heq
  obtain ⟨name, func⟩ := m
  obtain ⟨name', func'⟩ := m'
  cases String.toList_inj.1 hname
  cases hfunc
  exact ⟨rfl, hrest⟩

/-- Types of more than one word. -/
theorem composite_inj {kind kind' : CanonKind} (hkind : kind.Plain s) (hkind' : kind'.Plain s)
    (hnone : kind.atom? = none) (hnone' : kind'.atom? = none)
    (hbelow : ∀ x ∈ kind.refs, x < n) (hbelow' : ∀ x ∈ kind'.refs, x < s.size)
    (hr : Closes r) (hr' : Closes r') (hhead : kind.head = kind'.head)
    (htail : kind.tail s.typeString (fun r => s.typeString (s.element r)) ++ r =
      kind'.tail s.typeString (fun r => s.typeString (s.element r)) ++ r') :
    kind = kind' ∧ r = r' := by
  have hform := CanonKind.form_eq_of_tail_eq _ _ hkind hkind' hnone hnone' hhead htail
  have hpart : ∀ x ∈ kind.refs, ∀ y ∈ kind'.refs, s.Told x y := fun x hx y hy =>
    htold x (hbelow x hx) y (hbelow' y hy)
  cases kind with
  | slice element =>
    cases kind' <;> simp only [CanonKind.form, reduceCtorEq] at hform
    rename_i element'
    obtain ⟨rfl, hrest⟩ := hpart element (by simp [CanonKind.refs]) element'
      (by simp [CanonKind.refs]) r r' hr hr' (List.cons.inj (List.cons.inj htail).2).2
    exact ⟨rfl, hrest⟩
  | pointer element =>
    cases kind' <;> simp only [CanonKind.form, reduceCtorEq] at hform
    rename_i element'
    obtain ⟨rfl, hrest⟩ := hpart element (by simp [CanonKind.refs]) element'
      (by simp [CanonKind.refs]) r r' hr hr' (List.cons.inj htail).2
    exact ⟨rfl, hrest⟩
  | array length element =>
    cases kind' <;> simp only [CanonKind.form, reduceCtorEq, CanonKind.array.injEq] at hform
    rename_i length' element'
    obtain ⟨rfl, _⟩ := hform
    have htail := List.append_cancel_left (List.append_assoc .. ▸ List.append_assoc .. ▸ htail)
    obtain ⟨rfl, hrest⟩ := hpart element (by simp [CanonKind.refs]) element'
      (by simp [CanonKind.refs]) r r' hr hr' (List.cons.inj htail).2
    exact ⟨rfl, hrest⟩
  | map key value =>
    cases kind' <;> simp only [CanonKind.form, reduceCtorEq] at hform
    rename_i key' value'
    simp only [CanonKind.tail, List.cons_append, List.append_assoc, List.cons.injEq, true_and]
      at htail
    obtain ⟨rfl, hvalue⟩ := hpart key (by simp [CanonKind.refs]) key' (by simp [CanonKind.refs])
      _ _ (.mark _ (by decide)) (.mark _ (by decide)) htail
    obtain ⟨rfl, hrest⟩ := hpart value (by simp [CanonKind.refs]) value'
      (by simp [CanonKind.refs]) r r' hr hr' (List.cons.inj hvalue).2
    exact ⟨rfl, hrest⟩
  | chan direction element =>
    cases kind' <;> simp only [CanonKind.form, reduceCtorEq, CanonKind.chan.injEq] at hform
    rename_i direction' element'
    obtain ⟨rfl, _⟩ := hform
    have htail : s.chars element ++ r = s.chars element' ++ r' := by
      cases direction <;> simpa [CanonKind.tail, chars] using htail
    obtain ⟨rfl, hrest⟩ := hpart element (by simp [CanonKind.refs]) element'
      (by simp [CanonKind.refs]) r r' hr hr' htail
    exact ⟨rfl, hrest⟩
  | func f =>
    cases kind' <;> simp only [CanonKind.form, reduceCtorEq] at hform
    rename_i f'
    obtain ⟨rfl, hrest⟩ := sigChars_inj h hplain hn htold hkind hkind' hbelow hbelow' hr hr' htail
    exact ⟨rfl, hrest⟩
  | interface methods =>
    cases kind' <;> simp only [CanonKind.form, reduceCtorEq] at hform
    rename_i methods'
    simp only [CanonKind.tail, List.cons_append, List.append_assoc, List.cons.injEq, true_and]
      at htail
    have hname : ∀ m, m ∈ methods ∨ m ∈ methods' → Token.IsIdent m.name := fun m hm =>
      hm.elim (fun hm => (hkind m hm).1) fun hm => (hkind' m hm).1
    have htail : [';', ' '].intercalate (methods.map s.methodChars) ++ ([' ', '\x7d'] ++ r) =
        [';', ' '].intercalate (methods'.map s.methodChars) ++ ([' ', '\x7d'] ++ r') := htail
    obtain ⟨rfl, hrest⟩ := intercalate_inj (by decide) closer_brace
      (fun m hm m' hm' => separates_methods h hplain hn htold (hkind m hm) (hkind' m' hm')
        (fun x hx => hbelow x (List.mem_flatMap.2 ⟨m, hm, hx⟩))
        fun x hx => hbelow' x (List.mem_flatMap.2 ⟨m', hm', hx⟩))
      (fun m hm _ _ => methodChars_ne (hname m hm) _ _) htail
    exact ⟨rfl, hrest⟩
  | typeParam name => exact hkind.elim
  | _ => cases hnone

omit hn in
theorem atom_inj (hcollisions : s.CollisionFree) {x y : CanonId} {kind kind' : CanonKind}
    {name : String} (hx : s.kind? x = some kind) (hy : s.kind? y = some kind')
    (hbelow : ∀ r ∈ kind.refs, r < n) (hatom : kind.atom? = some name)
    (hatom' : kind'.atom? = some name) : x = y := by
  have hface := CanonKind.face_eq_of_atom? (hplain x kind hx) (hplain y kind' hy) hatom hatom'
  refine h.distinct x y kind kind' hx hy (CanonKind.outline_eq_of_face_eq ?_ hface)
  rintro aliasName fields fields' rfl rfl
  have hlisting := hcollisions _ (fieldListing_mem_listings hx) _ (fieldListing_mem_listings hy)
    ((h.aliased x _ _ hx).symm.trans (h.aliased y _ _ hy))
  refine fieldListing_inj htold (fun f hf => ?_) (fun f hf => ?_) hlisting
  · exact ⟨(hplain x _ hx).2 f hf, hbelow f.2 (List.mem_map_of_mem hf)⟩
  · exact ⟨(hplain y _ hy).2 f hf, Nat.lt_trans (h.below y _ hy f.2 (List.mem_map_of_mem hf))
      (lt_size_of_kind? hy)⟩

omit hn htold in
/-- The notation is unambiguous if the names that are made from fields are. -/
theorem told_of_lt (hcollisions : s.CollisionFree) {x y : CanonId} (hx : x < s.size)
    (hy : y < s.size) : s.Told x y := by
  induction x using Nat.strongRecOn generalizing y with
  | _ x ih =>
    intro r r' hr hr' heq
    obtain ⟨kind, hkind⟩ := exists_kind? hx
    obtain ⟨kind', hkind'⟩ := exists_kind? hy
    have hk := hplain x kind hkind
    have hk' := hplain y kind' hkind'
    have htold : ∀ x' < x, ∀ y' < s.size, s.Told x' y' := fun x' hx' y' hy' =>
      ih x' hx' (Nat.lt_trans hx' hx) hy'
    have hbelow := h.below x kind hkind
    rw [chars, chars, h.typeString_eq_written hkind, h.typeString_eq_written hkind'] at heq
    obtain ⟨hhead, htail⟩ := CanonKind.head_tail_inj _ _ hk hk' hr hr' heq
    cases hatom : kind.atom? with
    | some name =>
      cases hatom' : kind'.atom? with
      | some name' =>
        rw [CanonKind.head_of_atom? hatom, CanonKind.head_of_atom? hatom'] at hhead
        rw [CanonKind.tail_of_atom? _ _ hatom, CanonKind.tail_of_atom? _ _ hatom'] at htail
        subst hhead
        exact ⟨atom_inj h hplain htold hcollisions hkind hkind' hbelow hatom hatom', htail⟩
      | none =>
        refine absurd (CanonKind.head_mem_keywords hk' hatom') ?_
        rw [← hhead, CanonKind.head_of_atom? hatom]
        exact CanonKind.not_mem_keywords_of_atom? hk hatom
    | none =>
      cases hatom' : kind'.atom? with
      | some name' =>
        refine absurd (CanonKind.head_mem_keywords hk hatom) ?_
        rw [hhead, CanonKind.head_of_atom? hatom']
        exact CanonKind.not_mem_keywords_of_atom? hk' hatom'
      | none =>
        obtain ⟨hsame, hrest⟩ := composite_inj h hplain (Nat.le_of_lt hx) htold hk hk' hatom hatom'
          hbelow (fun r hr => Nat.lt_trans (h.below y kind' hkind' r hr) hy) hr hr' hhead htail
        exact ⟨h.distinct x y kind kind' hkind hkind' (congrArg _ hsame), hrest⟩

end Parts

/-! ### Of any calls -/

/-- Whatever was asked for and whatever failed: two types of the table differ in writing, and so do
two lists of fields over them. -/
theorem written_inj_after {g : TypeGraph} (hg : g.Plain) (types : List TypeId)
    (hcollisions : (after g types .empty).CollisionFree) :
    (∀ id < (after g types .empty).size, ∀ id' < (after g types .empty).size,
      (after g types .empty).typeString id = (after g types .empty).typeString id' → id = id') ∧
    ∀ fields fields', (∀ f ∈ fields, Token.IsIdent f.1 ∧ f.2 < (after g types .empty).size) →
      (∀ f ∈ fields', Token.IsIdent f.1 ∧ f.2 < (after g types .empty).size) →
      (after g types .empty).fieldListing fields = (after g types .empty).fieldListing fields' →
      fields = fields' := by
  have hvalid := valid_after types (valid_empty g)
  have htold : ∀ x < (after g types .empty).size, ∀ y < (after g types .empty).size,
      (after g types .empty).Told x y := fun x hx y hy =>
    told_of_lt hvalid.interned (hvalid.plain hg) hcollisions hx hy
  refine ⟨fun id hid id' hid' heq => ?_, fun fields fields' => fieldListing_inj htold⟩
  exact (htold id hid id' hid' [] [] .nil .nil (by rw [chars, chars, heq])).1

/-- A function that collects arguments, and two structs that differ in a type only. No node is at
position 9. -/
def kiln : TypeGraph where
  nodes := #[.string, .slice 0, .aliasOf "kiln.Args" 1,
    .func ⟨[⟨some "args", 2⟩], [⟨none, 5⟩], true, none, []⟩,
    .chan .recvOnly 3, .named "kiln.Oven" (some 6) [],
    .struct [⟨"fire", 3⟩, ⟨"next", 7⟩], .pointer 5,
    .struct [⟨"fire", 4⟩, ⟨"next", 7⟩]]
  names := [("kiln.Args", 2), ("kiln.Oven", 5)]

theorem plain_kiln : kiln.Plain := by
  have hfire : FuncSig.Plain kiln ⟨[⟨some "args", 2⟩], [⟨none, 5⟩], true, none, []⟩ :=
    ⟨rfl, fun _ => ⟨2, 1, 0, rfl, .single ⟨"kiln.Args", rfl⟩, rfl⟩⟩
  have hfields : Token.IsIdent "fire" ∧ Token.IsIdent "next" := by decide
  have hname : IsOwnName "kiln.Oven" :=
    ⟨⟨"kiln", "Oven", by decide, by decide, by decide⟩, by decide⟩
  simp [TypeGraph.Plain, kiln, TypeKind.Plain] at hfire ⊢
  exact ⟨hfire, hname, hfields⟩

theorem written_inj_after_kiln : kiln.Plain ∧ (after kiln [8, 9] .empty).CollisionFree ∧
    (∀ id < (after kiln [8, 9] .empty).size, ∀ id' < (after kiln [8, 9] .empty).size,
      (after kiln [8, 9] .empty).typeString id = (after kiln [8, 9] .empty).typeString id' →
        id = id') ∧
    ∀ fields fields', (∀ f ∈ fields, Token.IsIdent f.1 ∧ f.2 < (after kiln [8, 9] .empty).size) →
      (∀ f ∈ fields', Token.IsIdent f.1 ∧ f.2 < (after kiln [8, 9] .empty).size) →
      (after kiln [8, 9] .empty).fieldListing fields =
        (after kiln [8, 9] .empty).fieldListing fields' → fields = fields' := by
  have hcollisions : (after kiln [8, 9] .empty).CollisionFree := by decide +kernel
  exact ⟨plain_kiln, hcollisions, written_inj_after plain_kiln [8, 9] hcollisions⟩

end Session
end ScriptBind
