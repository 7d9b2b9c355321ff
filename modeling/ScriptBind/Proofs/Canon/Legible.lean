import ScriptBind.Proofs.Canon.Plain
import ScriptBind.Proofs.Canon.Throughout
import ScriptBind.Proofs.Canon.Trees
import ScriptBind.Proofs.TypeExpr.RoundTrip

/-!
# ScriptBind.Proofs.Canon.Legible

What the written form of a canonical type is read as. The notation has no parentheses around types:
where a channel of both directions is followed by the arrow of its element, the reader gives the
arrow to the channel.

* `Unfolding.expr` - the expression of a tree.
* `Unfolding.reading` - the tree that the written form of a tree is read as.
* `Unfolding.Legible` - what can be written down and read.
* `Unfolding.scan_text` - a tree in writing has the tokens of its reading.
* `Unfolding.reading_eq_iff` - which trees are their own readings.
-/

namespace ScriptBind

open Token (Prints joined joined_singleton)

/-! ### Expressions of trees -/

mutual

/-- Of a tree without structs. -/
def Unfolding.expr : Unfolding → TypeExpr
  | .slice element => .slice element.expr
  | .array length element => .array length element.expr
  | .map key value => .map key.expr value.expr
  | .pointer element => .pointer element.expr
  | .func params results variadic _ =>
    .func ⟨[], paramExprs params, paramExprs results, variadic⟩
  | .chan direction element => .chan direction element.expr
  | .interface methods => .interface (methodExprs methods)
  | u => .name u.text []

def paramExprs : List Unfolding → List ParamExpr
  | [] => []
  | u :: rest => ⟨none, u.expr⟩ :: paramExprs rest

def methodExprs : List (String × Unfolding) → List MethodExpr
  | [] => []
  | (name, .func params results variadic _) :: rest =>
    ⟨name, ⟨[], paramExprs params, paramExprs results, variadic⟩⟩ :: methodExprs rest
  | _ :: rest => methodExprs rest

end

theorem paramExprs_eq (us : List Unfolding) : paramExprs us = us.map fun u => ⟨none, u.expr⟩ := by
  induction us with
  | nil => rw [paramExprs, List.map_nil]
  | cons u rest ih => rw [paramExprs, ih, List.map_cons]

namespace Unfolding

/-- What the word `chan` and a written type are read as. -/
def chanOf : Unfolding → Unfolding
  | .chan .recvOnly element => .chan .sendOnly element.chanOf
  | u => .chan .both u

end Unfolding

mutual

def Unfolding.reading : Unfolding → Unfolding
  | .slice element => .slice element.reading
  | .array length element => .array length element.reading
  | .map key value => .map key.reading value.reading
  | .pointer element => .pointer element.reading
  | .func params results variadic typeParams =>
    .func (readings params) (readings results) variadic typeParams
  | .chan .both element => element.reading.chanOf
  | .chan direction element => .chan direction element.reading
  | .interface methods => .interface (methodReadings methods)
  | u => u

def readings : List Unfolding → List Unfolding
  | [] => []
  | u :: rest => u.reading :: readings rest

def methodReadings : List (String × Unfolding) → List (String × Unfolding)
  | [] => []
  | (name, u) :: rest => (name, u.reading) :: methodReadings rest

end

theorem readings_eq (us : List Unfolding) : readings us = us.map Unfolding.reading := by
  induction us with
  | nil => rw [readings, List.map_nil]
  | cons u rest ih => rw [readings, ih, List.map_cons]

theorem methodReadings_eq (methods : List (String × Unfolding)) :
    methodReadings methods = methods.map fun m => (m.1, m.2.reading) := by
  induction methods with
  | nil => rw [methodReadings, List.map_nil]
  | cons m rest ih =>
    obtain ⟨name, u⟩ := m
    rw [methodReadings, ih, List.map_cons]

namespace Unfolding

theorem expr_named (name : String) : (named name).expr = .name name [] := by
  simp [expr, text]

theorem reading_named (name : String) : (named name).reading = .named name := by
  simp [reading]

theorem reading_chan {direction : ChanDir} (h : direction ≠ .both) (element : Unfolding) :
    (chan direction element).reading = .chan direction element.reading := by
  cases direction with
  | both => exact absurd rfl h
  | sendOnly | recvOnly => simp [reading]

/-! ### Conditions -/

/-- What can be written down and read, as to the root: no struct, no type parameter, and names as
the condition says. -/
def Legible (named : String → Prop) : Unfolding → Prop
  | .int width _ => width ∈ [8, 16, 32, 64]
  | .complex bits => bits ∈ [64, 128]
  | .array length _ => length < Token.lengthBound
  | .func params results variadic typeParams =>
    PlainFunc (.func params results variadic typeParams)
  | .interface methods => methods ≠ [] ∧ (methods.map (·.1)).Nodup ∧
    methods.Pairwise (fun a b => a.1 ≤ b.1) ∧ ∀ m ∈ methods, Token.IsIdent m.1 ∧ m.2.PlainFunc
  | .struct _ => False
  | .typeParam _ => False
  | .named name => named name
  | _ => True

/-- The arrow of the element does not follow the word `chan`. -/
def Clear : Unfolding → Prop
  | .chan .both (.chan .recvOnly _) => False
  | _ => True

/-- The node that is made for a tree which is written as a predeclared name. -/
def predeclared? : Unfolding → Option TypeKind
  | .bool => some .bool
  | .int width signedness => some (.int width signedness)
  | .float precision => some (.float precision)
  | .complex bits => some (.complex bits)
  | .unsafePointer => some .unsafePointer
  | .string => some .string
  | .any => some (.interface [])
  | .error => some .error
  | _ => none

section Predeclared

variable {u : Unfolding} {kind : TypeKind} {named : String → Prop}

theorem unfoldWith_of_predeclared? (h : u.predeclared? = some kind)
    (f : TypeId → Option Unfolding) : kind.unfoldWith f = some u := by
  unfold predeclared? at h
  split at h <;> cases h <;> rfl

theorem expr_of_predeclared? (h : u.predeclared? = some kind) : u.expr = .name u.text [] := by
  unfold predeclared? at h
  split at h <;> cases h <;> simp [expr]

theorem reading_of_predeclared? (h : u.predeclared? = some kind) : u.reading = u := by
  unfold predeclared? at h
  split at h <;> cases h <;> simp [reading]

theorem isTypeName_text (h : u.predeclared? = some kind) (hu : u.Legible named) :
    IsTypeName u.text := by
  have hwidth : ∀ width ∈ [8, 16, 32, 64], ∀ signedness : Signedness,
      IsTypeName (signedness.typeName width) := by
    intro width hmem signedness
    cases signedness <;> revert width <;> decide
  have hbits : ∀ bits ∈ [64, 128], IsTypeName ("complex" ++ toString bits) := by decide
  cases u with
  | int width signedness =>
    rw [text]
    exact hwidth width hu signedness
  | complex bits =>
    rw [text]
    exact hbits bits hu
  | float precision =>
    rw [text]
    cases precision <;> decide
  | bool | unsafePointer | string | any | error =>
    rw [text]
    decide
  | _ => cases h

end Predeclared

/-! ### Tokens -/

/-- A tree in writing has the tokens of its reading. -/
def Written (u : Unfolding) : Prop := Prints u.text.toList u.reading.expr.tokens

/-- The arrow of an element goes to the channel before it. -/
theorem tokens_chanOf (u : Unfolding) : u.chanOf.expr.tokens = .ident "chan" :: u.expr.tokens := by
  induction u using chanOf.induct with
  | case1 element ih => rw [chanOf, expr, expr, TypeExpr.tokens, TypeExpr.tokens, ih]
  | case2 u hother => rw [chanOf.eq_2 u hother, expr, TypeExpr.tokens]

end Unfolding

open Unfolding (Written)

theorem separated_eq_intercalate (separator : List Char) (items : List (List Char)) :
    separated separator items = separator.intercalate items := by
  induction items with
  | nil => rfl
  | cons item rest ih =>
    cases rest with
    | nil => simp [separated]
    | cons next rest => rw [separated, ih, List.intercalate_cons_cons]

section Signature

variable {params results : List Unfolding} {variadic : Bool}

theorem paramTokens_unnamed {v : Bool} {type : TypeExpr} {rest : List ParamExpr}
    (h : v = true → rest = [] → ∀ element, type ≠ .slice element) :
    paramTokens v (⟨none, type⟩ :: rest) = type.tokens :: paramTokens v rest :=
  (paramItems_cons h).2

theorem prints_inputTexts (h : ∀ p ∈ params, p.Throughout Written)
    (hend : variadic = true → ∃ element, params.getLast? = some (.slice element)) :
    List.Forall₂ Prints ((inputTexts variadic params).map String.toList)
      (paramTokens variadic (paramExprs (readings params))) := by
  induction params with
  | nil => simp [inputTexts, readings, paramExprs, paramTokens]
  | cons p rest ih =>
    obtain ⟨hp, hrest⟩ := List.forall_mem_cons.1 h
    rw [readings, paramExprs]
    cases rest with
    | nil =>
      rw [inputTexts_singleton, readings, paramExprs]
      cases variadic with
      | false =>
        rw [paramTokens_unnamed fun h => absurd h Bool.false_ne_true, paramTokens]
        exact .cons hp.root .nil
      | true =>
        obtain ⟨element, hlast⟩ := hend rfl
        obtain rfl : p = .slice element := Option.some.inj hlast
        have helement := (hp.part (List.mem_singleton_self element)).root.ellipsis
        rw [Unfolding.reading, Unfolding.expr, paramTokens, Unfolding.elementText]
        exact .cons (by simpa [nameTokens] using helement) .nil
    | cons q rest =>
      rw [inputTexts_cons, paramTokens_unnamed (by simp [readings, paramExprs])]
      exact .cons hp.root (ih hrest hend)

theorem prints_treeTexts (h : ∀ r ∈ results, r.Throughout Written) :
    List.Forall₂ Prints ((treeTexts results).map String.toList)
      (paramTokens false (paramExprs (readings results))) := by
  rw [← inputTexts_false]
  exact prints_inputTexts h nofun

theorem prints_resultsText (h : ∀ r ∈ results, r.Throughout Written) :
    Prints (resultsText (treeTexts results)).toList
      (resultTokens (paramExprs (readings results))
        (paramTokens false (paramExprs (readings results)))) := by
  have hitems := prints_treeTexts h
  match results with
  | [] => exact .nil
  | [r] =>
    have hr := (h r (List.mem_singleton_self r)).root.blank
    simpa [treeTexts, resultsText, readings, paramExprs, resultTokens, paramTokens_unnamed,
      paramTokens, joined_singleton] using hr
  | r :: r' :: rest =>
    have hlist := (prints_list (o := '(') (c := ')') rfl rfl hitems .nil).blank
    rw [separated_eq_intercalate] at hlist
    simpa [treeTexts, resultsText, readings, paramExprs, resultTokens, String.toList_intercalate]
      using hlist

theorem toList_signatureText (inputs outputs : List String) :
    (signatureText [] inputs outputs).toList =
      '(' :: (separated [',', ' '] (inputs.map String.toList) ++ ')' ::
        (resultsText outputs).toList) := by
  simp [signatureText, separated_eq_intercalate, String.toList_intercalate]

theorem prints_signatureText (hparams : ∀ p ∈ params, p.Throughout Written)
    (hresults : ∀ r ∈ results, r.Throughout Written)
    (hend : variadic = true → ∃ element, params.getLast? = some (.slice element)) :
    Prints (signatureText [] (inputTexts variadic params) (treeTexts results)).toList
      (FuncExpr.tokens
        ⟨[], paramExprs (readings params), paramExprs (readings results), variadic⟩) := by
  rw [toList_signatureText, FuncExpr.tokens, List.append_assoc]
  exact prints_list rfl rfl (prints_inputTexts hparams hend) (prints_resultsText hresults)

end Signature

theorem prints_methodTexts {methods : List (String × Unfolding)}
    (hplain : ∀ m ∈ methods, Token.IsIdent m.1 ∧ m.2.PlainFunc)
    (hparts : ∀ m ∈ methods, ∀ v ∈ m.2.operands, v.Throughout Written) :
    List.Forall₂ Prints ((methodTexts methods).map String.toList)
      (methodTokens (methodExprs (methodReadings methods))) := by
  induction methods with
  | nil => simp [methodTexts, methodReadings, methodExprs, methodTokens]
  | cons m rest ih =>
    obtain ⟨hm, hrest⟩ := List.forall_mem_cons.1 hplain
    obtain ⟨hown, hother⟩ := List.forall_mem_cons.1 hparts
    obtain ⟨name, u⟩ := m
    obtain ⟨hname, hu⟩ := hm
    cases u with
    | func params results variadic typeParams =>
      obtain ⟨rfl, hend⟩ := hu
      have hsig := prints_signatureText (fun p hp => hown p (List.mem_append_left _ hp))
        (fun r hr => hown r (List.mem_append_right _ hr)) hend
      have hends : Token.EndsName
          (signatureText [] (inputTexts variadic params) (treeTexts results)).toList := by
        rw [toList_signatureText]
        exact .cons (by decide) _
      rw [methodTexts, methodReadings, Unfolding.reading, methodExprs, methodTokens,
        List.map_cons, String.toList_append]
      exact .cons (.named hname hends hsig) (ih hrest hother)
    | _ => exact hu.elim

theorem toList_interfaceText {methods : List String} (h : methods ≠ []) :
    (interfaceText methods).toList =
      "interface".toList ++ ' ' :: braced (methods.map String.toList) := by
  cases methods with
  | nil => exact absurd rfl h
  | cons m rest =>
    simp [interfaceText, braced, separated_eq_intercalate, String.toList_intercalate, openBrace,
      closeBrace]

namespace Unfolding

variable {named : String → Prop} {u : Unfolding}

theorem written (h : u.Throughout (Legible named)) (hnamed : ∀ n, named n → IsTypeName n) :
    u.Throughout Written := by
  induction h with
  | @mk u hu _ ih =>
    refine .mk ?_ ih
    have hmap : Token.IsIdent "map" := by decide
    have hfunc : Token.IsIdent "func" := by decide
    have hchan : Token.IsIdent "chan" := by decide
    have hinterface : Token.IsIdent "interface" := by decide
    cases u with
    | slice element =>
      have helement := (ih element (List.mem_singleton_self element)).root
      rw [Written, text, reading, expr, TypeExpr.tokens, String.toList_append]
      exact .punctuation rfl (.punctuation rfl helement)
    | array length element =>
      have helement := (ih element (List.mem_singleton_self element)).root
      simp only [Written, text, reading, expr, TypeExpr.tokens, String.toList_append,
        List.append_assoc]
      exact .punctuation rfl ((Prints.int hu).closed (c := ']') rfl helement)
    | map key value =>
      have hkey := (ih key List.mem_cons_self).root
      have hvalue := (ih value (List.mem_cons_of_mem _ List.mem_cons_self)).root
      simp only [Written, text, reading, expr, TypeExpr.tokens, String.toList_append,
        List.append_assoc]
      exact .named hmap (.cons (by decide) _) (.punctuation rfl (hkey.closed (c := ']') rfl hvalue))
    | pointer element =>
      have helement := (ih element (List.mem_singleton_self element)).root
      rw [Written, text, reading, expr, TypeExpr.tokens, String.toList_append]
      exact .punctuation rfl helement
    | chan direction element =>
      have helement := (ih element (List.mem_singleton_self element)).root
      rw [Written, text, String.toList_append]
      cases direction with
      | both =>
        -- The reading has the arrow elsewhere, but the tokens are in the same order.
        rw [reading, tokens_chanOf]
        exact .spaced hchan helement
      | sendOnly =>
        rw [reading_chan (by decide), expr, TypeExpr.tokens]
        exact .named hchan (.cons (by decide) _) helement.blank.arrow
      | recvOnly =>
        rw [reading_chan (by decide), expr, TypeExpr.tokens]
        exact (Prints.spaced hchan helement).arrow
    | func params results variadic typeParams =>
      obtain ⟨rfl, hend⟩ := hu
      rw [Written, text, reading, expr, TypeExpr.tokens, String.toList_append]
      refine .named hfunc ?_ (prints_signatureText (fun p hp => ih p (List.mem_append_left _ hp))
        (fun r hr => ih r (List.mem_append_right _ hr)) hend)
      rw [toList_signatureText]
      exact .cons (by decide) _
    | interface methods =>
      obtain ⟨hne, _, _, hplain⟩ := hu
      have hitems := prints_braced (prints_methodTexts hplain fun m hm v hv =>
        ih v (List.mem_flatMap.2 ⟨m, hm, hv⟩))
      have hne : methodTexts methods ≠ [] := by
        rw [methodTexts_eq]
        exact fun h => hne (List.map_eq_nil_iff.1 h)
      rw [Written, text, reading, expr, TypeExpr.tokens, toList_interfaceText hne]
      exact .spaced hinterface hitems
    | struct fields => exact hu.elim
    | typeParam name => exact hu.elim
    | named name =>
      rw [Written, text, reading_named, expr_named, TypeExpr.tokens]
      exact .ident (hnamed name hu).1
    | _ =>
      rw [Written, reading_of_predeclared? rfl, expr_of_predeclared? rfl, TypeExpr.tokens]
      exact .ident (isTypeName_text rfl hu).1

theorem scan_text (h : u.Throughout (Legible named)) (hnamed : ∀ n, named n → IsTypeName n) :
    Token.scan u.text = .ok u.reading.expr.tokens := by
  have hscan := (written h hnamed).root.scan_ofList
  rwa [String.ofList_toList] at hscan

/-! ### Readings -/

theorem clear_chan (h : ∀ element, u ≠ .chan .recvOnly element) : Clear (.chan .both u) := by
  unfold Clear
  split
  · rename_i heq
    cases heq
    exact h _ rfl
  · trivial

theorem throughout_chanOf (h : u.Throughout fun v => v.Legible named ∧ v.Clear) :
    u.chanOf.Throughout fun v => v.Legible named ∧ v.Clear := by
  induction u using chanOf.induct with
  | case1 element ih =>
    have helement := ih (h.part (List.mem_singleton_self element))
    rw [chanOf]
    exact .mk ⟨trivial, trivial⟩ (List.forall_mem_singleton.2 helement)
  | case2 u hother =>
    rw [chanOf.eq_2 u hother]
    exact .mk ⟨trivial, clear_chan hother⟩ (List.forall_mem_singleton.2 h)

theorem plainFunc_reading (h : u.PlainFunc) :
    u.reading.PlainFunc ∧ u.reading.operands = u.operands.map reading := by
  cases u with
  | func params results variadic typeParams =>
    obtain ⟨rfl, hend⟩ := h
    rw [reading, readings_eq, readings_eq]
    refine ⟨⟨rfl, fun hvariadic => ?_⟩, List.map_append.symm⟩
    obtain ⟨element, hlast⟩ := hend hvariadic
    refine ⟨element.reading, ?_⟩
    rw [List.getLast?_map, hlast, Option.map_some, reading]
  | _ => exact h.elim

theorem throughout_reading (h : u.Throughout (Legible named)) :
    u.reading.Throughout fun v => v.Legible named ∧ v.Clear := by
  induction h with
  | @mk u hu _ ih =>
    cases u with
    | slice element | pointer element =>
      rw [reading]
      exact .mk ⟨trivial, trivial⟩ (List.forall_mem_singleton.2 (ih _ (List.mem_singleton_self _)))
    | array length element =>
      rw [reading]
      exact .mk ⟨hu, trivial⟩ (List.forall_mem_singleton.2 (ih _ (List.mem_singleton_self _)))
    | map key value =>
      rw [reading]
      refine .mk ⟨trivial, trivial⟩ (List.forall_mem_cons.2 ⟨ih _ List.mem_cons_self, ?_⟩)
      exact List.forall_mem_singleton.2 (ih _ (List.mem_cons_of_mem _ List.mem_cons_self))
    | chan direction element =>
      have helement := ih element (List.mem_singleton_self element)
      cases direction with
      | both =>
        rw [reading]
        exact throughout_chanOf helement
      | sendOnly | recvOnly =>
        rw [reading_chan (by decide)]
        exact .mk ⟨trivial, trivial⟩ (List.forall_mem_singleton.2 helement)
    | func params results variadic typeParams =>
      have hu : PlainFunc (.func params results variadic typeParams) := hu
      obtain ⟨hplain, hoperands⟩ := plainFunc_reading hu
      rw [reading] at hplain hoperands ⊢
      refine .mk ⟨hplain, trivial⟩ fun v hv => ?_
      have hv : v ∈ (params ++ results).map reading := hoperands ▸ hv
      obtain ⟨w, hw, rfl⟩ := List.mem_map.1 hv
      exact ih w hw
    | interface methods =>
      obtain ⟨hne, hnodup, hsorted, hplain⟩ := hu
      have hnames : (methods.map fun m => (m.1, m.2.reading)).map (·.1) = methods.map (·.1) := by
        rw [List.map_map]
        rfl
      rw [reading, methodReadings_eq]
      refine .mk ⟨⟨fun h => hne (List.map_eq_nil_iff.1 h), hnames ▸ hnodup, ?_, ?_⟩, trivial⟩
        fun v hv => ?_
      · exact List.pairwise_map.2 hsorted
      · refine List.forall_mem_map.2 fun m hm => ⟨(hplain m hm).1, ?_⟩
        exact (plainFunc_reading (hplain m hm).2).1
      · obtain ⟨m', hm', hv⟩ := List.mem_flatMap.1 hv
        obtain ⟨m, hm, rfl⟩ := List.mem_map.1 hm'
        rw [(plainFunc_reading (hplain m hm).2).2] at hv
        obtain ⟨w, hw, rfl⟩ := List.mem_map.1 hv
        exact ih w (List.mem_flatMap.2 ⟨m, hm, hw⟩)
    | struct fields => exact hu.elim
    | typeParam name => exact hu.elim
    | named name =>
      rw [reading_named]
      exact .mk ⟨hu, trivial⟩ (List.forall_mem_nil _)
    | _ =>
      rw [reading_of_predeclared? rfl]
      exact .mk ⟨hu, trivial⟩ (List.forall_mem_nil _)

theorem map_reading_eq {us : List Unfolding} (h : ∀ v ∈ us, v.reading = v) : readings us = us := by
  rw [readings_eq]
  exact (List.map_congr_left h).trans (List.map_id us)

theorem reading_eq_self (h : u.Throughout fun v => v.Legible named ∧ v.Clear) :
    u.reading = u := by
  induction h with
  | @mk u hu _ ih =>
    obtain ⟨hu, hclear⟩ := hu
    have hfunc : ∀ {params results : List Unfolding} {variadic : Bool} {typeParams : List String},
        (∀ v ∈ params ++ results, v.reading = v) → (Unfolding.func params results variadic
          typeParams).reading = .func params results variadic typeParams := by
      intro params results variadic typeParams h
      rw [reading, map_reading_eq fun p hp => h p (List.mem_append_left _ hp),
        map_reading_eq fun r hr => h r (List.mem_append_right _ hr)]
    cases u with
    | slice element | pointer element | array length element =>
      rw [reading, ih element (List.mem_singleton_self element)]
    | map key value =>
      rw [reading, ih key List.mem_cons_self,
        ih value (List.mem_cons_of_mem _ List.mem_cons_self)]
    | chan direction element =>
      have helement := ih element (List.mem_singleton_self element)
      cases direction with
      | both =>
        rw [reading, helement, chanOf.eq_2]
        rintro inner rfl
        exact hclear
      | sendOnly | recvOnly => rw [reading_chan (by decide), helement]
    | func params results variadic typeParams => exact hfunc ih
    | interface methods =>
      obtain ⟨_, _, _, hplain⟩ := hu
      rw [reading, methodReadings_eq]
      refine congrArg Unfolding.interface
        ((List.map_congr_left fun m hm => ?_).trans (List.map_id methods))
      obtain ⟨name, v⟩ := m
      obtain ⟨_, hv⟩ := hplain _ hm
      cases v with
      | func params results variadic typeParams =>
        exact congrArg (name, ·) (hfunc fun w hw => ih w (List.mem_flatMap.2 ⟨_, hm, hw⟩))
      | _ => exact hv.elim
    | struct fields => exact hu.elim
    | typeParam name => exact hu.elim
    | named name => exact reading_named name
    | _ => exact reading_of_predeclared? rfl

/-- The text of a tree reads back if no arrow follows the word `chan` for another channel. -/
theorem reading_eq_iff (h : u.Throughout (Legible named)) :
    u.reading = u ↔ u.Throughout Clear := by
  constructor
  · intro heq
    have hreading := throughout_reading h
    rw [heq] at hreading
    exact hreading.mono fun _ hv => hv.2
  · exact fun hclear => reading_eq_self (h.and hclear)

/-! ### Reading -/

theorem exists_of_expr_eq_chan {direction : ChanDir} {inner : TypeExpr}
    (h : u.expr = .chan direction inner) : ∃ element, u = .chan direction element := by
  unfold expr at h
  split at h <;> cases h
  exact ⟨_, rfl⟩

theorem wellFormed_param {us : List Unfolding} (h : ∀ v ∈ us, v.expr.WellFormed) :
    ∀ p ∈ paramExprs us, p.WellFormed := by
  rw [paramExprs_eq]
  exact List.forall_mem_map.2 fun v hv => .mk nofun (h v hv)

theorem uniformNames_paramExprs (us : List Unfolding) : UniformNames (paramExprs us) := by
  rw [paramExprs_eq]
  exact .inr (List.forall_mem_map.2 fun _ _ => rfl)

theorem wellFormed_signature {params results : List Unfolding} {variadic : Bool}
    (h : ∀ v ∈ params ++ results, v.expr.WellFormed)
    (hend : variadic = true → ∃ element, params.getLast? = some (.slice element)) :
    FuncExpr.WellFormed ⟨[], paramExprs params, paramExprs results, variadic⟩ := by
  refine .mk nofun (wellFormed_param fun v hv => h v (List.mem_append_left _ hv))
    (uniformNames_paramExprs params) (wellFormed_param fun v hv => h v (List.mem_append_right _ hv))
    (uniformNames_paramExprs results) fun hvariadic => ?_
  obtain ⟨element, hlast⟩ := hend hvariadic
  refine ⟨none, element.expr, ?_⟩
  rw [paramExprs_eq, List.getLast?_map, hlast, Option.map_some, expr]

theorem methodExprs_eq {methods : List (String × Unfolding)} (h : ∀ m ∈ methods, m.2.PlainFunc) :
    (methodExprs methods).map (·.name) = methods.map (·.1) := by
  induction methods with
  | nil => rfl
  | cons m rest ih =>
    obtain ⟨hm, hrest⟩ := List.forall_mem_cons.1 h
    obtain ⟨name, u⟩ := m
    cases u with
    | func params results variadic typeParams =>
      rw [methodExprs, List.map_cons, List.map_cons, ih hrest]
    | _ => exact hm.elim

theorem wellFormed_methods {methods : List (String × Unfolding)}
    (hplain : ∀ m ∈ methods, m.2.PlainFunc)
    (h : ∀ m ∈ methods, ∀ v ∈ m.2.operands, v.expr.WellFormed) :
    ∀ m ∈ methodExprs methods, m.func.typeParams = [] ∧ m.func.WellFormed := by
  induction methods with
  | nil => exact List.forall_mem_nil _
  | cons m rest ih =>
    obtain ⟨hm, hrest⟩ := List.forall_mem_cons.1 hplain
    obtain ⟨hown, hother⟩ := List.forall_mem_cons.1 h
    obtain ⟨name, u⟩ := m
    cases u with
    | func params results variadic typeParams =>
      rw [methodExprs]
      exact List.forall_mem_cons.2 ⟨⟨rfl, wellFormed_signature hown hm.2⟩, ih hrest hother⟩
    | _ => exact hm.elim

theorem wellFormed_expr (h : u.Throughout fun v => v.Legible named ∧ v.Clear)
    (hnamed : ∀ n, named n → IsTypeName n) : u.expr.WellFormed := by
  induction h with
  | @mk u hu _ ih =>
    obtain ⟨hu, hclear⟩ := hu
    cases u with
    | slice element =>
      rw [expr]
      exact .slice (ih element (List.mem_singleton_self element))
    | array length element =>
      rw [expr]
      exact .array hu (ih element (List.mem_singleton_self element))
    | map key value =>
      rw [expr]
      exact .map (ih key List.mem_cons_self)
        (ih value (List.mem_cons_of_mem _ List.mem_cons_self))
    | pointer element =>
      rw [expr]
      exact .pointer (ih element (List.mem_singleton_self element))
    | chan direction element =>
      rw [expr]
      refine .chan ?_ (ih element (List.mem_singleton_self element))
      rintro rfl inner heq
      obtain ⟨_, rfl⟩ := exists_of_expr_eq_chan heq
      exact hclear
    | func params results variadic typeParams =>
      rw [expr]
      exact .func (wellFormed_signature ih hu.2)
    | interface methods =>
      obtain ⟨_, hnodup, _, hplain⟩ := hu
      have hfuncs := fun m hm => (hplain m hm).2
      have hnames := methodExprs_eq hfuncs
      have hwf := wellFormed_methods hfuncs fun m hm v hv =>
        ih v (List.mem_flatMap.2 ⟨m, hm, hv⟩)
      rw [expr]
      refine .interface (hnames ▸ hnodup) (fun m hm => ?_) (fun m hm => (hwf m hm).1)
        fun m hm => (hwf m hm).2
      have hmem : m.name ∈ methods.map (·.1) := hnames ▸ List.mem_map_of_mem hm
      obtain ⟨m', hm', heq⟩ := List.mem_map.1 hmem
      exact heq ▸ (hplain m' hm').1
    | struct fields => exact hu.elim
    | typeParam name => exact hu.elim
    | named name =>
      rw [expr_named]
      exact .name (hnamed name hu) (List.forall_mem_nil _)
    | _ =>
      rw [expr_of_predeclared? rfl]
      exact .name (isTypeName_text rfl hu) (List.forall_mem_nil _)

/-- Every tree that can be written down is read as one. -/
theorem read_text (h : u.Throughout (Legible named)) (hnamed : ∀ n, named n → IsTypeName n) :
    TypeExpr.read u.text = .ok u.reading.expr :=
  TypeExpr.read_of_scan (wellFormed_expr (throughout_reading h) hnamed) (scan_text h hnamed)

end Unfolding
end ScriptBind
