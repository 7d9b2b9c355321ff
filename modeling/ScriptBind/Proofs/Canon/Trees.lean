import ScriptBind.Proofs.Canon.Written

/-!
# ScriptBind.Proofs.Canon.Trees

Trees in writing. How a canonical type is written depends on its tree only, not on the table that
it stands in.

* `Unfolding.text` - a tree in writing.
* `Session.Interned.typeString_eq_text` - a canonical type in writing is its tree in writing.
-/

namespace ScriptBind

def resultsText : List String → String
  | [] => ""
  | [r] => " " ++ r
  | rs => " (" ++ ", ".intercalate rs ++ ")"

/-- What follows the word `func`. -/
def signatureText (typeParams params results : List String) : String :=
  (if typeParams.isEmpty then "" else "[" ++ ", ".intercalate typeParams ++ "]") ++
    "(" ++ ", ".intercalate params ++ ")" ++ resultsText results

def interfaceText (methods : List String) : String :=
  "interface \x7b " ++ "; ".intercalate methods ++ " \x7d"

mutual

def Unfolding.text : Unfolding → String
  | .bool => "bool"
  | .int width signedness => signedness.typeName width
  | .float precision => precision.typeName
  | .complex bits => "complex" ++ toString bits
  | .unsafePointer => "unsafe.Pointer"
  | .string => "string"
  | .slice element => "[]" ++ element.text
  | .array length element => "[" ++ toString length ++ "]" ++ element.text
  | .map key value => "map[" ++ key.text ++ "]" ++ value.text
  | .pointer element => "*" ++ element.text
  | .func params results variadic typeParams =>
    "func" ++ signatureText typeParams (inputTexts variadic params) (treeTexts results)
  | .chan direction element => direction.keyword ++ element.text
  | .interface methods => interfaceText (methodTexts methods)
  | .any => "any"
  | .error => "error"
  | .struct fields => structAlias (String.join (fieldTexts fields))
  | .named name => name
  | .typeParam name => name

def treeTexts : List Unfolding → List String
  | [] => []
  | u :: rest => u.text :: treeTexts rest

/-- Of a last parameter that collects arguments the element is written, if it is a slice. -/
def inputTexts (variadic : Bool) : List Unfolding → List String
  | [] => []
  | [.slice element] =>
    if variadic then ["..." ++ element.text] else ["[]" ++ element.text]
  | [u] => if variadic then ["..." ++ u.text] else [u.text]
  | u :: rest => u.text :: inputTexts variadic rest

def methodTexts : List (String × Unfolding) → List String
  | [] => []
  | (name, .func params results variadic typeParams) :: rest =>
    (name ++ signatureText typeParams (inputTexts variadic params) (treeTexts results)) ::
      methodTexts rest
  | (name, _) :: rest => name :: methodTexts rest

def fieldTexts : List (String × Unfolding) → List String
  | [] => []
  | (name, u) :: rest => (name ++ " " ++ u.text ++ ";") :: fieldTexts rest

end

namespace Unfolding

/-- A function in writing, from its parameters on. -/
def sigText : Unfolding → String
  | .func params results variadic typeParams =>
    signatureText typeParams (inputTexts variadic params) (treeTexts results)
  | _ => ""

/-- The element of a slice in writing, and any other type in writing itself. -/
def elementText : Unfolding → String
  | .slice element => element.text
  | u => u.text

end Unfolding

theorem treeTexts_eq (us : List Unfolding) : treeTexts us = us.map Unfolding.text := by
  induction us with
  | nil => rw [treeTexts, List.map_nil]
  | cons u rest ih => rw [treeTexts, ih, List.map_cons]

theorem fieldTexts_eq (fields : List (String × Unfolding)) :
    fieldTexts fields = fields.map fun f => f.1 ++ " " ++ f.2.text ++ ";" := by
  induction fields with
  | nil => rw [fieldTexts, List.map_nil]
  | cons f rest ih => rw [fieldTexts, ih, List.map_cons]

theorem methodTexts_eq (methods : List (String × Unfolding)) :
    methodTexts methods = methods.map fun m => m.1 ++ m.2.sigText := by
  induction methods with
  | nil => rw [methodTexts, List.map_nil]
  | cons m rest ih =>
    obtain ⟨name, u⟩ := m
    rw [List.map_cons, ← ih]
    cases u <;> simp [methodTexts, Unfolding.sigText]

theorem inputTexts_singleton (variadic : Bool) (u : Unfolding) :
    inputTexts variadic [u] = [if variadic then "..." ++ u.elementText else u.text] := by
  cases variadic <;> cases u <;> simp [inputTexts, Unfolding.elementText, Unfolding.text]

theorem inputTexts_cons (variadic : Bool) (u v : Unfolding) (rest : List Unfolding) :
    inputTexts variadic (u :: v :: rest) = u.text :: inputTexts variadic (v :: rest) := by
  rw [inputTexts] <;> simp

theorem inputTexts_false (us : List Unfolding) : inputTexts false us = treeTexts us := by
  induction us with
  | nil => rw [inputTexts, treeTexts]
  | cons u rest ih =>
    cases rest with
    | nil => simp [inputTexts_singleton, treeTexts_eq]
    | cons v rest => rw [inputTexts_cons, ih, ← treeTexts]

namespace Session

variable {text elementText : CanonId → String} {unfold : CanonId → Unfolding}

theorem paramStrings_eq_inputTexts (variadic : Bool) {params : List CanonId}
    (htext : ∀ r ∈ params, text r = (unfold r).text)
    (helement : ∀ r ∈ params, elementText r = (unfold r).elementText) :
    paramStrings text elementText variadic params = inputTexts variadic (params.map unfold) := by
  induction params with
  | nil => rw [paramStrings, List.map_nil, inputTexts]
  | cons p rest ih =>
    obtain ⟨hp, hrest⟩ := List.forall_mem_cons.1 htext
    obtain ⟨hpe, hreste⟩ := List.forall_mem_cons.1 helement
    cases rest with
    | nil => rw [paramStrings, hp, hpe, List.map_singleton, inputTexts_singleton]; split <;> rfl
    | cons q rest =>
      show text p :: paramStrings text elementText variadic (q :: rest) = _
      rw [ih hrest hreste, hp]
      exact (inputTexts_cons variadic (unfold p) (unfold q) _).symm

theorem resultString_eq {results : List CanonId} (htext : ∀ r ∈ results, text r = (unfold r).text) :
    resultString text results = resultsText (treeTexts (results.map unfold)) := by
  have hmap : results.map text = treeTexts (results.map unfold) := by
    rw [treeTexts_eq, List.map_map]
    exact List.map_congr_left htext
  rw [← hmap]
  match results with
  | [] => rfl
  | [r] => rfl
  | r :: r' :: rest => rfl

theorem funcStringWith_eq_sigText {f : CanonFunc} (htext : ∀ r ∈ f.refs, text r = (unfold r).text)
    (helement : ∀ r ∈ f.refs, elementText r = (unfold r).elementText) :
    funcStringWith text elementText f = (f.unfoldWith unfold).sigText := by
  rw [funcStringWith, CanonFunc.unfoldWith, Unfolding.sigText, signatureText,
    paramStrings_eq_inputTexts f.variadic (fun r hr => htext r (List.mem_append_left _ hr))
      fun r hr => helement r (List.mem_append_left _ hr),
    resultString_eq fun r hr => htext r (List.mem_append_right _ hr)]

variable {s : Session}

namespace Interned

variable (h : s.Interned)

include h

theorem elementText_eq {id : CanonId} {kind : CanonKind} (hid : s.kind? id = some kind)
    (htext : ∀ r ≤ id, r < s.size → s.typeString r = (s.unfold r).text) :
    s.typeString (s.element id) = (s.unfold id).elementText := by
  have hlt := lt_size_of_kind? hid
  rw [element, hid]
  cases kind with
  | slice element =>
    have hbelow := h.below id _ hid element (by simp [CanonKind.refs])
    rw [h.unfold_eq hid]
    exact htext element (Nat.le_of_lt hbelow) (Nat.lt_trans hbelow hlt)
  | _ =>
    refine (htext id (Nat.le_refl id) hlt).trans ?_
    rw [h.unfold_eq hid]
    rfl

theorem typeString_eq_text {id : CanonId} (hid : id < s.size) :
    s.typeString id = (s.unfold id).text := by
  induction id using Nat.strongRecOn with
  | _ id ih =>
    obtain ⟨kind, hkind⟩ := exists_kind? hid
    have hbelow := h.below id kind hkind
    have hparts : ∀ r ∈ kind.refs, s.typeString r = (s.unfold r).text := fun r hr =>
      ih r (hbelow r hr) (Nat.lt_trans (hbelow r hr) hid)
    have helements : ∀ r ∈ kind.refs, s.typeString (s.element r) = (s.unfold r).elementText := by
      intro r hr
      obtain ⟨kind', hkind'⟩ := exists_kind? (Nat.lt_trans (hbelow r hr) hid)
      exact h.elementText_eq hkind' fun r' hle => ih r' (Nat.lt_of_le_of_lt hle (hbelow r hr))
    rw [h.typeString_eq_written hkind, h.unfold_eq hkind]
    cases kind with
    | slice element | array length element | pointer element | chan direction element =>
      simp only [CanonKind.written, CanonKind.unfoldWith, Unfolding.text,
        hparts element (by simp [CanonKind.refs])]
    | map key value =>
      simp only [CanonKind.written, CanonKind.unfoldWith, Unfolding.text,
        hparts key (by simp [CanonKind.refs]), hparts value (by simp [CanonKind.refs])]
    | func f =>
      rw [CanonKind.written, funcStringWith_eq_sigText hparts helements, CanonKind.unfoldWith,
        CanonFunc.unfoldWith, Unfolding.sigText, Unfolding.text]
    | interface methods =>
      rw [CanonKind.written, CanonKind.unfoldWith, Unfolding.text, interfaceText, methodTexts_eq,
        List.map_map]
      refine congrArg (fun texts => "interface \x7b " ++ "; ".intercalate texts ++ " \x7d")
        (List.map_congr_left fun m hm => congrArg (m.name ++ ·) ?_)
      exact funcStringWith_eq_sigText (fun r hr => hparts r (List.mem_flatMap.2 ⟨m, hm, hr⟩))
        fun r hr => helements r (List.mem_flatMap.2 ⟨m, hm, hr⟩)
    | struct aliasName fields =>
      rw [CanonKind.written, h.aliased id aliasName fields hkind, CanonKind.unfoldWith,
        Unfolding.text, fieldTexts_eq, List.map_map]
      refine congrArg (fun texts => structAlias (String.join texts))
        (List.map_congr_left fun f hf => ?_)
      show f.1 ++ " " ++ s.typeString f.2 ++ ";" = f.1 ++ " " ++ (s.unfold f.2).text ++ ";"
      rw [hparts f.2 (List.mem_map_of_mem hf)]
    | _ => simp only [CanonKind.written, CanonKind.unfoldWith, Unfolding.text]

end Interned
end Session
end ScriptBind
