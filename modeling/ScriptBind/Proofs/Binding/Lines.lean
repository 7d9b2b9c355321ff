import ScriptBind.Binding.Module
import ScriptBind.Proofs.Binding.Lettering

/-!
# ScriptBind.Proofs.Binding.Lines

The generated module line by line. Names stand in its comments as they are, so a line is only what
it should be if they have no line breaks in them; in code they stand between quotes, where a line
break is escaped.

* `Text.unlines`, `Text.linesOf` - texts and their lines.
* `Bindings.moduleLines`, `Bindings.moduleText_eq_unlines` - what the module is made of.
* `Bindings.Over.moduleLines` - the characters in these lines.
* `Declaration.lines_of_generate` - the lines of the module that a declaration leads to.
-/

namespace ScriptBind

/-! ### Lines -/

namespace Text

/-- Each line and a line feed after it. -/
def unlines (lines : List String) : String := String.join (lines.map (· ++ "\n"))

/-- What stands between line feeds, before the first and after the last. -/
def linesOf (text : String) : List String := (text.toList.splitOn '\n').map String.ofList

theorem unlines_nil : unlines [] = "" := rfl

theorem unlines_cons (line : String) (rest : List String) :
    unlines (line :: rest) = line ++ "\n" ++ unlines rest := by
  rw [unlines, List.map_cons, String.join_cons]
  rfl

theorem unlines_append (lines rest : List String) :
    unlines (lines ++ rest) = unlines lines ++ unlines rest := by
  induction lines with
  | nil => simp [unlines]
  | cons line lines ih =>
    rw [List.cons_append, unlines_cons, unlines_cons, ih, ← String.append_assoc]

theorem unlines_flatMap {α : Type} (f : α → List String) (xs : List α) :
    unlines (xs.flatMap f) = String.join (xs.map fun x => unlines (f x)) := by
  induction xs with
  | nil => rfl
  | cons x rest ih => rw [List.flatMap_cons, unlines_append, ih, List.map_cons, String.join_cons]

theorem unlines_map {α : Type} (f : α → String) (xs : List α) :
    unlines (xs.map f) = String.join (xs.map fun x => f x ++ "\n") := by
  rw [unlines, List.map_map]
  rfl

theorem linesOf_unlines (lines : List String) :
    linesOf (unlines lines) = lines.flatMap linesOf ++ [""] := by
  induction lines with
  | nil => rfl
  | cons line rest ih =>
    have htext : (unlines (line :: rest)).toList = line.toList ++ '\n' :: (unlines rest).toList := by
      rw [unlines_cons, String.toList_append, String.toList_append, List.append_assoc]
      rfl
    rw [linesOf, htext, List.splitOn_append_cons_self, List.map_append, List.flatMap_cons,
      List.append_assoc, ← ih]
    rfl

theorem flatMap_linesOf {lines : List String} (h : ∀ line ∈ lines, '\n' ∉ line.toList) :
    lines.flatMap linesOf = lines := by
  induction lines with
  | nil => rfl
  | cons line rest ih =>
    obtain ⟨hline, hrest⟩ := List.forall_mem_cons.1 h
    have hone : linesOf line = [line] := by
      rw [linesOf, List.splitOn_eq_singleton hline, List.map_singleton, String.ofList_toList]
    rw [List.flatMap_cons, hone, ih hrest]
    rfl

end Text

open Text (IsShown linesOf unlines)

/-! ### The lines of a module -/

namespace Converter

/-- The comment in front of a converter. -/
def comment (c : Converter) : String :=
  match c.direction with
  | .toScript => "/// \x60" ++ c.typeName ++ "\x60 to script."
  | .fromScript => "/// Script to \x60" ++ c.typeName ++ "\x60."

def signature (c : Converter) : String :=
  match c.direction with
  | .toScript => "pub fn " ++ c.ident ++
    "(rt: &Runtime, v: &NativeValue) -> Result<Value, ConversionError> \x7b"
  | .fromScript => "pub fn " ++ c.ident ++
    "(rt: &Runtime, v: &Value) -> Result<NativeValue, ConversionError> \x7b"

def ending (c : Converter) : String :=
  if c.explains then ".map_err(|e| rt.type_names().explain(e))" else ""

/-- A line for each field. -/
def armLines (direction : Direction) (position : Nat) : List (String × Part) → List String
  | [] => []
  | [(_, part)] => ["        _ => " ++ partText direction part "f" ++ ","]
  | (_, part) :: rest =>
    ("        " ++ toString position ++ " => " ++ partText direction part "f" ++ ",") ::
      armLines direction (position + 1) rest

/-- One line, but for a struct with fields. -/
def bodyLines (c : Converter) : List String :=
  match c.body with
  | .record (f :: fields) =>
    ("    convert::record_" ++ c.direction.stem ++ "(v, " ++ Text.quoted c.typeName ++ ", &[" ++
      ", ".intercalate ((f :: fields).map fun f => Text.quoted f.1) ++ "], |i, f| match i \x7b") ::
      armLines c.direction 0 (f :: fields) ++ ["    \x7d)" ++ c.ending]
  | body => ["    " ++ bodyText c.direction c.typeName body ++ c.ending]

def lines (c : Converter) : List String :=
  c.comment :: c.signature :: c.bodyLines ++ ["\x7d"]

theorem fieldArms_eq_unlines (direction : Direction) (fields : List (String × Part)) :
    ∀ position, fieldArms direction position fields ++ "\n" =
      "\n" ++ unlines (armLines direction position fields) := by
  have hopening : "\n        " = "\n" ++ "        " := rfl
  have hlast : "\n        _ => " = "\n" ++ "        _ => " := rfl
  induction fields with
  | nil => exact fun _ => rfl
  | cons f rest ih =>
    intro position
    cases rest with
    | nil =>
      show "\n        _ => " ++ partText direction f.2 "f" ++ "," ++ "\n" =
        "\n" ++ unlines ["        _ => " ++ partText direction f.2 "f" ++ ","]
      simp only [hlast, Text.unlines_cons, Text.unlines_nil, String.append_empty,
        String.append_assoc]
    | cons next rest =>
      show "\n        " ++ toString position ++ " => " ++ partText direction f.2 "f" ++ "," ++
        fieldArms direction (position + 1) (next :: rest) ++ "\n" = "\n" ++ unlines
          (("        " ++ toString position ++ " => " ++ partText direction f.2 "f" ++ ",") ::
            armLines direction (position + 1) (next :: rest))
      rw [String.append_assoc, ih (position + 1)]
      simp only [hopening, Text.unlines_cons, String.append_assoc]

theorem fieldChoice_eq_unlines (direction : Direction) (f : String × Part)
    (fields : List (String × Part)) : fieldChoice direction (f :: fields) =
      "|i, f| match i \x7b" ++ ("\n" ++ unlines (armLines direction 0 (f :: fields))) ++
        "    \x7d" := by
  have hclosing : "\n    \x7d" = "\n" ++ "    \x7d" := rfl
  have hchoice : fieldChoice direction (f :: fields) =
      "|i, f| match i \x7b" ++ fieldArms direction 0 (f :: fields) ++ "\n    \x7d" := by
    cases direction <;> rfl
  rw [hchoice, ← fieldArms_eq_unlines]
  simp only [hclosing, String.append_assoc]

theorem bodyText_record (direction : Direction) (typeName : String) (f : String × Part)
    (fields : List (String × Part)) : bodyText direction typeName (.record (f :: fields)) =
      "convert::" ++ "record" ++ "_" ++ direction.stem ++ "(v, " ++ Text.quoted typeName ++ ", &[" ++
        ", ".intercalate ((f :: fields).map fun f => Text.quoted f.1) ++ "], " ++
        fieldChoice direction (f :: fields) ++ ")" :=
  rfl

theorem bodyText_eq_unlines (c : Converter) :
    "    " ++ bodyText c.direction c.typeName c.body ++ c.ending ++ "\n" = unlines c.bodyLines := by
  delta bodyLines
  split
  · rename_i f fields hbody
    have hopening : "    convert::record_" = "    " ++ "convert::" ++ "record" ++ "_" := rfl
    have hnames : "], |i, f| match i \x7b" = "], " ++ "|i, f| match i \x7b" := rfl
    have hclosing : "    \x7d)" = "    \x7d" ++ ")" := rfl
    rw [hbody, bodyText_record, fieldChoice_eq_unlines, Text.unlines_append, Text.unlines_cons,
      Text.unlines_cons]
    simp only [hopening, hnames, hclosing, Text.unlines_nil, String.append_empty,
      String.append_assoc]
  · rw [Text.unlines_cons]
    simp only [unlines, List.map_nil, String.join_nil, String.append_empty]

theorem render_eq_unlines (c : Converter) : c.render = unlines c.lines := by
  have hbrace : " \x7b\n    " = " \x7b" ++ "\n" ++ "    " := rfl
  have hclosing : "\n\x7d\n" = "\n" ++ "\x7d" ++ "\n" := rfl
  have hcomment : "\x60 to script.\n" = "\x60 to script." ++ "\n" := rfl
  have hcomment' : "\x60.\n" = "\x60." ++ "\n" := rfl
  have hvalue : "(rt: &Runtime, v: &NativeValue) -> Result<Value, ConversionError> \x7b" =
      "(rt: &Runtime, v: &NativeValue) -> Result<Value, ConversionError>" ++ " \x7b" := by
    simp
  have hnative : "(rt: &Runtime, v: &Value) -> Result<NativeValue, ConversionError> \x7b" =
      "(rt: &Runtime, v: &Value) -> Result<NativeValue, ConversionError>" ++ " \x7b" := by
    simp
  rw [lines, List.cons_append, List.cons_append, Text.unlines_cons, Text.unlines_cons,
    Text.unlines_append, ← bodyText_eq_unlines]
  delta render comment signature ending
  cases c.direction <;>
    simp only [hbrace, hclosing, hcomment, hcomment', hvalue, hnative, Text.unlines_cons,
      Text.unlines_nil, String.append_empty, String.append_assoc]

end Converter

namespace Bindings

def limitationLine (l : Limitation) : String := "// limitation: " ++ l.text

def headLines (b : Bindings) (moduleName : String) : List String :=
  ["// Code generated by tether. DO NOT EDIT.", "//",
    "// Module \x60" ++ moduleName ++ "\x60: " ++ toString b.shapes.size ++ " shapes, " ++
      toString b.converters.length ++ " converters, " ++ toString b.bridges.length ++ " bridges.",
    "// Load the shape table from \x60" ++ moduleName ++
      ".json\x60 into the runtime before calling."] ++
    b.limitations.map limitationLine

def usesLines : List String :=
  ["", "#![allow(unused_imports, unused_variables, dead_code)]", "", "use std::sync::Arc;", "",
    "use tether_runtime::convert;", "use tether_runtime::\x7b",
    "    BridgeTable, ChanDir, ConversionError, FloatPrecision, NativeValue, Runtime, ShapeId,",
    "    Signedness, Value,", "\x7d;", ""]

def registration (name listing : String) : String :=
  "    rt.type_names().register_alias(" ++ Text.quoted name ++ ", " ++ Text.quoted listing ++ ");"

def aliasLines (b : Bindings) : List String :=
  ["/// Registers struct alias names with the runtime.",
    "pub fn register_type_names(rt: &Runtime) \x7b"] ++
    b.aliases.map (fun entry => registration entry.1 entry.2) ++ ["\x7d"]

def bridgeLines (s : BridgeSupport) : List String :=
  ["", "pub fn " ++ s.ident ++ "(rt: &Runtime) -> Arc<BridgeTable> \x7b",
    "    rt.bridge_table(ShapeId(" ++ toString s.element ++ "), ChanDir::" ++
      chanDirWord s.direction ++ ")", "\x7d"]

def converterLines (b : Bindings) (i : Nat) : List String :=
  match b.converters[i]? with
  | some ⟨_, _, _, _, some definition, _⟩ => "" :: definition.lines
  | _ => [""]

/-- A line for each limitation, and lines for each struct, bridge and converter. What is called how
does not change how many. -/
def moduleLines (b : Bindings) (moduleName : String) : List String :=
  b.headLines moduleName ++ usesLines ++ b.aliasLines ++ b.bridges.flatMap bridgeLines ++
    b.order.flatMap b.converterLines

theorem head_eq_unlines (b : Bindings) (moduleName : String) :
    b.head moduleName = unlines (b.headLines moduleName) := by
  have hopening : "// Code generated by tether. DO NOT EDIT.\n//\n// Module \x60" =
      "// Code generated by tether. DO NOT EDIT." ++ "\n" ++ "//" ++ "\n" ++ "// Module \x60" := by
    simp
  have hcounts : " bridges.\n// Load the shape table from \x60" =
      " bridges." ++ "\n" ++ "// Load the shape table from \x60" := by
    simp
  have hclosing : ".json\x60 into the runtime before calling.\n" =
      ".json\x60 into the runtime before calling." ++ "\n" := by
    simp
  delta head headLines limitationLine
  rw [Text.unlines_append, Text.unlines_map]
  simp only [hopening, hcounts, hclosing, unlines, List.map_cons, List.map_nil,
    String.join_cons, String.join_nil, String.append_empty, String.append_assoc]

theorem uses_eq_unlines : uses = unlines usesLines := by decide +kernel

theorem aliasText_eq_unlines (b : Bindings) : b.aliasText = unlines b.aliasLines := by
  have hopening : "/// Registers struct alias names with the runtime.\n" =
      "/// Registers struct alias names with the runtime." ++ "\n" := by simp
  have hsignature : "pub fn register_type_names(rt: &Runtime) \x7b\n" =
      "pub fn register_type_names(rt: &Runtime) \x7b" ++ "\n" := by simp
  have hline : ");\n" = ");" ++ "\n" := rfl
  have hclosing : "\x7d\n" = "\x7d" ++ "\n" := rfl
  delta aliasText registration aliasLines
  rw [Text.unlines_append, Text.unlines_append, Text.unlines_map]
  simp only [hopening, hsignature, hline, hclosing, unlines, List.map_cons, List.map_nil,
    String.join_cons, String.join_nil, String.append_empty, String.append_assoc]

theorem bridgeText_eq_unlines (s : BridgeSupport) : bridgeText s = unlines (bridgeLines s) := by
  have hopening : "\npub fn " = "\n" ++ "pub fn " := rfl
  have hsignature : "(rt: &Runtime) -> Arc<BridgeTable> \x7b\n" =
      "(rt: &Runtime) -> Arc<BridgeTable> \x7b" ++ "\n" := by simp
  have hclosing : ")\n\x7d\n" = ")" ++ "\n" ++ "\x7d" ++ "\n" := rfl
  delta bridgeText bridgeLines
  simp only [hopening, hsignature, hclosing, unlines, List.map_cons, List.map_nil,
    String.join_cons, String.join_nil, String.append_empty, String.empty_append,
    String.append_assoc]

theorem converterText_eq_unlines (b : Bindings) (i : Nat) :
    b.converterText i = unlines (b.converterLines i) := by
  rw [converterText, converterLines]
  match b.converters[i]? with
  | none | some ⟨_, _, _, _, none, _⟩ => rfl
  | some ⟨_, _, _, _, some definition, _⟩ =>
    show "\n" ++ definition.render = unlines ("" :: definition.lines)
    rw [Text.unlines_cons, Converter.render_eq_unlines]
    rfl

theorem moduleText_eq_unlines (b : Bindings) (moduleName : String) :
    b.moduleText moduleName = unlines (b.moduleLines moduleName) := by
  rw [moduleText, moduleLines, Text.unlines_append, Text.unlines_append, Text.unlines_append,
    Text.unlines_append, Text.unlines_flatMap, Text.unlines_flatMap, ← head_eq_unlines,
    ← uses_eq_unlines, ← aliasText_eq_unlines]
  simp only [← bridgeText_eq_unlines, ← converterText_eq_unlines]

end Bindings

/-! ### Characters -/

section Over

variable {Q : Char → Prop} (hQ : Text.Lettered Q)

include hQ

theorem hex_over (n : Nat) : Text.Over Q (Text.hex n) := by
  intro c hc
  rw [Text.hex, String.toList_ofList] at hc
  obtain ⟨d, hd, rfl⟩ := mem_toDigits hc
  exact hQ.shown _ (isShown_digitChar d hd)

theorem escapeChar_over (c : Char) : Text.Over Q (Text.escapeChar c) := by
  have hcodePoint : Text.Over Q (Text.codePointEscape c) :=
    ((hQ.fixed (by decide)).append (hex_over hQ c.toNat)).append (hQ.fixed (by decide))
  unfold Text.escapeChar
  split_ifs with _ _ _ _ _ _ hplain
  · exact hQ.fixed (by decide)
  · exact hQ.fixed (by decide)
  · exact hQ.fixed (by decide)
  · exact hQ.fixed (by decide)
  · exact hQ.fixed (by decide)
  · exact hQ.fixed (by decide)
  · rw [Text.Over, Char.toString_eq_singleton, String.toList_singleton]
    exact List.forall_mem_singleton.2 (hQ.plain c hplain)
  · exact hcodePoint

theorem quoted_over (text : String) : Text.Over Q (Text.quoted text) := by
  have hescape : ∀ cs, Text.Over Q (Text.escape cs) := by
    intro cs
    induction cs with
    | nil => exact Text.over_empty
    | cons c rest ih => exact (escapeChar_over hQ c).append ih
  exact ((hQ.fixed (by decide)).append (hescape _)).append (hQ.fixed (by decide))

theorem Scalar.label_over (s : Scalar) : Text.Over Q s.label := by
  cases s <;> exact hQ.fixed (by decide)

namespace Converter

theorem over_stem (direction : Direction) : Text.Over Q direction.stem := by
  cases direction <;> exact hQ.fixed (by decide)

theorem scalarText_over (direction : Direction) (s : Scalar) {var : String}
    (hvar : Text.Over Q var) : Text.Over Q (scalarText direction s var) := by
  have hcall : Text.Over Q ("convert::" ++ s.label ++ "_" ++ direction.stem ++ "(" ++ var) :=
    (((((hQ.fixed (by decide)).append (Scalar.label_over hQ s)).append (hQ.fixed (by decide))).append
      (over_stem hQ direction)).append (hQ.fixed (by decide))).append hvar
  have hclose : Text.Over Q ")" := hQ.fixed (by decide)
  unfold scalarText
  split
  · rename_i width signedness
    have hword : Text.Over Q signedness.word := by cases signedness <;> exact hQ.fixed (by decide)
    exact ((((hcall.append (hQ.fixed (by decide))).append (hQ.number width)).append
      (hQ.fixed (by decide))).append hword).append hclose
  · rename_i precision
    have hword : Text.Over Q precision.word := by cases precision <;> exact hQ.fixed (by decide)
    exact ((hcall.append (hQ.fixed (by decide))).append hword).append hclose
  · exact hcall.append hclose

theorem partText_over (direction : Direction) {part : Part} (hpart : part.Over Q) {var : String}
    (hvar : Text.Over Q var) : Text.Over Q (partText direction part var) := by
  have hclose : Text.Over Q ")" := hQ.fixed (by decide)
  cases part with
  | scalar s => exact scalarText_over hQ direction s hvar
  | call ident =>
    exact ((hpart.append (hQ.fixed (by decide))).append hvar).append hclose
  | interpret shape =>
    exact ((((((hQ.fixed (by decide)).append (over_stem hQ direction)).append
      (hQ.fixed (by decide))).append (hQ.number shape)).append
      (hQ.fixed (by decide))).append hvar).append hclose

theorem armLines_over (direction : Direction) {fields : List (String × Part)}
    (hfields : ∀ f ∈ fields, f.2.Over Q) : ∀ position,
    ∀ line ∈ armLines direction position fields, Text.Over Q line := by
  have hcomma : Text.Over Q "," := hQ.fixed (by decide)
  have hvar : Text.Over Q "f" := hQ.fixed (by decide)
  induction fields with
  | nil => exact fun _ => List.forall_mem_nil _
  | cons f rest ih =>
    intro position
    obtain ⟨hf, hrest⟩ := List.forall_mem_cons.1 hfields
    have hpart := partText_over hQ direction hf hvar
    cases rest with
    | nil =>
      exact List.forall_mem_singleton.2 (((hQ.fixed (by decide)).append hpart).append hcomma)
    | cons next rest =>
      refine List.forall_mem_cons.2 ⟨?_, ih hrest (position + 1)⟩
      exact ((((hQ.fixed (by decide)).append (hQ.number position)).append
        (hQ.fixed (by decide))).append hpart).append hcomma

theorem over_namesText (fields : List (String × Part)) :
    Text.Over Q (", ".intercalate (fields.map fun f => Text.quoted f.1)) :=
  Text.over_intercalate (hQ.fixed (by decide)) (List.forall_mem_map.2 fun f _ => quoted_over hQ f.1)

/-- But for a struct with fields, which takes several lines. -/
theorem bodyText_over (direction : Direction) (typeName : String) {body : Body}
    (hparts : ∀ part ∈ body.written, part.Over Q)
    (hbody : ∀ f fields, body ≠ .record (f :: fields)) :
    Text.Over Q (bodyText direction typeName body) := by
  have hcall : ∀ helper, Text.Over Q helper → Text.Over Q
      ("convert::" ++ helper ++ "_" ++ direction.stem ++ "(v, " ++ Text.quoted typeName) :=
    fun helper hhelper => (((((hQ.fixed (by decide)).append hhelper).append
      (hQ.fixed (by decide))).append (over_stem hQ direction)).append
      (hQ.fixed (by decide))).append (quoted_over hQ typeName)
  have heach : ∀ part : Part, part.Over Q →
      Text.Over Q (", |e| " ++ partText direction part "e" ++ ")") := fun part hpart =>
    ((hQ.fixed (by decide)).append
      (partText_over hQ direction hpart (hQ.fixed (by decide)))).append (hQ.fixed (by decide))
  cases body with
  | whole part =>
    exact partText_over hQ direction (hparts part (List.mem_singleton_self _))
      (hQ.fixed (by decide))
  | slice element | map element | pointer element =>
    exact (hcall _ (hQ.fixed (by decide))).append
      (heach element (hparts element (List.mem_singleton_self _)))
  | array length element =>
    exact (((hcall _ (hQ.fixed (by decide))).append (hQ.fixed (by decide))).append
      (hQ.number length)).append
      (heach element (hparts element (List.mem_singleton_self _)))
  | record fields =>
    cases fields with
    | nil =>
      have hchoice : Text.Over Q (fieldChoice direction []) := by
        cases direction <;> exact hQ.fixed (by decide)
      exact (((((hcall _ (hQ.fixed (by decide))).append (hQ.fixed (by decide))).append
        (over_namesText hQ [])).append (hQ.fixed (by decide))).append hchoice).append
        (hQ.fixed (by decide))
    | cons f fields => exact absurd rfl (hbody f fields)
  | boxed => exact (hcall _ (hQ.fixed (by decide))).append (hQ.fixed (by decide))

theorem bodyLines_over {c : Converter} (h : c.Over Q) : ∀ line ∈ c.bodyLines, Text.Over Q line := by
  have hending : Text.Over Q c.ending := by
    delta ending
    split <;> exact hQ.fixed (by decide)
  delta bodyLines
  split
  · rename_i f fields hbody
    have hfields : ∀ field ∈ f :: fields, field.2.Over Q := fun field hfield =>
      h.written field.2 (hbody ▸ List.mem_map_of_mem hfield)
    have hopening : Text.Over Q ("    convert::record_" ++ c.direction.stem ++ "(v, " ++
        Text.quoted c.typeName ++ ", &[" ++
        ", ".intercalate ((f :: fields).map fun f => Text.quoted f.1) ++
        "], |i, f| match i \x7b") :=
      ((((((hQ.fixed (by decide)).append (over_stem hQ c.direction)).append
        (hQ.fixed (by decide))).append (quoted_over hQ c.typeName)).append
        (hQ.fixed (by decide))).append (over_namesText hQ (f :: fields))).append
        (hQ.fixed (by decide))
    refine List.forall_mem_cons.2 ⟨hopening, List.forall_mem_append.2 ⟨?_, ?_⟩⟩
    · exact armLines_over hQ c.direction hfields 0
    · exact List.forall_mem_singleton.2 ((hQ.fixed (by decide)).append hending)
  · rename_i hbody
    exact List.forall_mem_singleton.2 (((hQ.fixed (by decide)).append
      (bodyText_over hQ c.direction c.typeName h.written hbody)).append hending)

theorem lines_over {c : Converter} (h : c.Over Q) : ∀ line ∈ c.lines, Text.Over Q line := by
  have hcomment : Text.Over Q c.comment := by
    delta comment
    split <;>
      exact ((hQ.fixed (by decide)).append h.typeName).append (hQ.fixed (by decide))
  have hsignature : Text.Over Q c.signature := by
    delta signature
    split <;> exact ((hQ.fixed (by decide)).append h.ident).append (hQ.fixed (by decide))
  refine List.forall_mem_cons.2 ⟨hcomment, List.forall_mem_cons.2 ⟨hsignature, ?_⟩⟩
  exact List.forall_mem_append.2
    ⟨bodyLines_over hQ h, List.forall_mem_singleton.2 (hQ.fixed (by decide))⟩

end Converter

namespace Bindings

theorem registration_over (name listing : String) : Text.Over Q (registration name listing) :=
  ((((hQ.fixed (by decide)).append (quoted_over hQ name)).append (hQ.fixed (by decide))).append
    (quoted_over hQ listing)).append (hQ.fixed (by decide))

theorem aliasLines_over (b : Bindings) : ∀ line ∈ b.aliasLines, Text.Over Q line := by
  refine List.forall_mem_append.2 ⟨List.forall_mem_append.2 ⟨?_, ?_⟩, ?_⟩
  · exact List.forall_mem_cons.2
      ⟨hQ.fixed (by decide), List.forall_mem_singleton.2 (hQ.fixed (by decide))⟩
  · exact List.forall_mem_map.2 fun entry _ => registration_over hQ entry.1 entry.2
  · exact List.forall_mem_singleton.2 (hQ.fixed (by decide))

theorem usesLines_over : ∀ line ∈ usesLines, Text.Over Q line := by
  simp only [usesLines, List.forall_mem_cons]
  refine ⟨?_, ?_, ?_, ?_, ?_, ?_, ?_, ?_, ?_, ?_, ?_, List.forall_mem_nil _⟩ <;>
    exact hQ.fixed (by decide)

theorem bridgeLines_over {s : BridgeSupport} (h : Text.Over Q s.ident) :
    ∀ line ∈ bridgeLines s, Text.Over Q line := by
  have hsignature : Text.Over Q
      ("pub fn " ++ s.ident ++ "(rt: &Runtime) -> Arc<BridgeTable> \x7b") :=
    ((hQ.fixed (by decide)).append h).append (hQ.fixed (by decide))
  have hword : Text.Over Q (chanDirWord s.direction) := by
    cases s.direction <;> exact hQ.fixed (by decide)
  have hbody : Text.Over Q ("    rt.bridge_table(ShapeId(" ++ toString s.element ++
      "), ChanDir::" ++ chanDirWord s.direction ++ ")") :=
    ((((hQ.fixed (by decide)).append (hQ.number s.element)).append
      (hQ.fixed (by decide))).append hword).append (hQ.fixed (by decide))
  refine List.forall_mem_cons.2 ⟨Text.over_empty, List.forall_mem_cons.2 ⟨hsignature, ?_⟩⟩
  exact List.forall_mem_cons.2 ⟨hbody, List.forall_mem_singleton.2 (hQ.fixed (by decide))⟩

variable {b : Bindings} (h : b.Over Q)

include h

theorem headLines_over {moduleName : String} (hmodule : Text.Over Q moduleName) :
    ∀ line ∈ b.headLines moduleName, Text.Over Q line := by
  have hcounts : Text.Over Q ("// Module \x60" ++ moduleName ++ "\x60: " ++
      toString b.shapes.size ++ " shapes, " ++ toString b.converters.length ++ " converters, " ++
      toString b.bridges.length ++ " bridges.") :=
    ((((((((hQ.fixed (by decide)).append hmodule).append (hQ.fixed (by decide))).append
      (hQ.number _)).append (hQ.fixed (by decide))).append
      (hQ.number _)).append (hQ.fixed (by decide))).append
      (hQ.number _)).append (hQ.fixed (by decide))
  have htable : Text.Over Q ("// Load the shape table from \x60" ++ moduleName ++
      ".json\x60 into the runtime before calling.") :=
    ((hQ.fixed (by decide)).append hmodule).append (hQ.fixed (by decide))
  refine List.forall_mem_append.2 ⟨?_, List.forall_mem_map.2 fun l hl => ?_⟩
  · exact List.forall_mem_cons.2 ⟨hQ.fixed (by decide), List.forall_mem_cons.2
      ⟨hQ.fixed (by decide), List.forall_mem_cons.2
        ⟨hcounts, List.forall_mem_singleton.2 htable⟩⟩⟩
  · obtain ⟨hname, hreason⟩ := h.limitations l hl
    exact (hQ.fixed (by decide)).append ((hname.append (hQ.fixed (by decide))).append hreason)

theorem converterLines_over (i : Nat) : ∀ line ∈ b.converterLines i, Text.Over Q line := by
  unfold converterLines
  split
  · rename_i definition _ hi
    exact List.forall_mem_cons.2 ⟨Text.over_empty, Converter.lines_over hQ
      (h.converters _ (List.mem_of_getElem? hi) definition rfl)⟩
  · exact List.forall_mem_singleton.2 Text.over_empty

theorem Over.moduleLines {moduleName : String} (hmodule : Text.Over Q moduleName) :
    ∀ line ∈ b.moduleLines moduleName, Text.Over Q line := by
  simp only [Bindings.moduleLines, List.forall_mem_append, List.forall_mem_flatMap]
  exact ⟨⟨⟨⟨headLines_over hQ h hmodule, usesLines_over hQ⟩, aliasLines_over hQ b⟩,
    fun s hs => bridgeLines_over hQ (h.bridges s hs)⟩, fun i _ => converterLines_over hQ h i⟩

end Bindings
end Over

/-! ### Line breaks -/

namespace Text

/-- The characters that end a line in one convention or another. -/
def lineBreaks : List Char := ['\n', '\x0b', '\x0c', '\r', '\u0085', '\u2028', '\u2029']

theorem lettered_lineBreaks {breaks : List Char} (h : breaks ⊆ lineBreaks) :
    Lettered (· ∉ breaks) := by
  have hshown : ∀ c ∈ lineBreaks, ¬IsShown c := forall_mem_of_all (by decide)
  have hword : ∀ c ∈ lineBreaks, Notation.isWordChar c = false :=
    forall_mem_of_all (by decide +kernel)
  have hplain : ∀ c ∈ lineBreaks, isPlain c = false := forall_mem_of_all (by decide +kernel)
  refine ⟨⟨fun c hc hmem => hshown c (h hmem) hc⟩, fun c hc hmem => ?_, fun c hc hmem => ?_⟩
  · exact Bool.false_ne_true ((hword c (h hmem)).symm.trans hc)
  · exact Bool.false_ne_true ((hplain c (h hmem)).symm.trans hc)

end Text

namespace Declaration

/-- With no line breaks in the names of the package and its types, names add no lines. Whatever else
a declaration says comes to the module through type expressions. -/
theorem lines_of_generate {d : Declaration} {l : Lowered} {b : Bindings} {breaks : List Char}
    {moduleName : String} (hfeed : '\n' ∈ breaks) (hbreaks : breaks ⊆ Text.lineBreaks)
    (h : d.Over (· ∉ breaks)) (hl : d.lower = .ok l) (hb : l.generate.1 = .ok b)
    (hmodule : Text.Over (· ∉ breaks) moduleName) :
    (∀ shape ∈ b.shapes.shapes.toList, Text.Over (· ∉ breaks) shape.name) ∧
    (∀ x ∈ b.limitations,
      Text.Over (· ∉ breaks) x.typeName ∧ Text.Over (· ∉ breaks) x.reason) ∧
    linesOf (b.moduleText moduleName) = b.moduleLines moduleName ++ [""] ∧
    ∀ line ∈ b.moduleLines moduleName, Text.Over (· ∉ breaks) line := by
  have hlettered := Text.lettered_lineBreaks hbreaks
  have hover := over_of_generate hlettered h hl hb
  have hlines := hover.moduleLines hlettered hmodule
  have hfeeds : ∀ line ∈ b.moduleLines moduleName, '\n' ∉ line.toList :=
    fun line hline hmem => hlines line hline '\n' hmem hfeed
  rw [Bindings.moduleText_eq_unlines, Text.linesOf_unlines, Text.flatMap_linesOf hfeeds]
  exact ⟨hover.shapes, hover.limitations, rfl, hlines⟩

theorem eq_ok_of_toOption {ε α : Type} {x : Except ε α} {a : α} (h : x.toOption = some a) :
    x = .ok a := by
  cases x <;> cases h
  rfl

/-- Facts about what a declaration leads to, by evaluation. -/
theorem exists_of_run {d : Declaration} {P : Bindings → Prop} [DecidablePred P]
    (h : (d.lower.toOption.bind fun l => l.generate.1.toOption.map fun b => decide (P b)) =
      some true) : ∃ l b, d.lower = .ok l ∧ l.generate.1 = .ok b ∧ P b := by
  obtain ⟨l, hl, h⟩ := Option.bind_eq_some_iff.1 h
  obtain ⟨b, hb, h⟩ := Option.map_eq_some_iff.1 h
  exact ⟨l, b, eq_ok_of_toOption hl, eq_ok_of_toOption hb, of_decide_eq_true h⟩

/-- A slice of what cannot be converted, and a struct. -/
def kiln : Declaration where
  package := ⟨"kiln", none⟩
  types := [⟨"Phase", "complex128", false, [], true⟩,
    ⟨"Firing", "struct \x7b Phases []Phase; Cone int \x7d", false, [], true⟩]
  functions := [⟨"Fire", "func(chan Firing) error", true⟩]
  methods := []
  convert := []

theorem lines_of_generate_kiln : ∃ l b, kiln.lower = .ok l ∧ l.generate.1 = .ok b ∧
    kiln.Over (· ∉ Text.lineBreaks) ∧ b.shapes.shapes.toList ≠ [] ∧ b.limitations ≠ [] ∧
    (∀ shape ∈ b.shapes.shapes.toList, Text.Over (· ∉ Text.lineBreaks) shape.name) ∧
    (∀ x ∈ b.limitations, Text.Over (· ∉ Text.lineBreaks) x.typeName ∧
      Text.Over (· ∉ Text.lineBreaks) x.reason) ∧
    linesOf (b.moduleText "bindings") = b.moduleLines "bindings" ++ [""] ∧
    ∀ line ∈ b.moduleLines "bindings", Text.Over (· ∉ Text.lineBreaks) line := by
  have hover : kiln.Over (· ∉ Text.lineBreaks) := ⟨by decide, by decide⟩
  have hmodule : Text.Over (· ∉ Text.lineBreaks) "bindings" := by decide
  obtain ⟨l, b, hl, hb, hshapes, hlimited⟩ := exists_of_run (d := kiln)
    (P := fun b => b.shapes.shapes.toList ≠ [] ∧ b.limitations ≠ []) (by decide +kernel)
  exact ⟨l, b, hl, hb, hover, hshapes, hlimited,
    lines_of_generate (by decide) (List.Subset.refl _) hover hl hb hmodule⟩

/-- The name of a type that goes on after the comment it stands in. -/
def breach : Declaration where
  package := ⟨"p", none⟩
  types := [⟨"T\x60\npub fn evil() \x7b\x7d\n// \x60", "complex128", false, [], true⟩]
  functions := []
  methods := []
  convert := []

/-- What stands between the line breaks in the name is a line of the module. -/
theorem line_of_type_name : breach.check = .ok () ∧ ∃ l b, breach.lower = .ok l ∧
    l.generate.1 = .ok b ∧ (∃ shape ∈ b.shapes.shapes.toList, '\n' ∈ shape.name.toList) ∧
    (∃ x ∈ b.limitations, '\n' ∈ x.typeName.toList) ∧
    "pub fn evil() \x7b\x7d" ∈ linesOf (b.moduleText "bindings") := by
  obtain ⟨l, b, hl, hb, hshape, x, hx, hname, hline⟩ := exists_of_run (d := breach)
    (P := fun b => (∃ shape ∈ b.shapes.shapes.toList, '\n' ∈ shape.name.toList) ∧
      ∃ x ∈ b.limitations, '\n' ∈ x.typeName.toList ∧
        "pub fn evil() \x7b\x7d" ∈ linesOf (Bindings.limitationLine x))
    (by decide +kernel)
  have hhead : Bindings.limitationLine x ∈ b.headLines "bindings" :=
    List.mem_append_right _ (List.mem_map_of_mem hx)
  refine ⟨rfl, l, b, hl, hb, hshape, ⟨x, hx, hname⟩, ?_⟩
  rw [Bindings.moduleText_eq_unlines, Text.linesOf_unlines]
  refine List.mem_append_left _ (List.mem_flatMap.2 ⟨Bindings.limitationLine x, ?_, hline⟩)
  simp only [Bindings.moduleLines, List.mem_append, hhead, true_or]

end Declaration
end ScriptBind
