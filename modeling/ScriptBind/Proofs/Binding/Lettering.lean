import ScriptBind.Proofs.Binding.Ends
import ScriptBind.Proofs.Binding.Identifiers
import ScriptBind.Proofs.Binding.WellFormed
import ScriptBind.Proofs.Canon.Delimited
import ScriptBind.Proofs.Declaration.Rereading
import ScriptBind.Text.Quoted

/-!
# ScriptBind.Proofs.Binding.Lettering

Which characters the names of shapes and the reasons of limitations are made of. Apart from the
names of a package and of its types, a name can only come from a type expression, where it is a
word.

* `Text.Lettered` - characters that such words and fixed texts are made of.
* `Declaration.Over` - the names that are taken from a declaration as they stand.
* `Declaration.over_of_lower` - the names in the graph.
* `Generator.upkeep_lettered` - the names in the state of a run.
* `Bindings.Over`, `Declaration.over_of_generate` - the names in the bindings.
-/

namespace ScriptBind

open Notation (isWordChar isWordChar_of_isIdent)

variable {Q : Char → Prop}

/-- Printable characters, those of identifiers in any script, and those that stand between quotes as
they are. -/
structure Text.Lettered (Q : Char → Prop) : Prop extends Text.Shows Q where
  word : ∀ c, isWordChar c = true → Q c
  plain : ∀ c, Text.isPlain c = true → Q c

theorem Text.Lettered.ident (hQ : Text.Lettered Q) {name : String} (h : Token.IsIdent name) :
    Text.Over Q name := fun c hc => hQ.word c (isWordChar_of_isIdent h c hc)

/-! ### The graph -/

/-- The name of an alias is not the name of a type. -/
structure Declaration.Over (Q : Char → Prop) (d : Declaration) : Prop where
  package : Text.Over Q d.package.name
  types : ∀ t ∈ d.types, t.isAlias = false → Text.Over Q t.name

namespace Declaration

open Lowering (lays_declarationNodes)

variable {d : Declaration} {l : Lowered}

theorem Over.qualifiedName (hQ : Text.Lettered Q) (h : d.Over Q) {name : String}
    (hname : Text.Over Q name) : Text.Over Q (d.qualifiedName name) := by
  rw [Declaration.qualifiedName, qualify]
  split
  · exact hname
  · exact (h.package.append (hQ.fixed (by decide))).append hname

theorem over_of_lower (hQ : Text.Lettered Q) (h : d.Over Q) (hl : d.lower = .ok l) :
    l.graph.Over Q := by
  obtain ⟨nodes, predeclared, hrun⟩ := exists_run hl
  obtain ⟨hs, _, _⟩ := lays_declarationNodes d _ _ hrun
  obtain ⟨nodes', _, hlayout⟩ := exists_layout hl
  intro kind hkind
  obtain ⟨id, hid⟩ := Array.getElem?_of_mem hkind
  have hregular := hs.regular id kind hid
  cases kind with
  | func sig => exact fun n hn => hQ.ident (hregular.2 n hn)
  | interface methods =>
    intro m hm
    obtain ⟨hname, hnone, _⟩ := hregular.2 m hm
    refine ⟨hQ.ident hname, fun n hn => ?_⟩
    rw [hnone] at hn
    cases hn
  | struct fields => exact fun f hf => hQ.ident (hregular f hf)
  | named name body typeParams =>
    obtain ⟨t, ht, rfl⟩ := exists_type_of_isNamed hrun ⟨body, typeParams, hid⟩
    obtain ⟨id', hlookup, hdeclared⟩ := hlayout.declares ht
    cases (show l.graph.lookup (d.qualifiedName t.name) = some id from hregular).symm.trans hlookup
    split at hdeclared
    · obtain ⟨target, _, hnode⟩ := hdeclared
      cases hid.symm.trans hnode
    · rename_i halias
      exact h.qualifiedName hQ (h.types t ht (Bool.eq_false_of_not_eq_true halias))
  | typeParam name => exact hQ.ident hregular
  | _ => trivial

end Declaration

/-! ### The generator -/

namespace Generator

variable {graph : TypeGraph} {g : Generator}

/-- Names of shapes, and what limitations say. -/
structure Lettered (graph : TypeGraph) (Q : Char → Prop) (g : Generator) : Prop where
  canon : g.canon.Valid graph
  rows : ∀ row ∈ g.rows, Text.Over Q row.name
  limitations : ∀ l ∈ g.limitations, Text.Over Q l.typeName ∧ Text.Over Q l.reason

theorem lettered_empty (graph : TypeGraph) : empty.Lettered graph Q where
  canon := Session.valid_empty graph
  rows row h := by simp [empty] at h
  limitations l h := by simp [empty] at h

/-- A shape and a limitation are noted under the written name of a canonical type, whose names are
those of the graph. -/
theorem upkeep_lettered (hQ : Text.Lettered Q) (hgraph : graph.Over Q) :
    Upkeep graph Q (Lettered graph Q) where
  shown := hQ.shown
  kinds _ h _ _ hkind := h.canon.over hQ.toShows hgraph hkind
  canonical _ type h := ⟨(Session.meets_normalize type h.canon).valid, h.rows, h.limitations⟩
  degrade _ _ _ h hname hreason :=
    ⟨h.canon, h.rows, Array.forall_mem_push.2 ⟨⟨hname, hreason⟩, h.limitations⟩⟩
  registerBridge g element direction h := by
    show Lettered graph Q (if _ then g else _)
    split <;> exact ⟨h.canon, h.rows, h.limitations⟩
  reserveShape _ _ _ h hname := ⟨h.canon, Array.forall_mem_push.2 ⟨hname, h.rows⟩, h.limitations⟩
  setKind _ _ _ _ h hname := by
    refine ⟨h.canon, fun row hrow => ?_, h.limitations⟩
    rcases Array.mem_or_eq_of_mem_setIfInBounds hrow with hrow | rfl
    · exact h.rows row hrow
    · exact hname
  reserveEntry _ _ _ h := ⟨h.canon, h.rows, h.limitations⟩
  setDeps _ _ _ h := ⟨h.canon, h.rows, h.limitations⟩
  addExport g e h := by
    rw [Generator.addExport]
    split <;> exact ⟨h.canon, h.rows, h.limitations⟩

end Generator

/-! ### Bindings -/

def Part.Over (Q : Char → Prop) : Part → Prop
  | .call ident => Text.Over Q ident
  | _ => True

/-- What a body is written with: the argument as a whole, or its parts. -/
def Body.written : Body → List Part
  | .whole part => [part]
  | body => body.parts

structure Converter.Over (Q : Char → Prop) (c : Converter) : Prop where
  ident : Text.Over Q c.ident
  typeName : Text.Over Q c.typeName
  written : ∀ part ∈ c.body.written, part.Over Q

/-- Names and reasons that are written into a module as they stand. -/
structure Bindings.Over (Q : Char → Prop) (b : Bindings) : Prop where
  shapes : ∀ shape ∈ b.shapes.shapes.toList, Text.Over Q shape.name
  limitations : ∀ l ∈ b.limitations, Text.Over Q l.typeName ∧ Text.Over Q l.reason
  bridges : ∀ s ∈ b.bridges, Text.Over Q s.ident
  converters : ∀ e ∈ b.converters, ∀ c, e.definition = some c → c.Over Q

namespace Converter

variable {shapes : ShapeTable} {idents : Idents}

theorem part_over (hidents : ∀ id direction ident, idents id direction = some ident →
    Text.Over Q ident) (direction : Direction) (id : ShapeId) :
    (part shapes idents direction id).Over Q := by
  unfold part
  split
  · trivial
  · split
    · exact hidents id direction _ ‹_›
    · trivial

theorem ofShape_over (hidents : ∀ id direction ident, idents id direction = some ident →
    Text.Over Q ident) {ident : String} (hident : Text.Over Q ident) (direction : Direction)
    {shape : Shape} (hname : Text.Over Q shape.name) :
    (ofShape shapes idents ident direction shape).Over Q where
  ident := hident
  typeName := hname
  written := by
    have hpart : ∀ id, (part shapes idents direction id).Over Q := part_over hidents direction
    show ∀ part ∈ (bodyOf shapes idents direction shape).written, part.Over Q
    rw [bodyOf]
    cases shape.kind with
    | slice element | array length element | map value | pointer element =>
      exact List.forall_mem_singleton.2 (hpart _)
    | record fields =>
      show ∀ p ∈ (fields.map fun f => (f.name, _)).map (·.2), Part.Over Q p
      rw [List.map_map]
      exact List.forall_mem_map.2 fun f _ => hpart f.shape
    | boxed reason => exact List.forall_mem_nil _
    | _ => exact List.forall_mem_singleton.2 trivial

end Converter

namespace Generator

variable {graph : TypeGraph} {g : Generator}

theorem exists_entry_of_identsOf {entries : List ConverterEntry} {id : ShapeId}
    {direction : Direction} {ident : String} (h : identsOf entries id direction = some ident) :
    ∃ e ∈ entries, e.ident = ident := by
  rw [identsOf] at h
  split at h
  · rename_i e hfind
    cases h
    exact ⟨e, List.mem_reverse.1 (List.mem_of_find?_eq_some hfind), rfl⟩
  · cases h

theorem Lettered.finish (h : g.Lettered graph Q) (hidents : ∀ ident ∈ g.identsUsed,
    Text.Over Q ident) : g.finish.Over Q := by
  have hshapes : ∀ shape ∈ g.finish.shapes.shapes.toList, Text.Over Q shape.name := by
    intro shape hshape
    obtain ⟨id, hid⟩ := ShapeTable.exists_get?_of_mem hshape
    rw [Generator.finish, get?_shapeTable] at hid
    obtain ⟨row, hrow, rfl⟩ := Option.map_eq_some_iff.1 hid
    exact h.rows row (Array.mem_of_getElem? hrow)
  have hentries : ∀ e ∈ g.entries.toList, Text.Over Q e.ident := fun e he =>
    hidents _ (List.mem_append_left _ (List.mem_map_of_mem he))
  refine ⟨hshapes, fun l hl => h.limitations l (Array.mem_toList_iff.1 hl), fun s hs => ?_,
    fun e he c hc => ?_⟩
  · exact hidents _ (List.mem_append_right _ (List.mem_map_of_mem hs))
  · obtain ⟨entry, hentry, rfl⟩ := List.mem_map.1 he
    obtain ⟨shape, hshape, rfl⟩ := Option.map_eq_some_iff.1 hc
    refine Converter.ofShape_over (fun id direction ident hident => ?_) (hentries entry hentry) _ ?_
    · obtain ⟨e', he', rfl⟩ := exists_entry_of_identsOf hident
      exact hentries e' he'
    · exact hshapes shape (ShapeTable.mem_of_get? hshape)

end Generator

theorem Text.Lettered.identifier (hQ : Text.Lettered Q) {name : String} (h : IsIdentifier name) :
    Text.Over Q name := by
  refine h.chars.mono fun c hc => hQ.shown c ?_
  have hval : c.val.toNat = c.toNat := rfl
  rcases hc with (hlower | hdigit) | rfl
  · simp only [Char.isLower, Bool.and_eq_true, decide_eq_true_eq, ge_iff_le,
      UInt32.le_iff_toNat_le, UInt32.reduceToNat, Char.reduceVal] at hlower
    exact ⟨by omega, by omega⟩
  · simp only [Char.isDigit, Bool.and_eq_true, decide_eq_true_eq, ge_iff_le,
      UInt32.le_iff_toNat_le, UInt32.reduceToNat, Char.reduceVal] at hdigit
    exact ⟨by omega, by omega⟩
  · decide

theorem Declaration.over_of_generate {d : Declaration} {l : Lowered} {b : Bindings}
    (hQ : Text.Lettered Q) (h : d.Over Q) (hl : d.lower = .ok l) (hb : l.generate.1 = .ok b) :
    b.Over Q := by
  obtain ⟨_, rfl, _⟩ := Lowered.exported_of_generate hb
  obtain ⟨calls, _, hafter⟩ : ∃ calls : List Generator.Call, calls <+: l.requests.map .request ∧
      l.generator = Generator.after l.graph calls .empty := Generator.exists_calls _ _
  rw [hafter]
  have hlettered := (Generator.upkeep_lettered hQ (over_of_lower hQ h hl)).after calls
    (Generator.lettered_empty l.graph)
  have hnamed := (Generator.upkeep_named l.graph).after calls Generator.named_empty
  exact hlettered.finish fun ident hident => hQ.identifier (hnamed.spelled ident hident)

end ScriptBind
