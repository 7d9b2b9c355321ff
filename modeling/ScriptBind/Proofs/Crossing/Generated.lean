import ScriptBind.Library.Manifest
import ScriptBind.Proofs.Binding.Finish
import ScriptBind.Proofs.Crossing.Agreement
import ScriptBind.Proofs.Shape.Table

/-!
# ScriptBind.Proofs.Crossing.Generated

Whatever a declaration asks for, its generated converters agree with the interpreter.

* `TypeNames.ofStructs_ofList` - the names that are generated belong to structs.
* `Generator.Sound.coherent_finish` - what a sound generator has made is coherent.
* `Lowered.converters_agree` - a whole run.
-/

namespace ScriptBind

/-! ### Names -/

namespace TypeNames

theorem listings_ofList_subset (aliases : List (String × String)) :
    (ofList aliases).listings ⊆ aliases := by
  induction aliases using List.reverseRecOn with
  | nil => exact List.Subset.refl _
  | append_singleton aliases p ih =>
    have happend : ofList (aliases ++ [p]) = (ofList aliases).register p.1 p.2 := by
      rw [ofList, List.foldl_append]
      rfl
    rw [happend, register]
    split
    · exact List.Subset.trans ih (List.subset_append_left _ _)
    · exact List.append_subset.2
        ⟨List.Subset.trans ih (List.subset_append_left _ _), List.subset_append_right _ _⟩

theorem ofStructs_ofList {aliases : List (String × String)}
    (h : ∀ p ∈ aliases, IsStructAlias p.1) : (ofList aliases).OfStructs := by
  intro name listing hlisting
  exact h _ (listings_ofList_subset aliases (mem_of_lookup hlisting))

end TypeNames

/-! ### Bindings -/

theorem Bindings.function?_of_mem {b : Bindings} (h : (b.converters.map (·.ident)).Nodup)
    {e : ConverterEntry} (he : e ∈ b.converters) : b.function? e.ident = e.definition := by
  have hsome : (b.converters.find? (·.ident = e.ident)).isSome :=
    List.find?_isSome.2 ⟨e, he, by simp⟩
  rw [function?]
  cases hfind : b.converters.find? (·.ident = e.ident) with
  | none =>
    rw [hfind] at hsome
    cases hsome
  | some found =>
    have hmem := List.mem_of_find?_eq_some hfind
    have hident : found.ident = e.ident := by simpa using List.find?_some hfind
    rw [List.inj_on_of_nodup_map h hmem he hident]

namespace Generator

variable {g : Generator}

theorem Sound.coherent_finish (h : g.Sound) : g.finish.Coherent where
  ids id shape hid := by
    rw [finish, shapeTable, ShapeTable.get?_ofList] at hid
    obtain ⟨p, _, rfl⟩ := Option.map_eq_some_iff.1 hid
    rfl
  defined e he := by
    have hidents : (g.finish.converters.map (·.ident)).Nodup := by
      rw [map_converters_finish fun _ _ => rfl]
      exact h.idents
    rw [Bindings.function?_of_mem hidents he, identsOf_finish]
    obtain ⟨entry, hentry, rfl⟩ := List.mem_map.1 he
    have hlt := h.entries entry.shape (List.mem_map_of_mem hentry)
    have hshape : ∃ shape, g.shapeTable.get? entry.shape = some shape := by
      rw [shapeTable, ShapeTable.get?_ofList, List.getElem?_eq_getElem (by simpa using hlt)]
      exact ⟨_, rfl⟩
    obtain ⟨shape, found⟩ := hshape
    refine ⟨shape, found, ?_⟩
    show (g.shapeTable.get? entry.shape).map _ = _
    rw [found]
    rfl

end Generator

/-! ### Runs -/

namespace Lowered

variable {l : Lowered} {b : Bindings} (h : l.generate.1 = .ok b)

include h

theorem finish_of_generate : ∃ g : Generator, g.Sound ∧ b = g.finish := by
  have hsound := Generator.sound_requests l.graph l.requests
  rw [generate] at h
  generalize (Generator.requests l.graph l.requests).run .empty = outcome at h hsound
  obtain ⟨_ | _, g⟩ := outcome
  · cases h
  · exact ⟨g, hsound, (Except.ok.inj h).symm⟩

/-- Each generated converter gives what the interpreter gives at its shape, with the same error at
the same field, explained in the same words, and the same handles, from some bound on. -/
theorem converters_agree {lib : Library} (hshapes : lib.shapes = b.shapes)
    (hnames : lib.names = .empty ∨ lib.names = .ofList b.aliases) :
    ∀ e ∈ b.converters,
      (e.direction = .toScript → ∀ v c,
        ∃ m, ∀ n, m ≤ n → b.callTo lib n e.ident v c = lib.toScript e.shape v c) ∧
      (e.direction = .fromScript → ∀ x c, (lib.fromScript e.shape x c).1 ≠ .error .endless →
        ∃ m, ∀ n, m ≤ n → b.callFrom lib n e.ident x c = lib.fromScript e.shape x c) := by
  obtain ⟨g, hg, rfl⟩ := finish_of_generate h
  have hstructs : lib.names.OfStructs := by
    rcases hnames with hnames | hnames
    · rw [hnames]
      exact TypeNames.ofStructs_empty
    · rw [hnames]
      exact TypeNames.ofStructs_ofList fun p hp => hg.canon.mem_sortedAliases hp
  intro e he
  refine ⟨fun hdirection v c => ⟨v.depth + 1, fun n hn => ?_⟩,
    fun hdirection x c hends => ⟨lib.shapes.need x, fun n hn => ?_⟩⟩
  · rw [Bindings.callTo_eventually hg.coherent_finish hshapes hstructs he hdirection v hn]
  · exact Bindings.callFrom_eventually hg.coherent_finish hshapes hstructs he hdirection x hn hends

end Lowered

/-! ### A list of structs -/

def plotDeclaration : Declaration :=
  ⟨⟨"plot", none⟩, [], [], [], [⟨"[]struct \x7b X int64 \x7d", .only .fromScript⟩]⟩

def plotBindings : Bindings :=
  let sliceIdent := "from_script_slice_struct_0b32e52576360623"
  let structIdent := "from_script_struct_0b32e52576360623"
  { shapes := .ofList [("[]Struct_0b32e52576360623", .slice 1),
      ("Struct_0b32e52576360623", .record [⟨"X", 2⟩]), ("int64", .scalar (.int 64 .signed))]
    converters :=
      [⟨0, 0, .fromScript, sliceIdent,
          some ⟨sliceIdent, "[]Struct_0b32e52576360623", .fromScript, .slice (.call structIdent)⟩,
          [1]⟩,
        ⟨1, 1, .fromScript, structIdent,
          some ⟨structIdent, "Struct_0b32e52576360623", .fromScript,
            .record [("X", .scalar (.int 64 .signed))]⟩, []⟩]
    bridges := []
    aliases := [("Struct_0b32e52576360623", "X int64;")]
    limitations := []
    exports := [⟨"[]struct \x7b X int64 \x7d", 0, .fromScript, 0⟩] }

theorem plotBindings_generated :
    (plotDeclaration.lower.toOption.bind fun l => l.generate.1.toOption) = some plotBindings := by
  decide +kernel

/-- The second struct lacks a field. -/
def plotInput : Value := .list [.dict [⟨"X", .int 1⟩], .dict []]

def plotError : ConversionError :=
  .inField "[1]" (.missingField "Struct_0b32e52576360623 \x7bX int64\x7d" "X")

theorem converters_agree_plot :
    ∃ l : Lowered, plotDeclaration.lower = .ok l ∧ l.generate.1 = .ok plotBindings ∧
      ∃ m, ∀ n, m ≤ n →
        plotBindings.callFrom (.ofBindings plotBindings) n
            "from_script_slice_struct_0b32e52576360623" plotInput .empty =
          (.error (.failed plotError), .empty) := by
  obtain ⟨l, hlower, hrun⟩ := Option.bind_eq_some_iff.1 plotBindings_generated
  have hlower : plotDeclaration.lower = .ok l := by
    cases hresult : plotDeclaration.lower <;> rw [hresult] at hlower <;> cases hlower
    rfl
  have hrun : l.generate.1 = .ok plotBindings := by
    cases hresult : l.generate.1 <;> rw [hresult] at hrun <;> cases hrun
    rfl
  have hinterpreter : (Library.ofBindings plotBindings).fromScript 0 plotInput .empty =
      (.error (.failed plotError), .empty) := rfl
  have hshapes : (Library.ofBindings plotBindings).shapes = plotBindings.shapes := rfl
  have hagree := (l.converters_agree hrun hshapes (.inr rfl) _ List.mem_cons_self).2 rfl plotInput
    .empty
  rw [hinterpreter] at hagree
  exact ⟨l, hlower, hrun, hagree nofun⟩

end ScriptBind
