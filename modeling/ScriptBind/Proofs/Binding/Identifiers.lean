import ScriptBind.Proofs.Binding.Finish
import ScriptBind.Proofs.Binding.Upkeep
import ScriptBind.Proofs.Text.Slug

/-!
# ScriptBind.Proofs.Binding.Identifiers

The names of generated functions. Different types may have the same slug, and a slug with a number
may be the slug of yet another type, but a name is only taken when no converter and no bridge has it.

* `IsIdentifier` - how these names are spelled.
* `Generator.Named` - what holds of the names in the state of a run.
* `Bindings.WellNamed` - what holds of the names in bindings.
* `Generator.wellNamed_after` - of the bindings after any calls.
-/

namespace ScriptBind

open Text (IsPlain IsSlug)

/-! ### Spelling -/

/-- A small letter, and after it small letters, digits and underscores. -/
structure IsIdentifier (name : String) : Prop where
  starts : ∃ c rest, name.toList = c :: rest ∧ c.isLower = true
  chars : Text.Over (fun c => IsPlain c ∨ c = '_') name

theorem IsIdentifier.append {name text : String} (h : IsIdentifier name)
    (htext : Text.Over (fun c => IsPlain c ∨ c = '_') text) : IsIdentifier (name ++ text) where
  starts := by
    obtain ⟨c, rest, hname, hc⟩ := h.starts
    exact ⟨c, rest ++ text.toList, by rw [String.toList_append, hname]; rfl, hc⟩
  chars := h.chars.append htext

theorem over_underscore : Text.Over (fun c => IsPlain c ∨ c = '_') "_" := fun c hc => by
  rw [List.mem_singleton.1 hc]
  exact .inr rfl

theorem isIdentifier_of_isSlug {name : String} (h : IsSlug name) : IsIdentifier name :=
  ⟨h.starts, h.chars⟩

namespace Generator

theorem isIdentifier_candidate {base : String} (h : IsIdentifier base) (n : Nat) :
    IsIdentifier (candidate base n) := by
  cases n with
  | zero => exact h
  | succ n =>
    refine (h.append over_underscore).append fun c hc => .inl (.inr ?_)
    rw [Nat.toString_eq_repr, Nat.toList_repr] at hc
    exact Nat.isDigit_of_mem_toDigits (by decide) (by decide) hc

/-- The slug of a type after a fixed word. -/
theorem isIdentifier_slug_of_stem {stem : String} (h : IsIdentifier stem) (name : String) :
    IsIdentifier (stem ++ "_" ++ Text.slug name) :=
  (h.append over_underscore).append (Text.isSlug_slug name).chars

/-- Neither converters nor bridges have a name in common, with one another or among themselves. -/
structure Named (g : Generator) : Prop where
  distinct : g.identsUsed.Nodup
  spelled : ∀ ident ∈ g.identsUsed, IsIdentifier ident

variable {graph : TypeGraph} {g g' : Generator}

theorem named_empty : empty.Named := ⟨List.nodup_nil, List.forall_mem_nil _⟩

theorem Named.of_eq (h : g.Named) (hused : g'.identsUsed = g.identsUsed) : g'.Named :=
  ⟨hused ▸ h.distinct, hused ▸ h.spelled⟩

/-- With one more name, that of a converter or of a bridge. -/
theorem Named.fresh {base : String} (h : g.Named) (hbase : IsIdentifier base)
    (hused : g'.identsUsed.Perm (freshIdent g.identsUsed base :: g.identsUsed)) : g'.Named := by
  have hnew : IsIdentifier (freshIdent g.identsUsed base) := by
    obtain ⟨n, hn, _⟩ := freshIdent_spec g.identsUsed base
    exact hn ▸ isIdentifier_candidate hbase n
  refine ⟨hused.nodup_iff.2 (List.nodup_cons.2 ⟨freshIdent_not_mem _ _, h.distinct⟩), ?_⟩
  exact fun ident hident =>
    List.forall_mem_cons.2 ⟨hnew, h.spelled⟩ ident (hused.mem_iff.1 hident)

theorem Named.registerBridge (h : g.Named) (element : ShapeId) (direction : ChanDir) :
    (registerBridge element direction g).2.Named := by
  show Named (if _ then g else _)
  split
  · exact h
  · have hstem : IsIdentifier "bridge" := isIdentifier_of_isSlug (Text.slug_eq_self_iff.1 (by decide))
    have hlabel : Text.Over (fun c => IsPlain c ∨ c = '_') direction.label := by
      cases direction <;> decide
    refine h.fresh (((isIdentifier_slug_of_stem hstem (g.shapeName element)).append
      over_underscore).append hlabel) ?_
    show List.Perm (_ ++ List.map _ (Array.push _ _).toList) _
    rw [Array.toList_push, List.map_append, ← List.append_assoc]
    exact List.perm_append_comm

theorem Named.reserveEntry (h : g.Named) (shape : ShapeId) (direction : Direction) :
    (reserveEntry shape direction g).2.Named := by
  have hstem : IsIdentifier direction.stem := by
    cases direction <;> exact isIdentifier_of_isSlug (Text.slug_eq_self_iff.1 (by decide))
  refine h.fresh (isIdentifier_slug_of_stem hstem (g.shapeName shape)) ?_
  show List.Perm (List.map _ (Array.push _ _).toList ++ _) _
  rw [Array.toList_push, List.map_append, List.append_assoc]
  exact List.perm_middle

/-- Names are given when the place of a converter or a bridge is reserved, and then never changed. -/
theorem upkeep_named (graph : TypeGraph) : Upkeep graph (fun _ => True) Named where
  shown _ _ := trivial
  kinds _ _ _ kind _ := by
    have hover : ∀ name, Text.Over (fun _ => True) name := fun _ _ _ => trivial
    cases kind <;> simp [CanonKind.Over, CanonFunc.Over, hover]
  canonical _ _ h := h.of_eq rfl
  degrade _ _ _ h _ _ := h.of_eq rfl
  registerBridge _ element direction h := h.registerBridge element direction
  reserveShape _ _ _ h _ := h.of_eq rfl
  setKind _ _ _ _ h _ := h.of_eq rfl
  reserveEntry _ shape direction h := h.reserveEntry shape direction
  setDeps g id deps h := h.of_eq (by
    rw [identsUsed, map_entries_setDeps fun _ _ => rfl]
    rfl)
  addExport g e h := h.of_eq (by
    rw [Generator.addExport]
    split <;> rfl)

end Generator

/-! ### Bindings -/

/-- The names of all generated functions but the one that registers the names of structs. -/
def Bindings.idents (b : Bindings) : List String :=
  b.converters.map (·.ident) ++ b.bridges.map (·.ident)

structure Bindings.WellNamed (b : Bindings) : Prop where
  distinct : b.idents.Nodup
  spelled : ∀ ident ∈ b.idents, IsIdentifier ident

namespace Generator

theorem idents_finish (g : Generator) : g.finish.idents = g.identsUsed := by
  rw [Bindings.idents, map_converters_finish fun _ _ => rfl]
  rfl

/-- Whatever the names in the graph are, and whatever is asked for. A name is the first free one of
the base, which a slug is part of, and the base with the numbers 2, 3, …; at most as many are taken
as there are names, so the search comes to an end. -/
theorem wellNamed_after (graph : TypeGraph) (calls : List Call) :
    (after graph calls empty).finish.WellNamed ∧
      (∀ used base, ∃ n ≤ used.length, freshIdent used base = candidate base n ∧
        FirstFree used base n) ∧
      ∀ name, IsSlug (Text.slug name) ∧ Text.slug (Text.slug name) = Text.slug name := by
  have hnamed := (upkeep_named graph).after calls named_empty
  refine ⟨⟨?_, ?_⟩, fun used base => ?_, fun name => ⟨Text.isSlug_slug name, Text.slug_slug name⟩⟩
  · rw [idents_finish]
    exact hnamed.distinct
  · rw [idents_finish]
    exact hnamed.spelled
  · obtain ⟨n, hn, hfree⟩ := freshIdent_spec used base
    exact ⟨n, hfree.le_length, hn, hfree⟩

/-- With a number, the slug of one type may be that of another. -/
example : Text.slug "a b" = "a_b" ∧ Text.slug "a.b_2" = "a_b_2" ∧
    freshIdent ["to_script_a_b", "to_script_a_b_2"] "to_script_a_b" = "to_script_a_b_3" := by
  decide

end Generator
end ScriptBind
