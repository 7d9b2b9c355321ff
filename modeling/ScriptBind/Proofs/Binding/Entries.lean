import Mathlib.Data.Finset.Prod
import ScriptBind.Proofs.Binding.Invariant

/-!
# ScriptBind.Proofs.Binding.Entries

What making an entry does to the table of converters, while other entries are still being made.

* `ShapeKind.Needs` - the shapes that a converter of a rule needs, each with its direction.
* `Needs` - one converter calls another one.
* `Generator.Wired` - an entry lists the entries of all converters that it calls, and no others.
* `Generator.Linked` - a later state in which all further entries are made to the end.
* `Generator.enters_entryIn` - making an entry, by induction on the bound, which is high enough.
-/

namespace ScriptBind

open Relation (ReflTransGen)

/-! ### What calls what -/

/-- A shape and the direction in which it is crossed. -/
abbrev ConverterKey := ShapeId × Direction

def ConverterEntry.key (e : ConverterEntry) : ConverterKey := (e.shape, e.direction)

/-- A converter of the rule in the direction needs to cross the shape in that direction. -/
inductive ShapeKind.Needs : ShapeKind → Direction → ConverterKey → Prop
  | slice {element : ShapeId} {d : Direction} : Needs (.slice element) d (element, d)
  | array {length : Nat} {element : ShapeId} {d : Direction} :
    Needs (.array length element) d (element, d)
  | pointer {element : ShapeId} {d : Direction} : Needs (.pointer element) d (element, d)
  | map {value : ShapeId} {d : Direction} : Needs (.map value) d (value, d)
  | field {fields : List FieldShape} {f : FieldShape} {d : Direction} :
    f ∈ fields → Needs (.record fields) d (f.shape, d)
  /-- Arguments cross a function against its own direction. -/
  | param {f : FuncShape} {p : ShapeId} {d : Direction} :
    p ∈ f.params → Needs (.func f) d (p, d.reverse)
  | result {f : FuncShape} {r : ShapeId} {d : Direction} :
    r ∈ f.results → Needs (.func f) d (r, d)
  | methodParam {methods : List MethodShape} {m : MethodShape} {p : ShapeId} {d : Direction} :
    m ∈ methods → p ∈ m.func.params → Needs (.interface methods) d (p, d.reverse)
  | methodResult {methods : List MethodShape} {m : MethodShape} {r : ShapeId} {d : Direction} :
    m ∈ methods → r ∈ m.func.results → Needs (.interface methods) d (r, d)
  | toScript {direction : ChanDir} {element : ShapeId} {d : Direction} :
    direction.forwardsToScript = true → Needs (.chan direction element) d (element, .toScript)
  | fromScript {direction : ChanDir} {element : ShapeId} {d : Direction} :
    direction.forwardsToNative = true → Needs (.chan direction element) d (element, .fromScript)

/-- Given the rules of the shapes: a converter calls another one, which is not done in place. -/
def Needs (rules : ShapeId → Option ShapeKind) (key key' : ConverterKey) : Prop :=
  (∃ kind, rules key.1 = some kind ∧ kind.Needs key.2 key') ∧
    ∃ kind, rules key'.1 = some kind ∧ kind.isInline = false

namespace Generator

variable {kind : ShapeKind} {direction : Direction} {key : ConverterKey}

theorem mem_funcDeps_iff {f : FuncShape} :
    key ∈ funcDeps f direction ↔ (ShapeKind.func f).Needs direction key := by
  constructor
  · intro h
    rcases List.mem_append.1 h with h | h <;> obtain ⟨id, hid, rfl⟩ := List.mem_map.1 h
    · exact .param hid
    · exact .result hid
  · intro h
    cases h with
    | param hp => exact List.mem_append_left _ (List.mem_map.2 ⟨_, hp, rfl⟩)
    | result hr => exact List.mem_append_right _ (List.mem_map.2 ⟨_, hr, rfl⟩)

theorem mem_dependencies_iff : key ∈ dependencies kind direction ↔ kind.Needs direction key := by
  cases kind with
  | slice element | array length element | pointer element | map value =>
    constructor
    · intro h
      cases List.mem_singleton.1 h
      constructor
    · rintro ⟨⟩
      exact List.mem_singleton_self _
  | record fields =>
    constructor
    · intro h
      obtain ⟨f, hf, rfl⟩ := List.mem_map.1 h
      exact .field hf
    · rintro ⟨⟩
      exact List.mem_map.2 ⟨_, ‹_›, rfl⟩
  | func f => exact mem_funcDeps_iff
  | interface methods =>
    constructor
    · intro h
      obtain ⟨m, hm, h⟩ := List.mem_flatMap.1 h
      cases mem_funcDeps_iff.1 h with
      | param hp => exact .methodParam hm hp
      | result hr => exact .methodResult hm hr
    · intro h
      cases h with
      | methodParam hm hp => exact List.mem_flatMap.2 ⟨_, hm, mem_funcDeps_iff.2 (.param hp)⟩
      | methodResult hm hr => exact List.mem_flatMap.2 ⟨_, hm, mem_funcDeps_iff.2 (.result hr)⟩
  | chan chanDir element =>
    constructor
    · intro h
      rcases List.mem_append.1 h with h | h <;> split at h
      · cases List.mem_singleton.1 h
        exact .toScript ‹_›
      · cases h
      · cases List.mem_singleton.1 h
        exact .fromScript ‹_›
      · cases h
    · intro h
      cases h with
      | toScript hdir => exact List.mem_append_left _ (by simp [hdir])
      | fromScript hdir => exact List.mem_append_right _ (by simp [hdir])
  | scalar s | boxed reason =>
    constructor
    · intro h
      cases h
    · rintro ⟨⟩

/-! ### Ascending lists -/

theorem mem_insertSorted {n m : Nat} {ns : List Nat} : m ∈ insertSorted n ns ↔ m = n ∨ m ∈ ns := by
  induction ns with
  | nil => simp [insertSorted]
  | cons k ns ih =>
    rw [insertSorted]
    split
    · exact List.mem_cons
    · split
      · rename_i heq
        rw [heq, List.mem_cons]
        exact ⟨.inr, fun h => h.elim .inl id⟩
      · rw [List.mem_cons, ih, List.mem_cons]
        exact or_left_comm

theorem pairwise_insertSorted {n : Nat} {ns : List Nat} (h : ns.Pairwise (· < ·)) :
    (insertSorted n ns).Pairwise (· < ·) := by
  induction ns with
  | nil => exact List.pairwise_singleton _ _
  | cons k ns ih =>
    obtain ⟨hk, hns⟩ := List.pairwise_cons.1 h
    rw [insertSorted]
    split
    · rename_i hlt
      exact List.pairwise_cons.2
        ⟨List.forall_mem_cons.2 ⟨hlt, fun m hm => Nat.lt_trans hlt (hk m hm)⟩, h⟩
    · split
      · exact h
      · rename_i hlt hne
        refine List.pairwise_cons.2 ⟨fun m hm => ?_, ih hns⟩
        rcases mem_insertSorted.1 hm with rfl | hm
        · omega
        · exact hk m hm

/-! ### Entries -/

variable {g g' g'' : Generator} {e : ConverterEntry} {P P' : ConverterKey → Prop}

def keyOf? (g : Generator) (id : ConverterId) : Option ConverterKey := g.entries[id]?.map (·.key)

/-- The dependencies are the entries of the converters that the entry calls, ascending. -/
structure Wired (g : Generator) (e : ConverterEntry) : Prop where
  ascending : e.deps.Pairwise (· < ·)
  needed : ∀ id ∈ e.deps, ∃ key, g.keyOf? id = some key ∧ Needs g.kindOf? e.key key
  covered : ∀ key, Needs g.kindOf? e.key key → ∃ id ∈ e.deps, g.keyOf? id = some key

/-- An entry has its position as its id, and each converter has one entry. -/
structure Keyed (g : Generator) : Prop where
  ids : ∀ (id : ConverterId) e, g.entries[id]? = some e → e.id = id
  nodup : (g.entries.toList.map (·.key)).Nodup

/-- All entries that the first state lacks are made to the end in the second one, and are for
converters as `P` says. -/
structure Linked (P : ConverterKey → Prop) (g g' : Generator) : Prop where
  canon : g'.canon = g.canon
  rows : g'.rows = g.rows
  shapeOf : g'.shapeOf = g.shapeOf
  entries : ∀ (id : ConverterId) e, g.entries[id]? = some e → g'.entries[id]? = some e
  new : ∀ (id : ConverterId) e, g.entries.size ≤ id → g'.entries[id]? = some e →
    g'.Wired e ∧ P e.key

/-- All rules are there, and they refer to rows that are there. -/
def Complete (g : Generator) : Prop :=
  ∀ id < g.rows.size, ∃ kind, g.kindOf? id = some kind ∧ kind.Below g.rows.size

theorem kindOf?_congr (h : g'.rows = g.rows) : g'.kindOf? = g.kindOf? := by
  funext id
  rw [kindOf?, kindOf?, h]

theorem isInlineShape_eq_false_iff (hg : g.Complete) {id : ShapeId} (hid : id < g.rows.size) :
    g.isInlineShape id = false ↔ ∃ kind, g.kindOf? id = some kind ∧ kind.isInline = false := by
  obtain ⟨kind, hkind, _⟩ := hg id hid
  rw [isInlineShape, hkind]
  refine ⟨fun h => ⟨kind, rfl, h⟩, ?_⟩
  rintro ⟨_, ⟨⟩, h⟩
  exact h

/-- Once all rules are there, a converter calls those of its dependencies that are not inline. -/
theorem needs_iff_mem_dependencies (hg : g.Complete) {key key' : ConverterKey} {kind : ShapeKind}
    (hkind : g.kindOf? key.1 = some kind) (hbelow : kind.Below g.rows.size) :
    Needs g.kindOf? key key' ↔
      key' ∈ dependencies kind key.2 ∧ g.isInlineShape key'.1 = false := by
  constructor
  · rintro ⟨⟨kind', hkind', hneeds⟩, hout⟩
    cases hkind.symm.trans hkind'
    have hmem := mem_dependencies_iff.2 hneeds
    have hlt := hbelow _ (mem_refs_of_mem_dependencies hmem)
    exact ⟨hmem, (isInlineShape_eq_false_iff hg hlt).2 hout⟩
  · rintro ⟨hmem, hout⟩
    have hlt := hbelow _ (mem_refs_of_mem_dependencies hmem)
    exact ⟨⟨kind, hkind, mem_dependencies_iff.1 hmem⟩, (isInlineShape_eq_false_iff hg hlt).1 hout⟩

theorem Wired.mono (h : g.Wired e) (hkeys : ∀ id key, g.keyOf? id = some key →
    g'.keyOf? id = some key) (hrules : g'.kindOf? = g.kindOf?) : g'.Wired e where
  ascending := h.ascending
  needed id hid := by
    obtain ⟨key, hkey, hneeds⟩ := h.needed id hid
    exact ⟨key, hkeys id key hkey, hrules ▸ hneeds⟩
  covered key hkey := by
    obtain ⟨id, hid, hsome⟩ := h.covered key (hrules ▸ hkey)
    exact ⟨id, hid, hkeys id key hsome⟩

namespace Linked

theorem of_eq (hcanon : g'.canon = g.canon) (hrows : g'.rows = g.rows)
    (hshapeOf : g'.shapeOf = g.shapeOf) (hentries : g'.entries = g.entries) : Linked P g g' where
  canon := hcanon
  rows := hrows
  shapeOf := hshapeOf
  entries id e he := hentries ▸ he
  new id e hid he := by
    rw [hentries, Array.getElem?_eq_none hid] at he
    cases he

theorem refl (g : Generator) : Linked P g g := of_eq rfl rfl rfl rfl

theorem keyOf? (h : Linked P g g') {id : ConverterId} {key : ConverterKey}
    (hkey : g.keyOf? id = some key) : g'.keyOf? id = some key := by
  obtain ⟨e, he, rfl⟩ := Option.map_eq_some_iff.1 hkey
  exact Option.map_eq_some_iff.2 ⟨e, h.entries id e he, rfl⟩

theorem trans (h : Linked P g g') (h' : Linked P g' g'') : Linked P g g'' where
  canon := h'.canon.trans h.canon
  rows := h'.rows.trans h.rows
  shapeOf := h'.shapeOf.trans h.shapeOf
  entries id e he := h'.entries id e (h.entries id e he)
  new id e hid he := by
    rcases Nat.lt_or_ge id g'.entries.size with hlt | hge
    · have hold := Array.getElem?_eq_getElem hlt
      have heq := h'.entries id _ hold
      rw [he] at heq
      cases heq
      obtain ⟨hwired, hP⟩ := h.new id _ hid hold
      exact ⟨hwired.mono (fun _ _ => h'.keyOf?) (kindOf?_congr h'.rows), hP⟩
    · exact h'.new id e hge he

theorem weaken (h : Linked P g g') (hP : ∀ key, P key → P' key) : Linked P' g g' :=
  { h with new := fun id e hid he => ⟨(h.new id e hid he).1, hP _ (h.new id e hid he).2⟩ }

theorem complete (h : Linked P g g') (hg : g.Complete) : g'.Complete := by
  intro id hid
  rw [h.rows] at hid
  obtain ⟨kind, hkind, hbelow⟩ := hg id hid
  exact ⟨kind, by rw [kindOf?_congr h.rows, hkind], h.rows ▸ hbelow⟩

end Linked

theorem findEntry_eq_some {id : ConverterId} (h : g.findEntry key.1 key.2 = some id) :
    g.keyOf? id = some key := by
  obtain ⟨hlt, hkey, _⟩ := Array.findIdx?_eq_some_iff_getElem.1 h
  simp only [Bool.and_eq_true, decide_eq_true_eq] at hkey
  rw [keyOf?, Array.getElem?_eq_getElem hlt, Option.map_some, ConverterEntry.key, hkey.1, hkey.2]

theorem findEntry_eq_none (h : g.findEntry key.1 key.2 = none) :
    key ∉ g.entries.toList.map (·.key) := by
  intro hmem
  obtain ⟨e, he, rfl⟩ := List.mem_map.1 hmem
  have hnone := Array.findIdx?_eq_none_iff.1 h e (Array.mem_toList_iff.1 he)
  simp [ConverterEntry.key] at hnone

/-- The converters that have no entry yet. -/
def vacant (g : Generator) : Nat :=
  ((Finset.range g.rows.size ×ˢ {.toScript, .fromScript}) \
    (g.entries.toList.map (·.key)).toFinset).card

end Generator

/-! ### Steps -/

namespace GenM

open Generator (Linked Keyed Complete)

variable {α β : Type} {g : Generator} {P : ConverterKey → Prop} {Q : α → Generator → Prop}
  {Q' : β → Generator → Prop}

/-- Taken from `g`, the step makes all entries that it begins to make, for converters as `P` says,
and its answer is as `Q` says. -/
structure Enters (P : ConverterKey → Prop) (g : Generator) (m : GenM α)
    (Q : α → Generator → Prop) : Prop where
  keyed : (m g).2.Keyed
  linked : Linked P g (m g).2
  result : Q (m g).1 (m g).2

namespace Enters

theorem pure {a : α} (hg : g.Keyed) (h : Q a g) : Enters P g (Pure.pure a) Q :=
  ⟨hg, .refl g, h⟩

theorem bind {m : GenM α} {k : α → GenM β} (hm : Enters P g m Q)
    (hk : ∀ a g', g'.Keyed → Linked P g g' → Q a g' → Enters P g' (k a) Q') :
    Enters P g (m >>= k) Q' := by
  obtain ⟨hkeyed, hlinked, hresult⟩ := hm
  obtain ⟨hkeyed', hlinked', hresult'⟩ := hk (m g).1 (m g).2 hkeyed hlinked hresult
  exact ⟨hkeyed', hlinked.trans hlinked', hresult'⟩

theorem get {k : Generator → GenM β} (h : Enters P g (k g) Q') :
    Enters P g (MonadState.get >>= k) Q' :=
  ⟨h.keyed, h.linked, h.result⟩

theorem weaken {P' : ConverterKey → Prop} {m : GenM α} (h : Enters P g m Q)
    (hP : ∀ key, P key → P' key) : Enters P' g m Q :=
  ⟨h.keyed, h.linked.weaken hP, h.result⟩

end Enters
end GenM

namespace Generator

open GenM (Enters)

variable {g g' : Generator} {key : ConverterKey} {P : ConverterKey → Prop}

theorem vacant_le (g : Generator) : g.vacant ≤ 2 * g.rows.size := by
  refine (Finset.card_le_card Finset.sdiff_subset).trans ?_
  rw [Finset.card_product, Finset.card_range, Nat.mul_comm]
  exact Nat.mul_le_mul_right _ (Finset.card_insert_le _ _)

theorem mem_keys_iff : key ∈ g.entries.toList.map (·.key) ↔ ∃ id, g.keyOf? id = some key := by
  constructor
  · intro h
    obtain ⟨e, he, rfl⟩ := List.mem_map.1 h
    obtain ⟨id, hid⟩ := List.getElem?_of_mem he
    rw [Array.getElem?_toList] at hid
    exact ⟨id, Option.map_eq_some_iff.2 ⟨e, hid, rfl⟩⟩
  · rintro ⟨id, hid⟩
    obtain ⟨e, he, rfl⟩ := Option.map_eq_some_iff.1 hid
    exact List.mem_map_of_mem (Array.mem_toList_iff.2 (Array.mem_of_getElem? he))

theorem vacant_le_of_keyOf? (hrows : g'.rows = g.rows)
    (hkeys : ∀ id key, g.keyOf? id = some key → g'.keyOf? id = some key) :
    g'.vacant ≤ g.vacant := by
  rw [vacant, vacant, hrows]
  refine Finset.card_le_card (Finset.sdiff_subset_sdiff (Finset.Subset.refl _) fun key hkey => ?_)
  rw [List.mem_toFinset, mem_keys_iff] at hkey ⊢
  obtain ⟨id, hid⟩ := hkey
  exact ⟨id, hkeys id key hid⟩

theorem Linked.vacant_le (h : Linked P g g') : g'.vacant ≤ g.vacant :=
  vacant_le_of_keyOf? h.rows fun _ _ => h.keyOf?

/-! ### Reserving a place -/

section Reserve

variable (g) (shape : ShapeId) (direction : Direction)

theorem exists_reserveEntry : ∃ ident, (reserveEntry shape direction g).2.entries =
    g.entries.push ⟨g.entries.size, shape, direction, ident, none, []⟩ := ⟨_, rfl⟩

theorem keyOf?_reserveEntry (id : ConverterId) : (reserveEntry shape direction g).2.keyOf? id =
    if id = g.entries.size then some (shape, direction) else g.keyOf? id := by
  obtain ⟨ident, hentries⟩ := exists_reserveEntry g shape direction
  rw [keyOf?, hentries, Array.getElem?_push]
  split <;> rfl

variable {g shape direction}

theorem Keyed.reserveEntry (hg : g.Keyed)
    (hnew : (shape, direction) ∉ g.entries.toList.map (·.key)) :
    (reserveEntry shape direction g).2.Keyed := by
  obtain ⟨ident, hentries⟩ := exists_reserveEntry g shape direction
  refine ⟨fun id e he => ?_, ?_⟩
  · rw [hentries, Array.getElem?_push] at he
    split at he
    · cases he
      exact Eq.symm ‹_›
    · exact hg.ids id e he
  · rw [hentries, Array.toList_push, List.map_append]
    refine List.nodup_append.2 ⟨hg.nodup, List.nodup_singleton _, ?_⟩
    intro a ha b hb hab
    have hkey : a = (shape, direction) := hab.trans (List.mem_singleton.1 hb)
    exact hnew (hkey ▸ ha)

theorem vacant_reserveEntry (hshape : shape < g.rows.size)
    (hnew : (shape, direction) ∉ g.entries.toList.map (·.key)) :
    (reserveEntry shape direction g).2.vacant < g.vacant := by
  obtain ⟨ident, hentries⟩ := exists_reserveEntry g shape direction
  have hkeys : ((reserveEntry shape direction g).2.entries.toList.map (·.key)).toFinset =
      insert (shape, direction) (g.entries.toList.map (·.key)).toFinset := by
    ext key
    rw [hentries, Array.toList_push, List.map_append, List.mem_toFinset, List.mem_append,
      Finset.mem_insert, List.mem_toFinset, or_comm]
    exact or_congr List.mem_singleton Iff.rfl
  have hrows : (reserveEntry shape direction g).2.rows = g.rows := rfl
  have hdirection : direction ∈ ({.toScript, .fromScript} : Finset Direction) := by
    cases direction <;> decide
  rw [vacant, vacant, hkeys, hrows, Finset.sdiff_insert]
  refine Finset.card_erase_lt_of_mem (Finset.mem_sdiff.2 ⟨?_, fun hmem => ?_⟩)
  · exact Finset.mem_product.2 ⟨Finset.mem_range.2 hshape, hdirection⟩
  · exact hnew (List.mem_toFinset.1 hmem)

theorem getElem?_setDeps (id : ConverterId) (deps : List ConverterId) (i : ConverterId) :
    (g.setDeps id deps).entries[i]? =
      if i = id then (g.entries[i]?).map fun e => { e with deps := deps } else g.entries[i]? := by
  rw [setDeps, Array.getElem?_modify]
  by_cases h : i = id
  · rw [if_pos h.symm, if_pos h]
  · rw [if_neg fun h' => h h'.symm, if_neg h]

theorem keyOf?_setDeps (id : ConverterId) (deps : List ConverterId) (i : ConverterId) :
    (g.setDeps id deps).keyOf? i = g.keyOf? i := by
  rw [keyOf?, keyOf?, getElem?_setDeps]
  split
  · cases g.entries[i]? <;> rfl
  · rfl

theorem Keyed.setDeps (hg : g.Keyed) (id : ConverterId) (deps : List ConverterId) :
    (g.setDeps id deps).Keyed where
  ids i e he := by
    rw [getElem?_setDeps] at he
    split at he
    · obtain ⟨e', he', rfl⟩ := Option.map_eq_some_iff.1 he
      exact hg.ids i e' he'
    · exact hg.ids i e he
  nodup := by
    rw [map_entries_setDeps fun _ _ => rfl]
    exact hg.nodup

/-- From the state before a place was reserved to the state after the dependencies were entered. -/
theorem Linked.setDeps (h : Linked P (reserveEntry shape direction g).2 g')
    (hP : P (shape, direction)) {deps : List ConverterId} (hwired : ∀ e : ConverterEntry,
      e.key = (shape, direction) → e.deps = deps → g'.Wired e) :
    Linked P g (g'.setDeps g.entries.size deps) := by
  obtain ⟨ident, hentries⟩ := exists_reserveEntry g shape direction
  have hmono : ∀ {e : ConverterEntry}, g'.Wired e → (g'.setDeps g.entries.size deps).Wired e :=
    fun he => he.mono (fun id key hkey => by rw [keyOf?_setDeps, hkey]) rfl
  refine ⟨h.canon, h.rows, h.shapeOf, fun id e he => ?_, fun id e hid he => ?_⟩
  · have hlt : id < g.entries.size := (Array.getElem?_eq_some_iff.1 he).1
    rw [getElem?_setDeps, if_neg (Nat.ne_of_lt hlt)]
    refine h.entries id e ?_
    rw [hentries, Array.getElem?_push, if_neg (Nat.ne_of_lt hlt), he]
  · rw [getElem?_setDeps] at he
    split at he
    · rename_i heq
      have hold : (reserveEntry shape direction g).2.entries[id]? =
          some ⟨g.entries.size, shape, direction, ident, none, []⟩ := by
        rw [hentries, Array.getElem?_push, if_pos heq]
      rw [h.entries id _ hold] at he
      cases he
      exact ⟨hmono (hwired _ rfl rfl), hP⟩
    · rename_i hne
      obtain ⟨hnew, hkey⟩ := h.new id e (by
        rw [hentries, Array.size_push]
        exact Nat.lt_of_le_of_ne hid (Ne.symm hne)) he
      exact ⟨hmono hnew, hkey⟩

end Reserve

/-! ### Entries inside each other -/

theorem enters_entriesFor {entry : ShapeId → Direction → GenM ConverterId}
    {needed : List ConverterKey} : ∀ {g : Generator}, g.Keyed →
    (∀ key ∈ needed, ∀ g', g'.Keyed → Linked P g g' → g'.isInlineShape key.1 = false →
      Enters P g' (entry key.1 key.2) fun id g'' => g''.keyOf? id = some key) →
    ∀ found : List ConverterId, found.Pairwise (· < ·) →
    Enters P g (entriesFor entry needed found) fun deps g' =>
      deps.Pairwise (· < ·) ∧ (∀ id ∈ found, id ∈ deps) ∧
      (∀ id ∈ deps, id ∈ found ∨ ∃ key ∈ needed, g'.isInlineShape key.1 = false ∧
        g'.keyOf? id = some key) ∧
      ∀ key ∈ needed, g'.isInlineShape key.1 = false → ∃ id ∈ deps, g'.keyOf? id = some key := by
  induction needed with
  | nil =>
    intro g hg _ found hfound
    exact .pure hg ⟨hfound, fun _ h => h, fun _ h => .inl h, List.forall_mem_nil _⟩
  | cons key rest ih =>
    intro g hg hentry found hfound
    obtain ⟨hkey, hrest⟩ := List.forall_mem_cons.1 hentry
    have hinline : ∀ {g' : Generator}, Linked P g g' →
        g'.isInlineShape key.1 = g.isInlineShape key.1 := fun h => by
      rw [isInlineShape, isInlineShape, kindOf?_congr h.rows]
    rw [entriesFor]
    refine Enters.get ?_
    split
    · rename_i hin
      obtain ⟨hkeyed, hlinked, hsorted, hsub, hneeded, hcovered⟩ := ih hg hrest found hfound
      refine ⟨hkeyed, hlinked, hsorted, hsub, fun id hid => ?_, ?_⟩
      · refine (hneeded id hid).imp_right ?_
        rintro ⟨key, hkey, h⟩
        exact ⟨key, List.mem_cons_of_mem _ hkey, h⟩
      · refine List.forall_mem_cons.2 ⟨fun h => ?_, hcovered⟩
        rw [hinline hlinked, hin] at h
        cases h
    · rename_i hout
      have hout := Bool.eq_false_of_not_eq_true hout
      refine (hkey g hg (.refl g) hout).bind fun id g₂ hg₂ hlinked₂ hid => ?_
      obtain ⟨hkeyed, hlinked, hsorted, hsub, hneeded, hcovered⟩ := ih hg₂
        (fun key hkey g' hg' hlinked => hrest key hkey g' hg' (hlinked₂.trans hlinked))
        (insertSorted id found) (pairwise_insertSorted hfound)
      have hsome := hlinked.keyOf? hid
      refine ⟨hkeyed, hlinked, hsorted, fun i hi => hsub i (mem_insertSorted.2 (.inr hi)),
        fun i hi => ?_, ?_⟩
      · rcases hneeded i hi with hi | ⟨key', hkey', h⟩
        · rcases mem_insertSorted.1 hi with rfl | hi
          · refine .inr ⟨key, List.mem_cons_self, ?_, hsome⟩
            rw [hinline (hlinked₂.trans hlinked), hout]
          · exact .inl hi
        · exact .inr ⟨key', List.mem_cons_of_mem _ hkey', h⟩
      · exact List.forall_mem_cons.2
          ⟨fun _ => ⟨id, hsub id (mem_insertSorted.2 (.inl rfl)), hsome⟩, hcovered⟩

theorem enters_entryIn : ∀ (fuel : Nat) (key : ConverterKey) (g : Generator), g.Keyed →
    g.Complete → key.1 < g.rows.size → g.vacant < fuel →
    Enters (ReflTransGen (Needs g.kindOf?) key) g (entryIn fuel key.1 key.2) fun id g' =>
      g'.keyOf? id = some key := by
  intro fuel
  induction fuel with
  | zero => exact fun key g _ _ _ hfuel => absurd hfuel (Nat.not_lt_zero _)
  | succ fuel ih =>
    intro key g hg hcomplete hshape hfuel
    rw [entryIn]
    refine Enters.get ?_
    cases hfind : g.findEntry key.1 key.2 with
    | some id => exact .pure hg (findEntry_eq_some hfind)
    | none =>
      have hnew := findEntry_eq_none hfind
      have hg₁ := hg.reserveEntry hnew
      have hfree := vacant_reserveEntry hshape hnew
      obtain ⟨kind, hkind, hbelow⟩ := hcomplete key.1 hshape
      -- entering leaves the rules as they are
      have hneeds_iff : ∀ {g' key'}, Linked (ReflTransGen (Needs g.kindOf?) key)
          (reserveEntry key.1 key.2 g).2 g' → (Needs g'.kindOf? key key' ↔
            key' ∈ dependencies kind key.2 ∧ g'.isInlineShape key'.1 = false) :=
        fun {g' key'} hlinked => needs_iff_mem_dependencies (hlinked.complete hcomplete)
          ((congrFun (kindOf?_congr hlinked.rows) key.1).trans hkind) (hlinked.rows ▸ hbelow)
      have hentry : ∀ key' ∈ dependencies kind key.2, ∀ g', g'.Keyed →
          Linked (ReflTransGen (Needs g.kindOf?) key) (reserveEntry key.1 key.2 g).2 g' →
          g'.isInlineShape key'.1 = false →
          Enters (ReflTransGen (Needs g.kindOf?) key) g' (entryIn fuel key'.1 key'.2) fun id g'' =>
            g''.keyOf? id = some key' := by
        intro key' hkey' g' hg' hlinked hout
        have hrules : g'.kindOf? = g.kindOf? := kindOf?_congr hlinked.rows
        have hstep := (hneeds_iff hlinked).2 ⟨hkey', hout⟩
        have hlt : key'.1 < g'.rows.size := by
          rw [hlinked.rows]
          exact hbelow _ (mem_refs_of_mem_dependencies hkey')
        have hfuel' : g'.vacant < fuel := by
          have := hlinked.vacant_le
          omega
        refine (ih key' g' hg' (hlinked.complete hcomplete) hlt hfuel').weaken fun key'' h => ?_
        rw [hrules] at h hstep
        exact .head hstep h
      rw [hkind]
      obtain ⟨hg₂, hlinked, hsorted, _, hneeded, hcovered⟩ :=
        enters_entriesFor hg₁ hentry [] .nil
      refine ⟨hg₂.setDeps _ _, hlinked.setDeps .refl fun e hekey hedeps => ⟨?_, ?_, ?_⟩, ?_⟩
      · exact hedeps ▸ hsorted
      · intro id hid
        rcases hneeded id (hedeps ▸ hid) with h | ⟨key', hkey', hout, hsome⟩
        · cases h
        · exact ⟨key', hsome, hekey.symm ▸ (hneeds_iff hlinked).2 ⟨hkey', hout⟩⟩
      · intro key' hneeds
        obtain ⟨hmem, hout⟩ := (hneeds_iff hlinked).1 (hekey ▸ hneeds)
        exact hedeps.symm ▸ hcovered key' hmem hout
      · have hid : (reserveEntry key.1 key.2 g).2.keyOf? g.entries.size = some key := by
          rw [keyOf?_reserveEntry, if_pos rfl]
        exact (keyOf?_setDeps _ _ _).trans (hlinked.keyOf? hid)

theorem enters_entryFor (key : ConverterKey) (hg : g.Keyed) (hcomplete : g.Complete)
    (hshape : key.1 < g.rows.size) :
    Enters (ReflTransGen (Needs g.kindOf?) key) g (entryFor key.1 key.2) fun id g' =>
      g'.keyOf? id = some key :=
  Enters.get (enters_entryIn _ key g hg hcomplete hshape (Nat.lt_succ_of_le g.vacant_le))

end Generator
end ScriptBind
