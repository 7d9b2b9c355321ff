import Mathlib.Data.Finset.Card
import ScriptBind.Proofs.Binding.Invariant
import ScriptBind.Proofs.Canon.Sessions

/-!
# ScriptBind.Proofs.Binding.Rows

The table of shapes, while some of them are being made.

* `Session.Barred` - the structure of a type alone forbids a rule for it.
* `Session.Unconvertible` - that of the type or of a field forbids it.
* `Session.Keeps` - a later session in which each type is what it was.
* `Generator.Justified` - why the rule of a type is a box, or why it is not.
* `Generator.Tabled` - each row is the shape of one canonical type, and its rule is justified.
* `Generator.Made` - a later state in which all further shapes are made to the end.
* `GenM.Builds` - a step that leads to such a state.
-/

namespace ScriptBind

open Relation (ReflTransGen)

/-! ### Canonical types inside each other -/

/-- The types whose shapes a rule for the kind needs. The key of a map needs none. -/
def CanonKind.inner : CanonKind → List CanonId
  | .map _ value => [value]
  | kind => kind.refs

/-- The types of the fields of a struct. -/
def CanonKind.fieldTypes : CanonKind → List CanonId
  | .struct _ fields => fields.map (·.2)
  | _ => []

theorem CanonKind.inner_subset (kind : CanonKind) : kind.inner ⊆ kind.refs := by
  cases kind with
  | map key value => exact List.subset_cons_self key [value]
  | _ => exact List.Subset.refl _

theorem CanonKind.fieldTypes_subset (kind : CanonKind) : kind.fieldTypes ⊆ kind.inner := by
  cases kind with
  | struct aliasName fields => exact List.Subset.refl _
  | _ => exact List.nil_subset _

namespace Session

variable {s : Session} {c d : CanonId}

/-- The kind of a type once its name is looked through. -/
def structure? (s : Session) (c : CanonId) : Option CanonKind := s.kind? (s.structural c)

def Contains (s : Session) (c d : CanonId) : Prop :=
  ∃ kind, s.structure? c = some kind ∧ d ∈ kind.inner

def HasField (s : Session) (c d : CanonId) : Prop :=
  ∃ kind, s.structure? c = some kind ∧ d ∈ kind.fieldTypes

theorem HasField.contains (h : s.HasField c d) : s.Contains c d := by
  obtain ⟨kind, hkind, hd⟩ := h
  exact ⟨kind, hkind, kind.fieldTypes_subset hd⟩

/-- The last parameter is a slice, perhaps under a name. -/
def EndsInSlice (s : Session) (params : List CanonId) : Prop :=
  ∃ last element, params.getLast? = some last ∧ s.structure? last = some (.slice element)

/-- A function with type parameters, or that collects arguments otherwise than in a slice. -/
def BarredFunc (s : Session) (f : CanonFunc) : Prop :=
  f.typeParams ≠ [] ∨ f.variadic = true ∧ ¬ s.EndsInSlice f.params

/-- No rule is possible for this kind, whatever its parts are. -/
def Barred (s : Session) : Option CanonKind → Prop
  | none => True
  | some (.complex _) => True
  | some .unsafePointer => True
  | some (.typeParam _) => True
  | some (.named _ _) => True
  | some (.map key _) => s.structure? key ≠ some .string
  | some (.func f) => s.BarredFunc f
  | some (.interface methods) => ∃ m ∈ methods, s.BarredFunc m.func
  | some _ => False

/-- No rule is possible for the type, because of itself or because of a field, at any depth. -/
inductive Unconvertible (s : Session) : CanonId → Prop
  | barred {c : CanonId} : s.Barred (s.structure? c) → Unconvertible s c
  | field {c d : CanonId} : s.HasField c d → Unconvertible s d → Unconvertible s c

/-- References stay in the table. -/
structure Bounded (s : Session) : Prop where
  interned : s.Interned
  underlying : ∀ id name u, s.kind? id = some (.named name (some u)) → u < s.size

theorem Valid.bounded {g : TypeGraph} (h : s.Valid g) : s.Bounded :=
  ⟨h.interned, fun id name u hid => (h.underlying id name u hid).lt_size⟩

theorem Bounded.structural_lt (h : s.Bounded) (hc : c < s.size) : s.structural c < s.size := by
  rw [structural]
  split
  · rename_i name u hkind
    exact h.underlying c name u hkind
  · exact hc

theorem lt_size_of_structure? {kind : CanonKind} (h : s.structure? c = some kind) : c < s.size := by
  by_contra hge
  have hnone : s.kind? c = none := Array.getElem?_eq_none (Nat.le_of_not_lt hge)
  rw [structure?, structural, hnone] at h
  cases h.symm.trans hnone

theorem Bounded.lt_size (h : s.Bounded) (hd : s.Contains c d) : d < s.size := by
  obtain ⟨kind, hkind, hd⟩ := hd
  exact h.interned.refs_lt_size hkind _ (kind.inner_subset hd)

/-- Each type is what it was. -/
def Keeps (s s' : Session) : Prop := ∀ id kind, s.kind? id = some kind → s'.kind? id = some kind

theorem keeps_normalize (g : TypeGraph) (type : TypeId) (s : Session) :
    s.Keeps (normalize g type s).2 :=
  fun id kind h => (stable_kind? id kind).normalize g type s h

namespace Keeps

variable {s' : Session} (h : s.Keeps s')

include h

theorem structural_eq (hc : c < s.size) : s'.structural c = s.structural c := by
  obtain ⟨kind, hkind⟩ := exists_kind? hc
  rw [structural, structural, hkind, h c kind hkind]

theorem structure?_eq (hs : s.Bounded) (hc : c < s.size) : s'.structure? c = s.structure? c := by
  obtain ⟨kind, hkind⟩ := exists_kind? (hs.structural_lt hc)
  rw [structure?, structure?, h.structural_eq hc, hkind, h _ kind hkind]

theorem contains (hs : s.Bounded) (hd : s.Contains c d) : s'.Contains c d := by
  obtain ⟨kind, hkind, hmem⟩ := hd
  exact ⟨kind, (h.structure?_eq hs (lt_size_of_structure? hkind)).trans hkind, hmem⟩

theorem endsInSlice_iff (hs : s.Bounded) {params : List CanonId}
    (hparams : ∀ p ∈ params, p < s.size) : s'.EndsInSlice params ↔ s.EndsInSlice params := by
  refine exists_congr fun last => exists_congr fun element => and_congr_right fun hlast => ?_
  rw [h.structure?_eq hs (hparams last (List.mem_of_getLast? hlast))]

theorem barredFunc_iff (hs : s.Bounded) {f : CanonFunc} (hf : ∀ r ∈ f.refs, r < s.size) :
    s'.BarredFunc f ↔ s.BarredFunc f := by
  have hends := h.endsInSlice_iff hs fun p hp => hf p (List.mem_append_left _ hp)
  exact or_congr Iff.rfl (and_congr_right fun _ => not_congr hends)

theorem barred_iff (hs : s.Bounded) (hc : c < s.size) :
    s'.Barred (s'.structure? c) ↔ s.Barred (s.structure? c) := by
  rw [h.structure?_eq hs hc]
  cases hkind : s.structure? c with
  | none => exact Iff.rfl
  | some kind =>
    have hrefs := hs.interned.refs_lt_size hkind
    cases kind with
    | map key value =>
      show s'.structure? key ≠ _ ↔ s.structure? key ≠ _
      rw [h.structure?_eq hs (hrefs key List.mem_cons_self)]
    | func f => exact h.barredFunc_iff hs hrefs
    | interface methods =>
      refine exists_congr fun m => and_congr_right fun hm => ?_
      exact h.barredFunc_iff hs fun r hr => hrefs r (List.mem_flatMap.2 ⟨m, hm, hr⟩)
    | _ => exact Iff.rfl

theorem hasField_iff (hs : s.Bounded) (hc : c < s.size) : s'.HasField c d ↔ s.HasField c d := by
  rw [HasField, HasField, h.structure?_eq hs hc]

theorem unconvertible (hs : s.Bounded) (hc : c < s.size) (hu : s.Unconvertible c) :
    s'.Unconvertible c := by
  induction hu with
  | barred hbarred => exact .barred ((h.barred_iff hs hc).2 hbarred)
  | field hd _ ih => exact .field ((h.hasField_iff hs hc).2 hd) (ih (hs.lt_size hd.contains))

end Keeps

end Session

namespace Generator

variable {g g' g'' : Generator} {c d : CanonId} {kind : ShapeKind}

/-! ### Rows and types -/

/-- The type has this rule. -/
def HasRule (g : Generator) (c : CanonId) (kind : ShapeKind) : Prop :=
  ∃ id, (c, id) ∈ g.shapeOf ∧ g.kindOf? id = some kind

/-- The shape of the type is being made. -/
def Pending (g : Generator) (c : CanonId) : Prop :=
  ∃ id, (c, id) ∈ g.shapeOf ∧ g.kindOf? id = none

/-- A type is boxed only if no rule is possible for it; otherwise each of its fields has a rule that
is not a box, or is of a type that the struct is a part of. -/
structure Justified (g : Generator) (c : CanonId) (kind : ShapeKind) : Prop where
  boxed : kind.isBoxed = true → g.canon.Unconvertible c
  unboxed : kind.isBoxed = false → ¬ g.canon.Barred (g.canon.structure? c) ∧
    ∀ d, g.canon.HasField c d → (∃ rule, g.HasRule d rule ∧ rule.isBoxed = false) ∨
      ReflTransGen g.canon.Contains d c
  record : ∀ fields, kind = .record fields → ∀ f ∈ fields, ∃ d, g.canon.HasField c d ∧
    (d, f.shape) ∈ g.shapeOf

/-- No row and no rule is lost. -/
structure Later (g g' : Generator) : Prop where
  canon : g'.canon = g.canon
  shapeOf : ∀ p ∈ g.shapeOf, p ∈ g'.shapeOf
  rules : ∀ id kind, g.kindOf? id = some kind → g'.kindOf? id = some kind

theorem HasRule.mono (h : g.HasRule c kind) (hlater : g.Later g') : g'.HasRule c kind := by
  obtain ⟨id, hid, hkind⟩ := h
  exact ⟨id, hlater.shapeOf _ hid, hlater.rules _ _ hkind⟩

theorem Justified.mono (h : g.Justified c kind) (hlater : g.Later g') : g'.Justified c kind where
  boxed hkind := by
    rw [hlater.canon]
    exact h.boxed hkind
  unboxed hkind := by
    rw [hlater.canon]
    refine ⟨(h.unboxed hkind).1, fun d hd => ((h.unboxed hkind).2 d hd).imp_left ?_⟩
    rintro ⟨rule, hrule, hopen⟩
    exact ⟨rule, hrule.mono hlater, hopen⟩
  record fields hfields f hf := by
    rw [hlater.canon]
    obtain ⟨d, hd, hshape⟩ := h.record fields hfields f hf
    exact ⟨d, hd, hlater.shapeOf _ hshape⟩

/-- Each row is the shape of one canonical type of the session, and its rule is justified. -/
structure Tabled (g : Generator) : Prop where
  canon : g.canon.Bounded
  types : ∀ p ∈ g.shapeOf, p.1 < g.canon.size
  nodup : (g.shapeOf.map (·.1)).Nodup
  ids : g.shapeOf.map (·.2) = (List.range g.rows.size).reverse
  justified : ∀ p ∈ g.shapeOf, ∀ kind, g.kindOf? p.2 = some kind → g.Justified p.1 kind

/-- All shapes that the first state lacks are made to the end in the second one. -/
structure Made (g g' : Generator) : Prop where
  canon : g'.canon = g.canon
  entries : g'.entries = g.entries
  shapeOf : ∀ p ∈ g.shapeOf, p ∈ g'.shapeOf
  rows : ∀ (id : ShapeId) row, g.rows[id]? = some row → g'.rows[id]? = some row
  new : ∀ id, g.rows.size ≤ id → id < g'.rows.size → ∃ kind, g'.kindOf? id = some kind

theorem kindOf?_eq (g : Generator) (id : ShapeId) : g.kindOf? id = g.rows[id]?.bind (·.kind) := by
  rw [kindOf?]
  cases g.rows[id]? <;> rfl

/-- The rules that stand in rows that are kept. -/
theorem kindOf?_of_rows
    (hrows : ∀ (id : ShapeId) row, g.rows[id]? = some row → g'.rows[id]? = some row)
    {id : ShapeId} (hkind : g.kindOf? id = some kind) : g'.kindOf? id = some kind := by
  rw [kindOf?_eq] at hkind ⊢
  obtain ⟨row, hrow, hkind⟩ := Option.bind_eq_some_iff.1 hkind
  exact Option.bind_eq_some_iff.2 ⟨row, hrows id row hrow, hkind⟩

namespace Tabled

variable (h : g.Tabled)

include h

theorem lt_size {id : ShapeId} (hid : (c, id) ∈ g.shapeOf) : id < g.rows.size := by
  have hmem : id ∈ g.shapeOf.map (·.2) := List.mem_map_of_mem hid
  rw [h.ids] at hmem
  simpa using hmem

theorem exists_type {id : ShapeId} (hid : id < g.rows.size) : ∃ c, (c, id) ∈ g.shapeOf := by
  have hmem : id ∈ g.shapeOf.map (·.2) := by
    rw [h.ids]
    simpa using hid
  obtain ⟨p, hp, rfl⟩ := List.mem_map.1 hmem
  exact ⟨p.1, hp⟩

theorem type_unique {id : ShapeId} (hc : (c, id) ∈ g.shapeOf) (hd : (d, id) ∈ g.shapeOf) :
    c = d := by
  have hnodup : (g.shapeOf.map (·.2)).Nodup := by
    rw [h.ids]
    exact List.nodup_reverse.2 List.nodup_range
  exact (Prod.mk.inj (List.inj_on_of_nodup_map hnodup hc hd rfl)).1

theorem shape_unique {id id' : ShapeId} (hid : (c, id) ∈ g.shapeOf) (hid' : (c, id') ∈ g.shapeOf) :
    id = id' :=
  (Prod.mk.inj (List.inj_on_of_nodup_map h.nodup hid hid' rfl)).2

/-- After a change to other parts of the state. -/
theorem of_eq (hcanon : g'.canon = g.canon) (hrows : g'.rows = g.rows)
    (hshapeOf : g'.shapeOf = g.shapeOf) : g'.Tabled where
  canon := hcanon ▸ h.canon
  types := by
    rw [hcanon, hshapeOf]
    exact h.types
  nodup := hshapeOf ▸ h.nodup
  ids := by
    rw [hrows, hshapeOf]
    exact h.ids
  justified p hp kind hkind := by
    have hlater : g.Later g' := ⟨hcanon, fun p hp => hshapeOf ▸ hp, fun id kind hkind => by
      rw [kindOf?_eq, hrows, ← kindOf?_eq]
      exact hkind⟩
    rw [kindOf?_eq, hrows, ← kindOf?_eq] at hkind
    exact (h.justified p (hshapeOf ▸ hp) kind hkind).mono hlater

end Tabled

/-- After a change of the session only. -/
theorem Tabled.of_keeps (h : g.Tabled) (hbounded : g'.canon.Bounded)
    (hsize : g.canon.size ≤ g'.canon.size) (hkeeps : g.canon.Keeps g'.canon)
    (hrows : g'.rows = g.rows) (hshapeOf : g'.shapeOf = g.shapeOf) : g'.Tabled where
  canon := hbounded
  types p hp := Nat.lt_of_lt_of_le (h.types p (hshapeOf ▸ hp)) hsize
  nodup := hshapeOf ▸ h.nodup
  ids := by
    rw [hrows, hshapeOf]
    exact h.ids
  justified p hp kind hkind := by
    have hrule : ∀ {d rule}, g.HasRule d rule → g'.HasRule d rule := by
      rintro d rule ⟨id, hid, hrule⟩
      refine ⟨id, hshapeOf ▸ hid, ?_⟩
      rw [kindOf?_eq, hrows, ← kindOf?_eq]
      exact hrule
    rw [hshapeOf] at hp
    rw [kindOf?_eq, hrows, ← kindOf?_eq] at hkind
    have hlt := h.types p hp
    have hfield : ∀ d, g'.canon.HasField p.1 d ↔ g.canon.HasField p.1 d :=
      fun d => hkeeps.hasField_iff h.canon hlt
    obtain ⟨hboxed, hunboxed, hrecord⟩ := h.justified p hp kind hkind
    refine ⟨fun hk => ?_, fun hk => ⟨?_, fun d hd => ?_⟩, fun fields hfields f hf => ?_⟩
    · exact hkeeps.unconvertible h.canon hlt (hboxed hk)
    · exact fun hbarred => (hunboxed hk).1 ((hkeeps.barred_iff h.canon hlt).1 hbarred)
    · rcases (hunboxed hk).2 d ((hfield d).1 hd) with ⟨rule, hr, hopen⟩ | hback
      · exact .inl ⟨rule, hrule hr, hopen⟩
      · exact .inr (hback.lift id fun _ _ => hkeeps.contains h.canon)
    · obtain ⟨d, hd, hshape⟩ := hrecord fields hfields f hf
      exact ⟨d, (hfield d).2 hd, hshapeOf ▸ hshape⟩

namespace Made

theorem of_eq (hcanon : g'.canon = g.canon) (hentries : g'.entries = g.entries)
    (hrows : g'.rows = g.rows) (hshapeOf : g'.shapeOf = g.shapeOf) : g.Made g' where
  canon := hcanon
  entries := hentries
  shapeOf _ hp := hshapeOf ▸ hp
  rows _ _ hrow := hrows ▸ hrow
  new _ hid hid' := absurd (hrows ▸ hid') (Nat.not_lt_of_le hid)

theorem refl (g : Generator) : g.Made g := of_eq rfl rfl rfl rfl

theorem later (h : g.Made g') : g.Later g' where
  canon := h.canon
  shapeOf := h.shapeOf
  rules _ _ := kindOf?_of_rows h.rows

theorem kindOf?_eq_of_lt (h : g.Made g') {id : ShapeId} (hid : id < g.rows.size) :
    g'.kindOf? id = g.kindOf? id := by
  obtain ⟨row, hrow⟩ : ∃ row, g.rows[id]? = some row := ⟨_, Array.getElem?_eq_getElem hid⟩
  rw [kindOf?_eq, kindOf?_eq, hrow, h.rows id row hrow]

theorem size_le (h : g.Made g') : g.rows.size ≤ g'.rows.size := by
  by_contra hlt
  have hlt := Nat.lt_of_not_le hlt
  have hrow := h.rows g'.rows.size _ (Array.getElem?_eq_getElem hlt)
  rw [Array.getElem?_eq_none (Nat.le_refl _)] at hrow
  cases hrow

theorem trans (h : g.Made g') (h' : g'.Made g'') : g.Made g'' where
  canon := h'.canon.trans h.canon
  entries := h'.entries.trans h.entries
  shapeOf p hp := h'.shapeOf p (h.shapeOf p hp)
  rows id row hrow := h'.rows id row (h.rows id row hrow)
  new id hid hid' := by
    rcases Nat.lt_or_ge id g'.rows.size with hlt | hge
    · obtain ⟨kind, hkind⟩ := h.new id hid hlt
      exact ⟨kind, h'.later.rules id kind hkind⟩
    · exact h'.new id hge hid'

theorem pending (h : g.Made g') (hg : g.Tabled) (hg' : g'.Tabled) (hc : g'.Pending c) :
    g.Pending c := by
  obtain ⟨id, hid, hnone⟩ := hc
  have hlt : id < g.rows.size := by
    by_contra hge
    obtain ⟨kind, hkind⟩ := h.new id (Nat.le_of_not_lt hge) (hg'.lt_size hid)
    rw [hnone] at hkind
    cases hkind
  obtain ⟨d, hd⟩ := hg.exists_type hlt
  rw [hg'.type_unique hid (h.shapeOf _ hd)]
  exact ⟨id, hd, (h.kindOf?_eq_of_lt hlt).symm.trans hnone⟩

end Made

/-- The number of canonical types that have no shape yet. -/
def free (g : Generator) : Nat :=
  (Finset.range g.canon.size \ (g.shapeOf.map (·.1)).toFinset).card

theorem free_le (g : Generator) : g.free ≤ g.canon.size :=
  (Finset.card_le_card Finset.sdiff_subset).trans_eq (Finset.card_range _)

theorem free_le_of_mem (hcanon : g'.canon = g.canon) (hshapeOf : ∀ p ∈ g.shapeOf, p ∈ g'.shapeOf) :
    g'.free ≤ g.free := by
  rw [free, free, hcanon]
  refine Finset.card_le_card (Finset.sdiff_subset_sdiff (Finset.Subset.refl _) fun c hc => ?_)
  rw [List.mem_toFinset] at hc ⊢
  obtain ⟨p, hp, rfl⟩ := List.mem_map.1 hc
  exact List.mem_map_of_mem (hshapeOf p hp)

theorem Made.free_le (h : g.Made g') : g'.free ≤ g.free := free_le_of_mem h.canon h.shapeOf

end Generator

/-! ### Steps -/

namespace GenM

variable {α β : Type} {g : Generator} {Q : α → Generator → Prop} {Q' : β → Generator → Prop}

/-- Taken from `g`, the step makes all shapes that it begins to make, and its answer is as `Q`
says. -/
structure Builds (g : Generator) (m : GenM α) (Q : α → Generator → Prop) : Prop where
  tabled : (m g).2.Tabled
  made : g.Made (m g).2
  result : Q (m g).1 (m g).2

namespace Builds

theorem pure {a : α} (hg : g.Tabled) (h : Q a g) : Builds g (Pure.pure a) Q := ⟨hg, .refl g, h⟩

theorem bind {m : GenM α} {k : α → GenM β} (hm : Builds g m Q)
    (hk : ∀ a g', g'.Tabled → g.Made g' → Q a g' → Builds g' (k a) Q') :
    Builds g (m >>= k) Q' := by
  obtain ⟨htabled, hmade, hresult⟩ := hm
  obtain ⟨htabled', hmade', hresult'⟩ := hk (m g).1 (m g).2 htabled hmade hresult
  exact ⟨htabled', hmade.trans hmade', hresult'⟩

theorem get {k : Generator → GenM β} (h : Builds g (k g) Q') :
    Builds g (MonadState.get >>= k) Q' :=
  ⟨h.tabled, h.made, h.result⟩

theorem ite {p : Prop} [Decidable p] {m m' : GenM α} (hm : p → Builds g m Q)
    (hm' : ¬ p → Builds g m' Q) : Builds g (if p then m else m') Q := by
  split
  · exact hm ‹_›
  · exact hm' ‹_›

/-- A change that leaves the shapes alone. -/
theorem modify {f : Generator → Generator} (hg : g.Tabled) (hcanon : (f g).canon = g.canon)
    (hentries : (f g).entries = g.entries) (hrows : (f g).rows = g.rows)
    (hshapeOf : (f g).shapeOf = g.shapeOf) :
    Builds g (modify f) fun _ g' => g' = f g :=
  ⟨hg.of_eq hcanon hrows hshapeOf, .of_eq hcanon hentries hrows hshapeOf, rfl⟩

theorem mapM {f : α → GenM β} {xs : List α} (hg : g.Tabled)
    (hf : ∀ x ∈ xs, ∀ g', g'.Tabled → g.Made g' → Builds g' (f x) fun _ _ => True) :
    Builds g (xs.mapM f) fun _ _ => True := by
  induction xs generalizing g with
  | nil => exact .pure hg trivial
  | cons x xs ih =>
    rw [List.mapM_cons]
    refine (hf x List.mem_cons_self g hg (.refl g)).bind fun y g₁ hg₁ hmade₁ _ => ?_
    have hrest := ih hg₁ fun x' hx' g' hg' hmade =>
      hf x' (List.mem_cons_of_mem _ hx') g' hg' (hmade₁.trans hmade)
    exact hrest.bind fun ys g₂ hg₂ _ _ => .pure hg₂ trivial

end Builds
end GenM

end ScriptBind
