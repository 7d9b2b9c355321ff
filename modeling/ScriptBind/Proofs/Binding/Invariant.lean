import ScriptBind.Proofs.Binding.Ident
import ScriptBind.Proofs.Canon.Aliases

/-!
# ScriptBind.Proofs.Binding.Invariant

What holds of a generator at every point of a run.

* `Generator.Sound` - positions are in range, identifiers are distinct, and structs are named.
* `GenM.Makes` - a step that keeps this and never drops a row, with a claim about its answer that
  may refer to the number of rows.
* `Generator.makes_shapeIn`, `Generator.makes_entryIn` - making shapes and entries, by induction on
  the bound.
* `Generator.makes_requests` - a whole run.
-/

namespace ScriptBind

/-- The shapes that a rule refers to. -/
def ShapeKind.refs : ShapeKind → List ShapeId
  | .scalar _ => []
  | .slice element => [element]
  | .array _ element => [element]
  | .map value => [value]
  | .pointer element => [element]
  | .func f => f.params ++ f.results
  | .chan _ element => [element]
  | .interface methods => methods.flatMap fun m => m.func.params ++ m.func.results
  | .record fields => fields.map (·.shape)
  | .boxed _ => []

/-- Refers to positions below `n` only. -/
def ShapeKind.Below (kind : ShapeKind) (n : Nat) : Prop := ∀ id ∈ kind.refs, id < n

theorem ShapeKind.Below.mono {kind : ShapeKind} {m n : Nat} (h : kind.Below m) (hn : m ≤ n) :
    kind.Below n := fun id hid => Nat.lt_of_lt_of_le (h id hid) hn

namespace Generator

/-- Positions point into the table, and each generated function has a name of its own. -/
structure Sound (g : Generator) : Prop where
  shapeOf : ∀ p ∈ g.shapeOf, p.2 < g.rows.size
  rows : ∀ row ∈ g.rows, ∀ kind, row.kind = some kind → kind.Below g.rows.size
  entries : ∀ id ∈ g.entries.toList.map (·.shape), id < g.rows.size
  idents : (g.entries.toList.map (·.ident)).Nodup
  canon : g.canon.NamesStructs

theorem sound_empty : empty.Sound where
  shapeOf p hp := by simp [empty] at hp
  rows row hrow := by simp [empty] at hrow
  entries id hid := by simp [empty] at hid
  idents := by simp [empty]
  canon := Session.namesStructs_empty

theorem Sound.below_of_kindOf? {g : Generator} (h : g.Sound) {id : ShapeId} {kind : ShapeKind}
    (hkind : g.kindOf? id = some kind) : kind.Below g.rows.size := by
  rw [kindOf?] at hkind
  split at hkind
  · rename_i row hrow
    exact h.rows row (Array.mem_of_getElem? hrow) kind hkind
  · cases hkind

end Generator

/-! ### Steps -/

namespace GenM

variable {α β : Type}

/-- From a sound state with at least `n` rows, the step keeps the state sound, drops no row, and
its answer is right for the number of rows that it leaves. -/
def Makes (n : Nat) (m : GenM α) (Q : α → Nat → Prop) : Prop :=
  ∀ g : Generator, g.Sound → n ≤ g.rows.size →
    (m g).2.Sound ∧ g.rows.size ≤ (m g).2.rows.size ∧ Q (m g).1 (m g).2.rows.size

namespace Makes

variable {n : Nat} {Q : α → Nat → Prop} {Q' : β → Nat → Prop}

theorem pure {a : α} (h : ∀ k, n ≤ k → Q a k) : Makes n (Pure.pure a) Q :=
  fun _ hg hn => ⟨hg, Nat.le_refl _, h _ hn⟩

theorem bind {m : GenM α} {k : α → GenM β} (hm : Makes n m Q)
    (hk : ∀ a n', n ≤ n' → Q a n' → Makes n' (k a) Q') : Makes n (m >>= k) Q' := by
  intro g hg hn
  obtain ⟨hs, hle, hQ⟩ := hm g hg hn
  obtain ⟨hs', hle', hQ'⟩ := hk (m g).1 _ (Nat.le_trans hn hle) hQ (m g).2 hs (Nat.le_refl _)
  exact ⟨hs', Nat.le_trans hle hle', hQ'⟩

theorem get {k : Generator → GenM β}
    (hk : ∀ g, g.Sound → n ≤ g.rows.size → Makes g.rows.size (k g) Q') :
    Makes n (MonadState.get >>= k) Q' :=
  fun g hg hn => hk g hg hn g hg (Nat.le_refl _)

theorem modify {f : Generator → Generator}
    (hf : ∀ g, g.Sound → n ≤ g.rows.size → (f g).Sound ∧ g.rows.size ≤ (f g).rows.size) :
    Makes n (modify f) fun _ _ => True :=
  fun g hg hn => ⟨(hf g hg hn).1, (hf g hg hn).2, trivial⟩

theorem ite {p : Prop} [Decidable p] {m m' : GenM α} (hm : p → Makes n m Q)
    (hm' : ¬p → Makes n m' Q) : Makes n (if p then m else m') Q := by
  split
  · exact hm ‹_›
  · exact hm' ‹_›

/-- Positions stay in range, since rows are only added. -/
theorem mapM {f : α → GenM ShapeId} {items : List α} :
    ∀ {n : Nat}, (∀ x ∈ items, ∀ k, n ≤ k → Makes k (f x) (· < ·)) →
      Makes n (items.mapM f) fun ids s => ∀ id ∈ ids, id < s := by
  induction items with
  | nil =>
    intro n hf
    exact .pure fun k _ => by simp
  | cons x rest ih =>
    intro n hf
    rw [List.mapM_cons]
    refine (hf x (by simp) n (Nat.le_refl n)).bind fun id n₁ hn₁ hid => ?_
    refine (ih fun y hy k hk => hf y (by simp [hy]) k (Nat.le_trans hn₁ hk)).bind
      fun ids n₂ hn₂ hids => .pure fun k hk => ?_
    intro r hr
    rcases List.mem_cons.1 hr with rfl | hr
    · exact Nat.lt_of_lt_of_le hid (Nat.le_trans hn₂ hk)
    · exact Nat.lt_of_lt_of_le (hids r hr) hk

end Makes
end GenM

/-! ### Shapes -/

namespace Generator

open GenM (Makes)

theorem makes_degrade (n : Nat) (name reason : String) :
    Makes n (degrade name reason) ShapeKind.Below := by
  refine Makes.bind (.modify fun g hg _ => ?_) fun _ _ _ _ => .pure fun k _ => ?_
  · exact ⟨⟨hg.shapeOf, hg.rows, hg.entries, hg.idents, hg.canon⟩, Nat.le_refl _⟩
  · simp [ShapeKind.Below, ShapeKind.refs]

theorem makes_registerBridge (n : Nat) (element : ShapeId) (direction : ChanDir) :
    Makes n (registerBridge element direction) fun _ _ => True := by
  refine .modify fun g hg _ => ?_
  split
  · exact ⟨hg, Nat.le_refl _⟩
  · exact ⟨⟨hg.shapeOf, hg.rows, hg.entries, hg.idents, hg.canon⟩, Nat.le_refl _⟩

section Parts

variable {shape : CanonId → GenM ShapeId}
  (hshape : ∀ c k, 0 < k → Makes k (shape c) (· < ·))

include hshape

theorem makes_funcShape {n : Nat} (hn : 0 < n) (f : CanonFunc) :
    Makes n (funcShape shape f) fun result s =>
      ∀ func, result = .ok func → ∀ id ∈ func.params ++ func.results, id < s := by
  have herror : ∀ (k : Nat) (reason : String), Makes k (pure (.error reason) : GenM _)
      fun (result : Except String FuncShape) s =>
        ∀ func, result = .ok func → ∀ id ∈ func.params ++ func.results, id < s :=
    fun k reason => .pure fun _ _ func h => by cases h
  rw [funcShape]
  refine Makes.ite (fun _ => herror n _) fun _ => Makes.get fun g _ hg => ?_
  refine Makes.ite (fun _ => herror _ _) fun _ => ?_
  refine (Makes.mapM fun c _ k hk => hshape c k (by omega)).bind fun params n₁ hn₁ hparams => ?_
  refine (Makes.mapM fun c _ k hk => hshape c k (by omega)).bind fun results n₂ hn₂ hresults => ?_
  refine .pure fun k hk func hfunc id hid => ?_
  cases hfunc
  rcases List.mem_append.1 hid with hid | hid
  · exact Nat.lt_of_lt_of_le (hparams id hid) (Nat.le_trans hn₂ hk)
  · exact Nat.lt_of_lt_of_le (hresults id hid) hk

theorem makes_methodShapes (methods : List CanonMethod) : ∀ {n : Nat}, 0 < n →
    Makes n (methodShapes shape methods) fun result s =>
      ∀ found, result = .ok found → (ShapeKind.interface found).Below s := by
  induction methods with
  | nil =>
    intro n hn
    refine .pure fun k _ found hfound => ?_
    cases hfound
    simp [ShapeKind.Below, ShapeKind.refs]
  | cons m rest ih =>
    intro n hn
    obtain ⟨name, f⟩ := m
    rw [methodShapes]
    refine (makes_funcShape hshape hn f).bind fun result n₁ hn₁ hfunc => ?_
    split
    · exact .pure fun k _ found hfound => by cases hfound
    · rename_i func
      refine (ih (by omega)).bind fun result n₂ hn₂ hrest => ?_
      split
      · exact .pure fun k _ found hfound => by cases hfound
      · rename_i methods
        refine .pure fun k hk found hfound => ?_
        cases hfound
        intro id hid
        simp only [ShapeKind.refs, List.flatMap_cons, List.mem_append] at hid
        rcases hid with hid | hid
        · exact Nat.lt_of_lt_of_le (hfunc func rfl id (List.mem_append.2 hid)) (Nat.le_trans hn₂ hk)
        · exact (hrest methods rfl).mono hk id hid

theorem makes_fieldShapes (fields : List (String × CanonId)) : ∀ {n : Nat}, 0 < n →
    Makes n (fieldShapes shape fields) fun result s =>
      ∀ found, result = .ok found → (ShapeKind.record found).Below s := by
  induction fields with
  | nil =>
    intro n hn
    refine .pure fun k _ found hfound => ?_
    cases hfound
    simp [ShapeKind.Below, ShapeKind.refs]
  | cons field rest ih =>
    intro n hn
    obtain ⟨name, type⟩ := field
    rw [fieldShapes]
    refine (hshape type n hn).bind fun id n₁ hn₁ hid => Makes.get fun g _ hg => ?_
    refine Makes.ite (fun _ => .pure fun k _ found hfound => by cases hfound) fun _ => ?_
    refine (ih (by omega)).bind fun result n₂ hn₂ hrest => ?_
    split
    · exact .pure fun k _ found hfound => by cases hfound
    · rename_i fields
      refine .pure fun k hk found hfound => ?_
      cases hfound
      intro r hr
      simp only [ShapeKind.refs, List.map_cons, List.mem_cons] at hr
      rcases hr with rfl | hr
      · exact Nat.lt_of_lt_of_le hid (Nat.le_trans hg (Nat.le_trans hn₂ hk))
      · exact (hrest fields rfl).mono hk r hr

theorem makes_kindFor {n : Nat} (hn : 0 < n) (name : String) (kind : Option CanonKind) :
    Makes n (kindFor shape name kind) ShapeKind.Below := by
  have hone : ∀ (c : CanonId) (rule : ShapeId → ShapeKind), (∀ id, (rule id).refs = [id]) →
      ∀ k, 0 < k → Makes k (do return rule (← shape c)) ShapeKind.Below := by
    intro c rule hrule k hk
    refine (hshape c k hk).bind fun id n₁ _ hid => .pure fun s hs r hr => ?_
    rw [hrule, List.mem_singleton] at hr
    subst hr
    exact Nat.lt_of_lt_of_le hid hs
  have hnone : ∀ (rule : ShapeKind), rule.refs = [] → Makes n (pure rule) ShapeKind.Below :=
    fun rule hrule => .pure fun _ _ r hr => by simp [hrule] at hr
  unfold kindFor
  split
  · exact hnone _ rfl
  · exact hnone _ rfl
  · exact hnone _ rfl
  · exact hnone _ rfl
  · exact hnone _ rfl
  · exact hnone _ rfl
  · exact makes_degrade n _ _
  · exact makes_degrade n _ _
  · exact hone _ .slice (fun _ => rfl) n hn
  · exact hone _ (.array _) (fun _ => rfl) n hn
  · refine Makes.get fun g _ hg => Makes.ite (fun _ => ?_) fun _ => makes_degrade _ _ _
    exact hone _ .map (fun _ => rfl) _ (by omega)
  · exact hone _ .pointer (fun _ => rfl) n hn
  · refine (makes_funcShape hshape hn _).bind fun result n₁ _ hfunc => ?_
    split
    · exact .pure fun k hk r hr => Nat.lt_of_lt_of_le (hfunc _ rfl r hr) hk
    · exact makes_degrade _ _ _
  · refine (hshape _ n hn).bind fun element n₁ _ helement => ?_
    refine (makes_registerBridge n₁ element _).bind fun _ n₂ hn₂ _ => .pure fun k hk r hr => ?_
    rw [ShapeKind.refs, List.mem_singleton] at hr
    subst hr
    exact Nat.lt_of_lt_of_le helement (Nat.le_trans hn₂ hk)
  · refine (makes_methodShapes hshape _ hn).bind fun result n₁ _ hmethods => ?_
    split
    · exact .pure fun k hk r hr => Nat.lt_of_lt_of_le (hmethods _ rfl r hr) hk
    · exact makes_degrade _ _ _
  · refine (makes_fieldShapes hshape _ hn).bind fun result n₁ _ hfields => ?_
    split
    · exact .pure fun k hk r hr => Nat.lt_of_lt_of_le (hfields _ rfl r hr) hk
    · exact makes_degrade _ _ _
  · exact makes_degrade n _ _
  · exact makes_degrade n _ _
  · exact makes_degrade n _ _

end Parts

theorem makes_reserveShape (n : Nat) (canon : CanonId) (name : String) :
    Makes n (reserveShape canon name) (· < ·) := by
  intro g hg _
  have hsize : (g.rows.push ⟨name, none⟩).size = g.rows.size + 1 := Array.size_push _
  refine ⟨⟨?_, ?_, ?_, hg.idents, hg.canon⟩, ?_, ?_⟩
  · intro p hp
    show p.2 < (g.rows.push ⟨name, none⟩).size
    rw [hsize]
    rcases List.mem_cons.1 hp with rfl | hp
    · exact Nat.lt_succ_self _
    · exact Nat.lt_succ_of_lt (hg.shapeOf p hp)
  · intro row hrow kind hkind
    show kind.Below (g.rows.push ⟨name, none⟩).size
    rw [hsize]
    rcases Array.mem_push.1 hrow with hrow | rfl
    · exact (hg.rows row hrow kind hkind).mono (Nat.le_succ _)
    · cases hkind
  · intro id hid
    show id < (g.rows.push ⟨name, none⟩).size
    rw [hsize]
    exact Nat.lt_succ_of_lt (hg.entries id hid)
  · show g.rows.size ≤ (g.rows.push ⟨name, none⟩).size
    omega
  · show g.rows.size < (g.rows.push ⟨name, none⟩).size
    omega

theorem Sound.setKind {g : Generator} (h : g.Sound) (id : ShapeId) (name : String)
    {kind : ShapeKind} (hkind : kind.Below g.rows.size) : (g.setKind id name kind).Sound := by
  have hsize : (g.rows.setIfInBounds id ⟨name, some kind⟩).size = g.rows.size :=
    Array.size_setIfInBounds
  refine ⟨?_, ?_, ?_, h.idents, h.canon⟩
  · intro p hp
    exact hsize.symm ▸ h.shapeOf p hp
  · intro row hrow kind' hkind'
    show kind'.Below (g.rows.setIfInBounds id ⟨name, some kind⟩).size
    rw [hsize]
    rcases Array.mem_or_eq_of_mem_setIfInBounds hrow with hrow | rfl
    · exact h.rows row hrow kind' hkind'
    · cases hkind'
      exact hkind
  · intro id hid
    exact hsize.symm ▸ h.entries id hid

/-- Without fuel the answer is the first position, which then has to exist. -/
theorem makes_shapeIn : ∀ (fuel : Nat) (canon : CanonId) (n : Nat), 0 < fuel + n →
    Makes n (shapeIn fuel canon) (· < ·) := by
  intro fuel
  induction fuel with
  | zero =>
    intro canon n hn
    exact .pure fun k hk => Nat.lt_of_lt_of_le (by omega) hk
  | succ fuel ih =>
    intro canon n _
    rw [shapeIn]
    refine Makes.get fun g hg _ => ?_
    split
    · rename_i id hid
      exact .pure fun k hk => Nat.lt_of_lt_of_le (hg.shapeOf _ (mem_of_lookup hid)) hk
    · refine (makes_reserveShape _ canon _).bind fun id n₁ _ hid => ?_
      have hn₁ : 0 < n₁ := Nat.lt_of_le_of_lt (Nat.zero_le id) hid
      have hshape : ∀ c k, 0 < k → Makes k (shapeIn fuel c) (· < ·) :=
        fun c k hk => ih c k (by omega)
      refine (makes_kindFor hshape hn₁ _ _).bind fun kind n₂ hn₂ hkind => ?_
      refine Makes.bind (Q := fun _ _ => True) ?_ fun _ n₃ hn₃ _ => .pure fun k hk => ?_
      · refine .modify fun g hg hle => ⟨hg.setKind id _ (hkind.mono hle), ?_⟩
        exact Nat.le_of_eq Array.size_setIfInBounds.symm
      · exact Nat.lt_of_lt_of_le hid (by omega)

theorem makes_shapeFor (n : Nat) (canon : CanonId) :
    Makes n (shapeFor canon) (· < ·) :=
  Makes.get fun g _ _ => makes_shapeIn _ canon _ (by omega)

/-! ### Converters -/

theorem mem_refs_of_mem_dependencies {kind : ShapeKind} {direction : Direction}
    {dep : ShapeId × Direction} (h : dep ∈ dependencies kind direction) : dep.1 ∈ kind.refs := by
  have hfunc : ∀ f : FuncShape, dep ∈ funcDeps f direction → dep.1 ∈ f.params ++ f.results := by
    intro f hdep
    rcases List.mem_append.1 hdep with hdep | hdep <;>
      obtain ⟨id, hid, rfl⟩ := List.mem_map.1 hdep <;> simp [hid]
  cases kind with
  | func f => exact hfunc f h
  | interface methods =>
    obtain ⟨m, hm, hdep⟩ := List.mem_flatMap.1 h
    exact List.mem_flatMap.2 ⟨m, hm, hfunc m.func hdep⟩
  | record fields =>
    obtain ⟨f, hf, rfl⟩ := List.mem_map.1 h
    exact List.mem_map_of_mem hf
  | chan chanDir element =>
    have helement : dep.1 = element := by
      rcases List.mem_append.1 h with h | h <;> split at h <;> simp_all
    exact List.mem_singleton.2 helement
  | scalar s => cases h
  | boxed reason => cases h
  | _ =>
    rw [List.mem_singleton.1 h]
    exact List.mem_singleton_self _

theorem makes_reserveEntry {n : Nat} {shape : ShapeId} (hshape : shape < n)
    (direction : Direction) : Makes n (reserveEntry shape direction) fun _ _ => True := by
  intro g hg hn
  have hentries : (reserveEntry shape direction g).2.entries.toList =
      g.entries.toList ++ [⟨g.entries.size, shape, direction,
        freshIdent g.identsUsed (direction.stem ++ "_" ++ Text.slug (g.shapeName shape)),
        none, []⟩] := Array.toList_push
  refine ⟨⟨hg.shapeOf, hg.rows, ?_, ?_, hg.canon⟩, Nat.le_refl _, trivial⟩
  · intro id hid
    rw [hentries, List.map_append] at hid
    rcases List.mem_append.1 hid with hid | hid
    · exact hg.entries id hid
    · rw [List.mem_singleton.1 hid]
      exact Nat.lt_of_lt_of_le hshape hn
  · rw [hentries, List.map_append]
    refine List.nodup_append.2 ⟨hg.idents, List.nodup_singleton _, ?_⟩
    intro a ha b hb hab
    rw [hab, List.mem_singleton.1 hb] at ha
    exact freshIdent_not_mem g.identsUsed _ (List.mem_append_left _ ha)

/-- To enter the dependencies changes nothing else in an entry. -/
theorem map_entries_setDeps {β : Type} {f : ConverterEntry → β}
    (hf : ∀ e deps, f { e with deps := deps } = f e) (id : ConverterId)
    (deps : List ConverterId) (g : Generator) :
    (g.setDeps id deps).entries.toList.map f = g.entries.toList.map f := by
  apply List.ext_getElem?
  intro i
  rw [setDeps, Array.toList_modify, List.getElem?_map, List.getElem?_map, List.getElem?_modify]
  cases g.entries.toList[i]? with
  | none => rfl
  | some e =>
    split
    · exact congrArg some (hf e deps)
    · rfl

theorem Sound.setDeps {g : Generator} (h : g.Sound) (id : ConverterId)
    (deps : List ConverterId) : (g.setDeps id deps).Sound where
  shapeOf := h.shapeOf
  rows := h.rows
  entries := by
    rw [map_entries_setDeps fun _ _ => rfl]
    exact h.entries
  idents := by
    rw [map_entries_setDeps fun _ _ => rfl]
    exact h.idents
  canon := h.canon

theorem makes_entriesFor {entry : ShapeId → Direction → GenM ConverterId}
    {needed : List (ShapeId × Direction)} : ∀ {n : Nat},
    (∀ dep ∈ needed, ∀ k, n ≤ k → Makes k (entry dep.1 dep.2) fun _ _ => True) →
      ∀ found, Makes n (entriesFor entry needed found) fun _ _ => True := by
  induction needed with
  | nil =>
    intro n _ found
    exact .pure fun _ _ => trivial
  | cons dep rest ih =>
    intro n hentry found
    obtain ⟨shape, direction⟩ := dep
    have hrest : ∀ k, n ≤ k → ∀ found, Makes k (entriesFor entry rest found) fun _ _ => True :=
      fun k hk => ih fun dep hdep m hm =>
        hentry dep (List.mem_cons_of_mem _ hdep) m (Nat.le_trans hk hm)
    rw [entriesFor]
    refine Makes.get fun g _ hg => Makes.ite (fun _ => hrest _ hg found) fun _ => ?_
    refine (hentry _ List.mem_cons_self _ hg).bind fun id n₁ hn₁ _ => ?_
    exact hrest n₁ (Nat.le_trans hg hn₁) _

theorem makes_entryIn : ∀ (fuel : Nat) (shape : ShapeId) (direction : Direction) (n : Nat),
    shape < n → Makes n (entryIn fuel shape direction) fun _ _ => True := by
  intro fuel
  induction fuel with
  | zero =>
    intro shape direction n _
    exact .pure fun _ _ => trivial
  | succ fuel ih =>
    intro shape direction n hshape
    rw [entryIn]
    refine Makes.get fun g hg hn => ?_
    split
    · exact .pure fun _ _ => trivial
    · refine (makes_reserveEntry (Nat.lt_of_lt_of_le hshape hn) direction).bind
        fun id n₁ hn₁ _ => ?_
      refine Makes.bind (Q := fun _ _ => True) ?_ fun deps n₂ _ _ => ?_
      · apply makes_entriesFor
        intro dep hdep k hk
        refine ih dep.1 dep.2 k ?_
        split at hdep
        · rename_i kind hkind
          have hlt := hg.below_of_kindOf? hkind _ (mem_refs_of_mem_dependencies hdep)
          exact Nat.lt_of_lt_of_le hlt (Nat.le_trans hn₁ (by omega))
        · cases hdep
      · refine Makes.bind (Q := fun _ _ => True) ?_ fun _ _ _ _ => .pure fun _ _ => trivial
        exact .modify fun g hg _ => ⟨hg.setDeps id deps, Nat.le_refl _⟩

theorem makes_entryFor {n : Nat} {shape : ShapeId} (hshape : shape < n) (direction : Direction) :
    Makes n (entryFor shape direction) fun _ _ => True :=
  Makes.get fun _ _ hn => makes_entryIn _ shape direction _ (Nat.lt_of_lt_of_le hshape hn)

/-! ### Requests -/

theorem makes_canonical (n : Nat) (graph : TypeGraph) (type : TypeId) :
    Makes n (canonical graph type) fun _ _ => True := by
  intro g hg _
  have hcanon := Session.stable_namesStructs.normalize graph type g.canon hg.canon
  exact ⟨⟨hg.shapeOf, hg.rows, hg.entries, hg.idents, hcanon⟩, Nat.le_refl _, trivial⟩

theorem makes_shape (n : Nat) (graph : TypeGraph) (type : TypeId) :
    Makes n (shape graph type) fun result s => ∀ id, result = .ok id → id < s := by
  rw [shape]
  refine (makes_canonical n graph type).bind fun result n₁ _ _ => ?_
  split
  · exact .pure fun _ _ id h => by cases h
  · refine (makes_shapeFor n₁ _).bind fun id n₂ _ hid => .pure fun k hk id' h => ?_
    cases h
    exact Nat.lt_of_lt_of_le hid hk

theorem makes_add (n : Nat) (graph : TypeGraph) (type : TypeId) (direction : Direction) :
    Makes n (add graph type direction) fun _ _ => True := by
  rw [add]
  refine (makes_shape n graph type).bind fun result n₁ _ hid => ?_
  split
  · exact .pure fun _ _ => trivial
  · exact (makes_entryFor (hid _ rfl) direction).bind fun _ _ _ _ => .pure fun _ _ => trivial

theorem Sound.addExport {g : Generator} (h : g.Sound) (e : Export) : (g.addExport e).Sound := by
  rw [Generator.addExport]
  split
  · exact h
  · exact ⟨h.shapeOf, h.rows, h.entries, h.idents, h.canon⟩

theorem makes_request (n : Nat) (graph : TypeGraph) (r : Request) :
    Makes n (request graph r) fun _ _ => True := by
  rw [request]
  refine (makes_add n graph r.type r.direction).bind fun result n₁ _ _ => ?_
  split
  · exact .pure fun _ _ => trivial
  · refine Makes.bind (Q := fun _ _ => True) ?_ fun _ _ _ _ => .pure fun _ _ => trivial
    refine .modify fun g hg _ => ⟨hg.addExport _, ?_⟩
    rw [addExport]
    split <;> exact Nat.le_refl _

theorem makes_requests (graph : TypeGraph) (rs : List Request) : ∀ n : Nat,
    Makes n (requests graph rs) fun _ _ => True := by
  induction rs with
  | nil => exact fun n => .pure fun _ _ => trivial
  | cons r rest ih =>
    intro n
    rw [requests]
    refine (makes_request n graph r).bind fun result n₁ _ _ => ?_
    split
    · exact .pure fun _ _ => trivial
    · exact ih n₁

theorem sound_requests (graph : TypeGraph) (rs : List Request) :
    ((requests graph rs).run empty).2.Sound :=
  (makes_requests graph rs 0 empty sound_empty (Nat.zero_le _)).1

end Generator
end ScriptBind
