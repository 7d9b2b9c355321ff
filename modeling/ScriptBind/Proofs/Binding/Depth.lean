import ScriptBind.Proofs.Binding.Steps

/-!
# ScriptBind.Proofs.Binding.Depth

How deep the recursions over shapes and over entries go. A place is reserved before each step into
the depth, so the places that are left are a measure, and the bounds are never reached: it does not
matter what they are, nor what would be done there. All this holds from any state, so it holds also
where a recursion is under way.

* `Generator.shapeFrom`, `Generator.entryFrom` - the recursions, with any bound and any end.
* `Generator.agrees_shapeFrom`, `Generator.agrees_entryFrom` - by induction on the measure.
* `Generator.shapeFrom_eq_shapeFor`, `Generator.entryFrom_eq_entryFor` - the bounds do not matter.
* `Generator.shapeFrom_of_mem`, `Generator.entryFrom_of_mem` - what has its place is not made again.
-/

namespace ScriptBind

namespace Generator

open GenM (Agrees)

variable {g g' : Generator} {n : Nat}

/-! ### Shapes inside each other -/

/-- `shapeIn` with another end: what is done where the depth is used up. -/
def shapeFrom (bottom : CanonId → GenM ShapeId) : Nat → CanonId → GenM ShapeId
  | 0, canon => bottom canon
  | fuel + 1, canon => do
    let g ← get
    match g.shapeOf.lookup canon with
    | some id => return id
    | none =>
      let name := g.canon.typeString canon
      let id ← reserveShape canon name
      let kind ← kindFor (shapeFrom bottom fuel) name (g.canon.kind? (g.canon.structural canon))
      modify (setKind id name kind)
      return id

theorem shapeIn_eq_shapeFrom (fuel : Nat) : shapeIn fuel = shapeFrom (fun _ => pure 0) fuel := by
  induction fuel with
  | zero => rfl
  | succ fuel ih =>
    funext canon
    rw [shapeIn, ih]
    rfl

section Step

variable {bottom : CanonId → GenM ShapeId} {fuel : Nat} {c : CanonId} {id : ShapeId}

theorem shapeFrom_of_lookup (h : g.shapeOf.lookup c = some id) :
    shapeFrom bottom (fuel + 1) c g = (id, g) := by
  rw [shapeFrom, bind_apply]
  show (match g.shapeOf.lookup c with | some id => _ | none => _ : GenM ShapeId) g = _
  rw [h]
  rfl

/-- From the state in which the row is reserved. -/
def shapeRule (shape : CanonId → GenM ShapeId) (g : Generator) (c : CanonId) : GenM ShapeId := do
  let name := g.canon.typeString c
  let kind ← kindFor shape name (g.canon.kind? (g.canon.structural c))
  modify (setKind g.rows.size name kind)
  return g.rows.size

theorem shapeFrom_of_not_lookup (h : g.shapeOf.lookup c = none) :
    shapeFrom bottom (fuel + 1) c g =
      shapeRule (shapeFrom bottom fuel) g c (reserveShape c (g.canon.typeString c) g).2 := by
  rw [shapeFrom, bind_apply]
  show (match g.shapeOf.lookup c with | some id => _ | none => _ : GenM ShapeId) g = _
  rw [h]
  rfl

end Step

/-- The types whose shapes are not begun yet. -/
def shapeGauge : Gauge where
  Allows g g' := g'.canon = g.canon ∧ ∀ p ∈ g.shapeOf, p ∈ g'.shapeOf
  left := free
  refl _ := ⟨rfl, fun _ hp => hp⟩
  trans h h' := ⟨h'.1.trans h.1, fun p hp => h'.2 p (h.2 p hp)⟩
  le h := free_le_of_mem h.1 h.2

theorem allows_degrade (name reason : String) (g : Generator) :
    shapeGauge.Allows g (degrade name reason g).2 :=
  ⟨rfl, fun _ hp => hp⟩

theorem allows_registerBridge (element : ShapeId) (direction : ChanDir) (g : Generator) :
    shapeGauge.Allows g (registerBridge element direction g).2 := by
  show shapeGauge.Allows g (ite _ _ _)
  split <;> exact ⟨rfl, fun _ hp => hp⟩

/-- A type that is not in the table has no parts. -/
theorem structural_eq_none {s : Session} {c : CanonId} (h : s.size ≤ c) :
    s.kind? (s.structural c) = none := by
  have hnone : s.kind? c = none := Array.getElem?_eq_none h
  rw [Session.structural, hnone]
  exact hnone

theorem agrees_shapeRule {shape shape' : CanonId → GenM ShapeId} {c : CanonId}
    (hshape : c < g.canon.size → ∀ d, Agrees shapeGauge n (shape d) (shape' d)) :
    Agrees shapeGauge n (shapeRule shape g c) (shapeRule shape' g c) := by
  have hkind : Agrees shapeGauge n
      (kindFor shape (g.canon.typeString c) (g.canon.kind? (g.canon.structural c)))
      (kindFor shape' (g.canon.typeString c) (g.canon.kind? (g.canon.structural c))) := by
    rcases Nat.lt_or_ge c g.canon.size with hc | hc
    · exact agrees_kindFor (hshape hc) allows_degrade allows_registerBridge _ _
    · rw [structural_eq_none hc]
      exact .same (allows_degrade _ _)
  exact hkind.bind fun kind => .bind (.same fun _ => ⟨rfl, fun _ hp => hp⟩) fun _ => .pure _

theorem allows_reserveShape (g : Generator) (c : CanonId) (name : String) :
    shapeGauge.Allows g (reserveShape c name g).2 :=
  ⟨rfl, fun _ hp => List.mem_cons_of_mem _ hp⟩

/-- Both bounds are above the measure, which falls where the row of a type in the table is
reserved. -/
theorem agrees_shapeFrom (bottom bottom' : CanonId → GenM ShapeId) :
    ∀ (n fuel fuel' : Nat) (c : CanonId), n ≤ fuel → n ≤ fuel' →
      Agrees shapeGauge n (shapeFrom bottom fuel c) (shapeFrom bottom' fuel' c) := by
  intro n
  induction n with
  | zero => exact fun _ _ _ _ _ _ hg => absurd hg (Nat.not_lt_zero _)
  | succ n ih =>
    intro fuel fuel' c hfuel hfuel' g hg
    obtain ⟨fuel, rfl⟩ := Nat.exists_eq_succ_of_ne_zero (Nat.ne_zero_of_lt hfuel)
    obtain ⟨fuel', rfl⟩ := Nat.exists_eq_succ_of_ne_zero (Nat.ne_zero_of_lt hfuel')
    have hparts := fun d => ih fuel fuel' d (Nat.le_of_succ_le_succ hfuel)
      (Nat.le_of_succ_le_succ hfuel')
    cases hlookup : g.shapeOf.lookup c with
    | some id =>
      rw [shapeFrom_of_lookup hlookup, shapeFrom_of_lookup hlookup]
      exact ⟨rfl, shapeGauge.refl g⟩
    | none =>
      rw [shapeFrom_of_not_lookup hlookup, shapeFrom_of_not_lookup hlookup]
      refine Agrees.later (allows_reserveShape g c _) hg ?_
      rcases Nat.lt_or_ge c g.canon.size with hc | hc
      · have hnew := lookup_eq_none_iff_not_mem.1 hlookup
        exact .inl ⟨free_reserveShape hc hnew _, agrees_shapeRule fun _ => hparts⟩
      · -- A type that is not in the table takes none of the places, but it has no parts either.
        exact .inr (agrees_shapeRule fun hlt => absurd hlt (Nat.not_lt_of_le hc))

theorem agrees_shapeFor (bottom : CanonId → GenM ShapeId) {fuel : Nat}
    (hfuel : g.canon.size < fuel) (c : CanonId) :
    shapeFrom bottom fuel c g = shapeFor c g ∧ shapeGauge.Allows g (shapeFor c g).2 := by
  have hfree := g.free_le
  have hagrees := agrees_shapeFrom (fun _ => pure 0) bottom (g.free + 1) (g.canon.size + 1) fuel c
    (by omega) (by omega) g (Nat.lt_succ_self _)
  rw [← shapeIn_eq_shapeFrom] at hagrees
  rw [shapeFor, bind_apply]
  exact hagrees

/-- Neither the bound nor what is done there matters. -/
theorem shapeFrom_eq_shapeFor (bottom : CanonId → GenM ShapeId) {fuel : Nat}
    (hfuel : g.canon.size < fuel) (c : CanonId) : shapeFrom bottom fuel c g = shapeFor c g :=
  (agrees_shapeFor bottom hfuel c).1

/-- A row is there to stay. -/
theorem mem_shapeOf_shapeFor (c : CanonId) {p : CanonId × ShapeId} (hp : p ∈ g.shapeOf) :
    p ∈ (shapeFor c g).2.shapeOf :=
  (agrees_shapeFor (fun _ => pure 0) (Nat.lt_succ_self _) c).2.2 p hp

/-- Not even one part of a type is looked at if the type has a row. -/
theorem shapeFrom_of_mem {p : CanonId × ShapeId} (hp : p ∈ g.shapeOf) :
    ∃ id, ∀ bottom, shapeFrom bottom 1 p.1 g = (id, g) := by
  cases hlookup : g.shapeOf.lookup p.1 with
  | some id => exact ⟨id, fun _ => shapeFrom_of_lookup hlookup⟩
  | none => exact absurd (List.mem_map_of_mem hp) (lookup_eq_none_iff_not_mem.1 hlookup)

/-! ### Entries inside each other -/

/-- `entryIn` with another end. -/
def entryFrom (bottom : ShapeId → Direction → GenM ConverterId) :
    Nat → ShapeId → Direction → GenM ConverterId
  | 0, shape, direction => bottom shape direction
  | fuel + 1, shape, direction => do
    let g ← get
    match g.findEntry shape direction with
    | some id => return id
    | none =>
      let id ← reserveEntry shape direction
      let needed :=
        match g.kindOf? shape with
        | some kind => dependencies kind direction
        | none => []
      let deps ← entriesFor (entryFrom bottom fuel) needed []
      modify (setDeps id deps)
      return id

theorem entryIn_eq_entryFrom (fuel : Nat) :
    entryIn fuel = entryFrom (fun _ _ => pure 0) fuel := by
  induction fuel with
  | zero => rfl
  | succ fuel ih =>
    funext shape direction
    rw [entryIn, ih]
    rfl

/-- The converters that one of the shape and direction calls. -/
def neededBy (g : Generator) (shape : ShapeId) (direction : Direction) : List ConverterKey :=
  match g.kindOf? shape with
  | some kind => dependencies kind direction
  | none => []

/-- From the state in which the entry is reserved. -/
def entryDeps (entry : ShapeId → Direction → GenM ConverterId) (g : Generator) (shape : ShapeId)
    (direction : Direction) : GenM ConverterId := do
  let deps ← entriesFor entry (g.neededBy shape direction) []
  modify (setDeps g.entries.size deps)
  return g.entries.size

section Step

variable {bottom : ShapeId → Direction → GenM ConverterId} {fuel : Nat} {shape : ShapeId}
  {direction : Direction} {id : ConverterId}

theorem entryFrom_of_findEntry (h : g.findEntry shape direction = some id) :
    entryFrom bottom (fuel + 1) shape direction g = (id, g) := by
  rw [entryFrom, bind_apply]
  show (match g.findEntry shape direction with | some id => _ | none => _ : GenM ConverterId) g = _
  rw [h]
  rfl

theorem entryFrom_of_not_findEntry (h : g.findEntry shape direction = none) :
    entryFrom bottom (fuel + 1) shape direction g =
      entryDeps (entryFrom bottom fuel) g shape direction (reserveEntry shape direction g).2 := by
  rw [entryFrom, bind_apply]
  show (match g.findEntry shape direction with | some id => _ | none => _ : GenM ConverterId) g = _
  rw [h]
  rfl

end Step

/-- The converters whose entries are not begun yet. -/
def entryGauge : Gauge where
  Allows g g' := g'.rows = g.rows ∧ ∀ id key, g.keyOf? id = some key → g'.keyOf? id = some key
  left := vacant
  refl _ := ⟨rfl, fun _ _ hkey => hkey⟩
  trans h h' := ⟨h'.1.trans h.1, fun id key hkey => h'.2 id key (h.2 id key hkey)⟩
  le h := vacant_le_of_keyOf? h.1 h.2

theorem agrees_entryDeps {entry entry' : ShapeId → Direction → GenM ConverterId} {shape : ShapeId}
    {direction : Direction} (hentry : shape < g.rows.size →
      ∀ shape direction, Agrees entryGauge n (entry shape direction) (entry' shape direction)) :
    Agrees entryGauge n (entryDeps entry g shape direction)
      (entryDeps entry' g shape direction) := by
  have hentries : Agrees entryGauge n (entriesFor entry (g.neededBy shape direction) [])
      (entriesFor entry' (g.neededBy shape direction) []) := by
    rcases Nat.lt_or_ge shape g.rows.size with hlt | hge
    · exact agrees_entriesFor (hentry hlt) _ _
    · have hnone : g.neededBy shape direction = [] := by
        rw [neededBy, kindOf?, Array.getElem?_eq_none hge]
      rw [hnone]
      exact .pure _
  have hset : ∀ (deps : List ConverterId) g',
      entryGauge.Allows g' (g'.setDeps g.entries.size deps) := fun deps g' =>
    ⟨rfl, fun id key hkey => (keyOf?_setDeps _ _ _).trans hkey⟩
  exact hentries.bind fun deps => .bind (.same (hset deps)) fun _ => .pure _

theorem allows_reserveEntry (g : Generator) (shape : ShapeId) (direction : Direction) :
    entryGauge.Allows g (reserveEntry shape direction g).2 := by
  refine ⟨rfl, fun id key hkey => ?_⟩
  have hne : id ≠ g.entries.size := by
    rintro rfl
    rw [keyOf?, Array.getElem?_eq_none (Nat.le_refl _)] at hkey
    cases hkey
  rw [keyOf?_reserveEntry, if_neg hne, hkey]

/-- Both bounds are above the measure, which falls where the entry of a shape in the table is
reserved. -/
theorem agrees_entryFrom (bottom bottom' : ShapeId → Direction → GenM ConverterId) :
    ∀ (n fuel fuel' : Nat) (shape : ShapeId) (direction : Direction), n ≤ fuel → n ≤ fuel' →
      Agrees entryGauge n (entryFrom bottom fuel shape direction)
        (entryFrom bottom' fuel' shape direction) := by
  intro n
  induction n with
  | zero => exact fun _ _ _ _ _ _ _ hg => absurd hg (Nat.not_lt_zero _)
  | succ n ih =>
    intro fuel fuel' shape direction hfuel hfuel' g hg
    obtain ⟨fuel, rfl⟩ := Nat.exists_eq_succ_of_ne_zero (Nat.ne_zero_of_lt hfuel)
    obtain ⟨fuel', rfl⟩ := Nat.exists_eq_succ_of_ne_zero (Nat.ne_zero_of_lt hfuel')
    have hparts := fun shape direction => ih fuel fuel' shape direction
      (Nat.le_of_succ_le_succ hfuel) (Nat.le_of_succ_le_succ hfuel')
    cases hfind : g.findEntry shape direction with
    | some id =>
      rw [entryFrom_of_findEntry hfind, entryFrom_of_findEntry hfind]
      exact ⟨rfl, entryGauge.refl g⟩
    | none =>
      rw [entryFrom_of_not_findEntry hfind, entryFrom_of_not_findEntry hfind]
      refine Agrees.later (allows_reserveEntry g shape direction) hg ?_
      rcases Nat.lt_or_ge shape g.rows.size with hlt | hge
      · have hnew : (shape, direction) ∉ g.entries.toList.map (·.key) := findEntry_eq_none hfind
        exact .inl ⟨vacant_reserveEntry hlt hnew, agrees_entryDeps fun _ => hparts⟩
      · -- The same for a shape without a row, which needs no other converter.
        exact .inr (agrees_entryDeps fun hlt => absurd hlt (Nat.not_lt_of_le hge))

theorem agrees_entryFor (bottom : ShapeId → Direction → GenM ConverterId) {fuel : Nat}
    (hfuel : 2 * g.rows.size < fuel) (shape : ShapeId) (direction : Direction) :
    entryFrom bottom fuel shape direction g = entryFor shape direction g ∧
      entryGauge.Allows g (entryFor shape direction g).2 := by
  have hvacant := g.vacant_le
  have hagrees := agrees_entryFrom (fun _ _ => pure 0) bottom (g.vacant + 1) (2 * g.rows.size + 1)
    fuel shape direction (by omega) (by omega) g (Nat.lt_succ_self _)
  rw [← entryIn_eq_entryFrom] at hagrees
  rw [entryFor, bind_apply]
  exact hagrees

/-- Neither the bound nor what is done there matters. -/
theorem entryFrom_eq_entryFor (bottom : ShapeId → Direction → GenM ConverterId) {fuel : Nat}
    (hfuel : 2 * g.rows.size < fuel) (shape : ShapeId) (direction : Direction) :
    entryFrom bottom fuel shape direction g = entryFor shape direction g :=
  (agrees_entryFor bottom hfuel shape direction).1

/-- An entry is there to stay. -/
theorem keyOf?_entryFor (shape : ShapeId) (direction : Direction) {id : ConverterId}
    {key : ConverterKey} (hkey : g.keyOf? id = some key) :
    (entryFor shape direction g).2.keyOf? id = some key :=
  (agrees_entryFor (fun _ _ => pure 0) (Nat.lt_succ_self _) shape direction).2.2 id key hkey

/-- Not even one converter that a converter calls is looked at if the converter has an entry. -/
theorem entryFrom_of_mem {id : ConverterId} {key : ConverterKey} (hkey : g.keyOf? id = some key) :
    ∃ found, ∀ bottom, entryFrom bottom 1 key.1 key.2 g = (found, g) := by
  cases hfind : g.findEntry key.1 key.2 with
  | some found => exact ⟨found, fun _ => entryFrom_of_findEntry hfind⟩
  | none => exact absurd (mem_keys_iff.2 ⟨id, hkey⟩) (findEntry_eq_none hfind)

end Generator
end ScriptBind
