import ScriptBind.Proofs.Binding.Rows

/-!
# ScriptBind.Proofs.Binding.Shapes

What making a shape does to the table of shapes.

* `Generator.builds_kindFor` - the rule of a type is justified, given how its parts are made.
* `Generator.builds_shapeIn` - making a shape, by induction on the bound, which is high enough.
-/

namespace ScriptBind

open Relation (ReflTransGen)

namespace Generator

open GenM (Builds)

variable {g g₁ : Generator} {c d : CanonId}

theorem hasRule_or_pending (hg : g.Tabled) {id : ShapeId} (hid : (c, id) ∈ g.shapeOf) :
    (∃ rule, g.HasRule c rule ∧ g.isUnconvertible id = rule.isBoxed) ∨
      g.Pending c ∧ g.isUnconvertible id = false := by
  obtain ⟨row, hrow⟩ : ∃ row, g.rows[id]? = some row :=
    ⟨_, Array.getElem?_eq_getElem (hg.lt_size hid)⟩
  rcases row with ⟨name, _ | rule⟩
  · refine .inr ⟨⟨id, hid, ?_⟩, ?_⟩
    · rw [kindOf?, hrow]
    · rw [isUnconvertible, hrow]
  · refine .inl ⟨rule, ⟨id, hid, ?_⟩, ?_⟩
    · rw [kindOf?, hrow]
    · rw [isUnconvertible, hrow]

/-- A type without fields whose kind does not bar a rule. -/
theorem Made.justified (hmade : g₁.Made g) {kind : CanonKind} {rule : ShapeKind}
    (hkind : g₁.canon.structure? c = some kind) (hfields : kind.fieldTypes = [])
    (hbarred : ¬ g₁.canon.Barred (some kind)) (hopen : rule.isBoxed = false)
    (hrecord : ∀ fields, rule ≠ .record fields) : g.Justified c rule where
  boxed h := by
    rw [hopen] at h
    cases h
  unboxed _ := by
    rw [hmade.canon]
    refine ⟨hkind ▸ hbarred, fun d hd => ?_⟩
    obtain ⟨kind', hkind', hd⟩ := hd
    rw [hkind] at hkind'
    cases hkind'
    rw [hfields] at hd
    cases hd
  record fields h := absurd h (hrecord fields)

theorem justified_record {aliasName : String} {fields : List (String × CanonId)}
    {found : List FieldShape} (hkind : g.canon.structure? c = some (.struct aliasName fields))
    (hopen : ∀ f ∈ fields, (∃ rule, g.HasRule f.2 rule ∧ rule.isBoxed = false) ∨
      ReflTransGen g.canon.Contains f.2 c)
    (hshapes : ∀ f ∈ found, ∃ p ∈ fields, (p.2, f.shape) ∈ g.shapeOf) :
    g.Justified c (.record found) where
  boxed h := by cases h
  unboxed _ := by
    refine ⟨by rw [hkind]; exact id, fun d hd => ?_⟩
    obtain ⟨kind, hkind', hd⟩ := hd
    rw [hkind] at hkind'
    cases hkind'
    obtain ⟨f, hf, rfl⟩ := List.mem_map.1 hd
    exact hopen f hf
  record fields' h f hf := by
    cases h
    obtain ⟨p, hp, hshape⟩ := hshapes f hf
    exact ⟨p.2, ⟨_, hkind, List.mem_map_of_mem hp⟩, hshape⟩

theorem builds_degrade {name reason : String} (hg : g.Tabled)
    (h : g.canon.Unconvertible c) :
    Builds g (degrade name reason) fun rule g' => g'.Justified c rule := by
  refine Builds.bind (Builds.modify hg rfl rfl rfl rfl) fun _ g₂ hg₂ hmade h₂ => .pure hg₂ ?_
  have hjustified : g.Justified c (.boxed reason) :=
    ⟨fun _ => h, fun h => (by cases h), fun _ h => by cases h⟩
  exact hjustified.mono hmade.later

/-- What holds when a step fails for a reason, and what when it finds something. -/
inductive Outcome {α : Type} (failed : Prop) (found : α → Prop) : Except String α → Prop
  | error {reason : String} : failed → Outcome failed found (.error reason)
  | ok {a : α} : found a → Outcome failed found (.ok a)

/-- A type is boxed when what its kind is made of has no rule. -/
theorem builds_orDegrade {α : Type} {m : GenM (Except String α)}
    {next : Except String α → GenM ShapeKind} {rule : α → ShapeKind} {name : String}
    {failed : Generator → Prop} {found : Generator → α → Prop}
    (hm : Builds g m fun result g' => Outcome (failed g') (found g') result)
    (herror : ∀ reason, next (.error reason) = degrade name reason)
    (hok : ∀ a, next (.ok a) = pure (rule a))
    (hfailed : ∀ g', g.Made g' → g'.Tabled → failed g' → g'.canon.Unconvertible c)
    (hfound : ∀ a g', g.Made g' → found g' a → g'.Justified c (rule a)) :
    Builds g (m >>= next) fun rule g' => g'.Justified c rule := by
  refine hm.bind fun result g₂ hg₂ hmade₂ houtcome => ?_
  cases houtcome with
  | error h =>
    rw [herror]
    exact builds_degrade hg₂ (hfailed g₂ hmade₂ hg₂ h)
  | ok h =>
    rw [hok]
    exact .pure hg₂ (hfound _ g₂ hmade₂ h)

theorem builds_registerBridge (hg : g.Tabled) (element : ShapeId) (direction : ChanDir) :
    Builds g (registerBridge element direction) fun _ _ => True := by
  have hfields : ∀ g' : Generator,
      (registerBridge element direction g').2.canon = g'.canon ∧
      (registerBridge element direction g').2.entries = g'.entries ∧
      (registerBridge element direction g').2.rows = g'.rows ∧
      (registerBridge element direction g').2.shapeOf = g'.shapeOf := by
    intro g'
    show (ite _ _ _ : Generator).canon = _ ∧ (ite _ _ _ : Generator).entries = _ ∧
      (ite _ _ _ : Generator).rows = _ ∧ (ite _ _ _ : Generator).shapeOf = _
    split <;> exact ⟨rfl, rfl, rfl, rfl⟩
  obtain ⟨hcanon, hentries, hrows, hshapeOf⟩ := hfields g
  exact ⟨hg.of_eq hcanon hrows hshapeOf, .of_eq hcanon hentries hrows hshapeOf, trivial⟩

theorem isSlice_iff {kind : Option CanonKind} :
    isSlice kind = true ↔ ∃ element, kind = some (.slice element) := by
  constructor
  · intro h
    rcases kind with _ | kind
    · cases h
    · cases kind with
      | slice element => exact ⟨element, rfl⟩
      | _ => cases h
  · rintro ⟨element, rfl⟩
    rfl

/-- The test for a final slice looks at the structure of the last parameter. -/
theorem endsInSlice_iff {s : Session} {params : List CanonId} :
    endsInSlice s params = true ↔ s.EndsInSlice params := by
  rw [endsInSlice, Session.EndsInSlice]
  cases params.getLast? with
  | none => simp
  | some last =>
    simp only [Option.some.injEq, exists_and_left, exists_eq_left']
    exact isSlice_iff

section Parts

variable {shape : CanonId → GenM ShapeId}
  (hshape : ∀ d g, g₁.canon.Contains c d → g.Tabled → g₁.Made g →
    Builds g (shape d) fun id g' => (d, id) ∈ g'.shapeOf)

include hshape

theorem builds_funcShape (f : CanonFunc) (hg : g.Tabled) (hmade : g₁.Made g)
    (hf : ∀ d ∈ f.refs, g₁.canon.Contains c d) :
    Builds g (funcShape shape f) fun result g' =>
      Outcome (g'.canon.BarredFunc f) (fun _ => ¬ g'.canon.BarredFunc f) result := by
  rw [funcShape]
  refine Builds.ite (fun htypeParams => .pure hg (.error (.inl ?_)))
    fun htypeParams => Builds.get ?_
  · simpa using htypeParams
  have hends : (f.variadic && !endsInSlice g.canon f.params) = true ↔
      f.variadic = true ∧ ¬ g.canon.EndsInSlice f.params := by
    rw [Bool.and_eq_true, Bool.not_eq_true', ← Bool.not_eq_true, endsInSlice_iff]
  refine Builds.ite (fun hvariadic => .pure hg (.error (.inr (hends.1 hvariadic))))
    fun hvariadic => ?_
  have hopen : ¬ g.canon.BarredFunc f := by
    rintro (h | h)
    · exact h (by simpa using htypeParams)
    · exact hvariadic (hends.2 h)
  refine (Builds.mapM hg fun d hd g' hg' hmade' => ?_).bind fun params g₂ hg₂ hmade₂ _ => ?_
  · have hstep := hshape d g' (hf d (List.mem_append_left _ hd)) hg' (hmade.trans hmade')
    exact ⟨hstep.tabled, hstep.made, trivial⟩
  refine (Builds.mapM hg₂ fun d hd g' hg' hmade' => ?_).bind fun results g₃ hg₃ hmade₃ _ => ?_
  · have hstep := hshape d g' (hf d (List.mem_append_right _ hd)) hg'
      ((hmade.trans hmade₂).trans hmade')
    exact ⟨hstep.tabled, hstep.made, trivial⟩
  refine .pure hg₃ (.ok ?_)
  rw [hmade₃.canon, hmade₂.canon]
  exact hopen

theorem builds_methodShapes (methods : List CanonMethod) : ∀ {g : Generator}, g.Tabled →
    g₁.Made g → (∀ d ∈ methods.flatMap (·.func.refs), g₁.canon.Contains c d) →
    Builds g (methodShapes shape methods) fun result g' =>
      Outcome (∃ m ∈ methods, g'.canon.BarredFunc m.func)
        (fun _ => ∀ m ∈ methods, ¬ g'.canon.BarredFunc m.func) result := by
  induction methods with
  | nil =>
    intro g hg _ _
    exact .pure hg (.ok (List.forall_mem_nil _))
  | cons m rest ih =>
    intro g hg hmade hrefs
    obtain ⟨name, f⟩ := m
    rw [List.flatMap_cons] at hrefs
    obtain ⟨hf, hrest⟩ := List.forall_mem_append.1 hrefs
    rw [methodShapes]
    refine (builds_funcShape hshape f hg hmade hf).bind fun result g₂ hg₂ hmade₂ hfunc => ?_
    cases hfunc with
    | error hbarred => exact .pure hg₂ (.error ⟨_, List.mem_cons_self, hbarred⟩)
    | ok hopen =>
      refine (ih hg₂ (hmade.trans hmade₂) hrest).bind fun result g₃ hg₃ hmade₃ hmethods => ?_
      rw [← hmade₃.canon] at hopen
      cases hmethods with
      | error hbarred =>
        obtain ⟨m, hm, hbarred⟩ := hbarred
        exact .pure hg₃ (.error ⟨m, List.mem_cons_of_mem _ hm, hbarred⟩)
      | ok hmethods => exact .pure hg₃ (.ok (List.forall_mem_cons.2 ⟨hopen, hmethods⟩))

/-- A field is found to be boxed only once its shape is made. -/
theorem builds_fieldShapes (hback : ∀ p, g₁.Pending p → ReflTransGen g₁.canon.Contains p c)
    (hg₁ : g₁.Tabled) (fields : List (String × CanonId)) : ∀ {g : Generator}, g.Tabled →
    g₁.Made g → (∀ f ∈ fields, g₁.canon.HasField c f.2) →
    Builds g (fieldShapes shape fields) fun result g' =>
      Outcome (∃ f ∈ fields, ∃ reason, g'.HasRule f.2 (.boxed reason))
        (fun found => (∀ f ∈ fields, (∃ rule, g'.HasRule f.2 rule ∧ rule.isBoxed = false) ∨
            ReflTransGen g'.canon.Contains f.2 c) ∧
          ∀ f ∈ found, ∃ p ∈ fields, (p.2, f.shape) ∈ g'.shapeOf) result := by
  induction fields with
  | nil =>
    intro g hg _ _
    exact .pure hg (.ok ⟨List.forall_mem_nil _, List.forall_mem_nil _⟩)
  | cons field rest ih =>
    intro g hg hmade hfields
    obtain ⟨name, type⟩ := field
    obtain ⟨hfield, hrest⟩ := List.forall_mem_cons.1 hfields
    rw [fieldShapes]
    refine (hshape type g hfield.contains hg hmade).bind fun id g₂ hg₂ hmade₂ hid => Builds.get ?_
    refine Builds.ite (fun hboxed => .pure hg₂ (.error ?_)) fun hopen => ?_
    · rcases hasRule_or_pending hg₂ hid with ⟨rule, hrule, heq⟩ | ⟨_, heq⟩
      · rw [hboxed] at heq
        cases rule with
        | boxed reason => exact ⟨_, List.mem_cons_self, reason, hrule⟩
        | _ => cases heq
      · rw [hboxed] at heq
        cases heq
    have hfirst : (∃ rule, g₂.HasRule type rule ∧ rule.isBoxed = false) ∨
        ReflTransGen g₂.canon.Contains type c := by
      rcases hasRule_or_pending hg₂ hid with ⟨rule, hrule, heq⟩ | ⟨hpending, _⟩
      · exact .inl ⟨rule, hrule, heq.symm.trans (Bool.eq_false_of_not_eq_true hopen)⟩
      · have hmade₂ := hmade.trans hmade₂
        rw [hmade₂.canon]
        exact .inr (hback type (hmade₂.pending hg₁ hg₂ hpending))
    refine (ih hg₂ (hmade.trans hmade₂) hrest).bind fun result g₃ hg₃ hmade₃ hfound => ?_
    cases hfound with
    | error hboxed =>
      obtain ⟨f, hf, hreason⟩ := hboxed
      exact .pure hg₃ (.error ⟨f, List.mem_cons_of_mem _ hf, hreason⟩)
    | ok hfound =>
      obtain ⟨hopen, hshapes⟩ := hfound
      refine .pure hg₃ (.ok ⟨List.forall_mem_cons.2 ⟨?_, hopen⟩,
        List.forall_mem_cons.2 ⟨?_, fun f hf => ?_⟩⟩)
      · rw [hmade₃.canon]
        refine hfirst.imp_left fun hfirst => ?_
        obtain ⟨rule, hrule, hopen⟩ := hfirst
        exact ⟨rule, hrule.mono hmade₃.later, hopen⟩
      · exact ⟨_, List.mem_cons_self, hmade₃.shapeOf _ hid⟩
      · obtain ⟨p, hp, hshape⟩ := hshapes f hf
        exact ⟨p, List.mem_cons_of_mem _ hp, hshape⟩

/-- A kind with one part. -/
theorem builds_part {kind : CanonKind} {rule : ShapeId → ShapeKind} (hg : g.Tabled)
    (hmade : g₁.Made g) (hkind : g₁.canon.structure? c = some kind) (hd : d ∈ kind.inner)
    (hfields : kind.fieldTypes = []) (hbarred : ¬ g₁.canon.Barred (some kind))
    (hopen : ∀ id, (rule id).isBoxed = false) (hrecord : ∀ id fields, rule id ≠ .record fields) :
    Builds g (do return rule (← shape d)) fun rule g' => g'.Justified c rule := by
  refine (hshape d g ⟨kind, hkind, hd⟩ hg hmade).bind fun id g₂ hg₂ hmade₂ _ => .pure hg₂ ?_
  exact (hmade.trans hmade₂).justified hkind hfields hbarred (hopen id) (hrecord id)

theorem builds_kindFor (hback : ∀ p, g₁.Pending p → ReflTransGen g₁.canon.Contains p c)
    (hg₁ : g₁.Tabled) (hg : g.Tabled) (hmade : g₁.Made g) (name : String) :
    Builds g (kindFor shape name (g₁.canon.structure? c)) fun rule g' => g'.Justified c rule := by
  have hbarred : g₁.canon.Barred (g₁.canon.structure? c) → ∀ g', g₁.Made g' →
      g'.canon.Unconvertible c := fun h g' hmade' => .barred (by rw [hmade'.canon]; exact h)
  cases hkind : g₁.canon.structure? c with
  | none => exact builds_degrade hg (hbarred (hkind ▸ trivial) g hmade)
  | some kind =>
    cases kind with
    | bool | int width signedness | float precision | string | any | error =>
      exact .pure hg (hmade.justified hkind rfl id rfl fun _ h => by cases h)
    | complex bits | unsafePointer | typeParam param | named other underlying =>
      exact builds_degrade hg (hbarred (hkind ▸ trivial) g hmade)
    | slice element | array length element | pointer element =>
      exact builds_part hshape hg hmade hkind (List.mem_singleton_self _) rfl id (fun _ => rfl)
        fun _ _ h => by cases h
    | map key value =>
      refine Builds.get (Builds.ite (fun hkey => ?_) fun hkey => ?_)
      · rw [hmade.canon] at hkey
        exact builds_part hshape hg hmade hkind (List.mem_singleton_self _) rfl (fun h => h hkey)
          (fun _ => rfl) fun _ _ h => by cases h
      · rw [hmade.canon] at hkey
        exact builds_degrade hg (hbarred (hkind ▸ hkey) g hmade)
    | func f =>
      have hrefs : ∀ d ∈ f.refs, g₁.canon.Contains c d := fun d hd => ⟨_, hkind, hd⟩
      refine builds_orDegrade (builds_funcShape hshape f hg hmade hrefs) (fun _ => rfl)
        (fun _ => rfl) ?_ ?_
      · intro g' hmade' _ hfunc
        have hmade' := hmade.trans hmade'
        rw [hmade'.canon] at hfunc
        exact hbarred (hkind ▸ hfunc) g' hmade'
      · intro func g' hmade' hopen
        have hmade' := hmade.trans hmade'
        rw [hmade'.canon] at hopen
        exact hmade'.justified hkind rfl hopen rfl fun _ h => by cases h
    | chan direction element =>
      refine (hshape element g ⟨_, hkind, List.mem_singleton_self _⟩ hg hmade).bind
        fun id g₂ hg₂ hmade₂ _ => ?_
      refine (builds_registerBridge hg₂ id direction).bind fun _ g₃ hg₃ hmade₃ _ => .pure hg₃ ?_
      exact ((hmade.trans hmade₂).trans hmade₃).justified hkind rfl (fun h => h) rfl
        fun _ h => by cases h
    | interface methods =>
      have hrefs : ∀ d ∈ methods.flatMap (·.func.refs), g₁.canon.Contains c d :=
        fun d hd => ⟨_, hkind, hd⟩
      refine builds_orDegrade (builds_methodShapes hshape methods hg hmade hrefs) (fun _ => rfl)
        (fun _ => rfl) ?_ ?_
      · intro g' hmade' _ hmethods
        have hmade' := hmade.trans hmade'
        rw [hmade'.canon] at hmethods
        exact hbarred (hkind ▸ hmethods) g' hmade'
      · intro found g' hmade' hopen
        have hmade' := hmade.trans hmade'
        rw [hmade'.canon] at hopen
        refine hmade'.justified hkind rfl ?_ rfl fun _ h => by cases h
        rintro ⟨m, hm, hmethod⟩
        exact hopen m hm hmethod
    | struct aliasName fields =>
      have hfields : ∀ f ∈ fields, g₁.canon.HasField c f.2 :=
        fun f hf => ⟨_, hkind, List.mem_map_of_mem hf⟩
      refine builds_orDegrade (builds_fieldShapes hshape hback hg₁ fields hg hmade hfields)
        (fun _ => rfl) (fun _ => rfl) ?_ ?_
      · rintro g' hmade' hg' ⟨f, hf, reason, id, hid, hboxed⟩
        have hfield : g'.canon.HasField c f.2 := (hmade.trans hmade').canon ▸ hfields f hf
        exact .field hfield ((hg'.justified _ hid _ hboxed).boxed rfl)
      · rintro found g' hmade' ⟨hopen, hshapes⟩
        exact justified_record ((hmade.trans hmade').canon ▸ hkind) hopen hshapes

end Parts

theorem kindOf?_reserveShape (g : Generator) (c : CanonId) (name : String) (id : ShapeId) :
    (reserveShape c name g).2.kindOf? id = g.kindOf? id := by
  rw [kindOf?_eq, kindOf?_eq]
  show (g.rows.push ⟨name, none⟩)[id]?.bind _ = _
  rw [Array.getElem?_push]
  split
  · rename_i hid
    rw [hid, Array.getElem?_eq_none (Nat.le_refl _)]
    rfl
  · rfl

theorem later_reserveShape (g : Generator) (c : CanonId) (name : String) :
    g.Later (reserveShape c name g).2 where
  canon := rfl
  shapeOf _ hp := List.mem_cons_of_mem _ hp
  rules id kind hkind := by rw [kindOf?_reserveShape, hkind]

theorem Tabled.reserveShape (hg : g.Tabled) (hc : c < g.canon.size)
    (hnew : c ∉ g.shapeOf.map (·.1)) (name : String) : (reserveShape c name g).2.Tabled where
  canon := hg.canon
  types := List.forall_mem_cons.2 ⟨hc, hg.types⟩
  nodup := List.nodup_cons.2 ⟨hnew, hg.nodup⟩
  ids := by
    show g.rows.size :: g.shapeOf.map (·.2) = (List.range (g.rows.push ⟨name, none⟩).size).reverse
    rw [Array.size_push, List.range_succ, List.reverse_concat, hg.ids]
  justified p hp kind hkind := by
    rw [kindOf?_reserveShape] at hkind
    rcases List.mem_cons.1 hp with rfl | hp
    · rw [kindOf?_eq, Array.getElem?_eq_none (Nat.le_refl _)] at hkind
      cases hkind
    · exact (hg.justified p hp kind hkind).mono (later_reserveShape g c name)

/-- Beside the new row only rows that were being made before are being made. -/
theorem pending_reserveShape {name : String}
    (h : (reserveShape c name g).2.Pending d) : d = c ∨ g.Pending d := by
  obtain ⟨id, hid, hnone⟩ := h
  rw [kindOf?_reserveShape] at hnone
  rcases List.mem_cons.1 hid with heq | hid
  · exact .inl (Prod.mk.inj heq).1
  · exact .inr ⟨id, hid, hnone⟩

theorem free_reserveShape (hc : c < g.canon.size) (hnew : c ∉ g.shapeOf.map (·.1))
    (name : String) : (reserveShape c name g).2.free < g.free := by
  have hkeys : ((reserveShape c name g).2.shapeOf.map (·.1)).toFinset =
      insert c (g.shapeOf.map (·.1)).toFinset := List.toFinset_cons
  have hcanon : (reserveShape c name g).2.canon = g.canon := rfl
  rw [free, free, hkeys, hcanon, Finset.sdiff_insert]
  refine Finset.card_erase_lt_of_mem (Finset.mem_sdiff.2 ⟨Finset.mem_range.2 hc, fun hmem => ?_⟩)
  exact hnew (List.mem_toFinset.1 hmem)

/-- In a state in which the row waits for its rule. -/
theorem kindOf?_setKind {id : ShapeId} (hid : id < g.rows.size) (name : String) (kind : ShapeKind)
    (i : ShapeId) :
    (g.setKind id name kind).kindOf? i = if i = id then some kind else g.kindOf? i := by
  rw [kindOf?_eq, kindOf?_eq, setKind, Array.getElem?_setIfInBounds]
  by_cases h : i = id
  · rw [if_pos h.symm, if_pos h, if_pos hid]
    rfl
  · rw [if_neg fun h' => h h'.symm, if_neg h]

theorem later_setKind {id : ShapeId} (hid : id < g.rows.size) (hnone : g.kindOf? id = none)
    (name : String) (kind : ShapeKind) : g.Later (g.setKind id name kind) where
  canon := rfl
  shapeOf _ hp := hp
  rules i rule hrule := by
    rw [kindOf?_setKind hid, if_neg, hrule]
    rintro rfl
    rw [hnone] at hrule
    cases hrule

theorem Tabled.setKind (hg : g.Tabled) {id : ShapeId} (hid : (c, id) ∈ g.shapeOf)
    (hnone : g.kindOf? id = none) {name : String} {kind : ShapeKind}
    (hkind : g.Justified c kind) : (g.setKind id name kind).Tabled where
  canon := hg.canon
  types := hg.types
  nodup := hg.nodup
  ids := by
    show g.shapeOf.map (·.2) = (List.range (g.rows.setIfInBounds id ⟨name, some kind⟩).size).reverse
    rw [Array.size_setIfInBounds, hg.ids]
  justified p hp rule hrule := by
    have hlater := later_setKind (hg.lt_size hid) hnone name kind
    rw [kindOf?_setKind (hg.lt_size hid)] at hrule
    split at hrule
    · rename_i heq
      cases hrule
      have hp : (p.1, id) ∈ g.shapeOf := heq ▸ hp
      rw [hg.type_unique hp hid]
      exact hkind.mono hlater
    · exact (hg.justified p hp rule hrule).mono hlater

/-- The rows before the one that was reserved are there until its rule is entered, and after. -/
theorem getElem?_rows_setKind {g₂ : Generator} {name : String}
    (h : ∀ (id : ShapeId) row, (reserveShape c name g).2.rows[id]? = some row →
      g₂.rows[id]? = some row)
    (kind : ShapeKind) {id : ShapeId} {row : ShapeRow} (hrow : g.rows[id]? = some row) :
    (g₂.setKind g.rows.size name kind).rows[id]? = some row := by
  have hid : id < g.rows.size := (Array.getElem?_eq_some_iff.1 hrow).1
  have hpush : (reserveShape c name g).2.rows[id]? = some row :=
    (Array.getElem?_push_lt hid).trans ((Array.getElem?_eq_getElem hid).symm.trans hrow)
  show (g₂.rows.setIfInBounds g.rows.size _)[id]? = some row
  rw [Array.getElem?_setIfInBounds, if_neg (Nat.ne_of_gt hid)]
  exact h id row hpush

/-- From the state before a row was reserved to the state after its rule was entered. -/
theorem Made.setKind {g₂ : Generator} {name : String}
    (h : (reserveShape c name g).2.Made g₂) (kind : ShapeKind) :
    g.Made (g₂.setKind g.rows.size name kind) := by
  have hsize : (reserveShape c name g).2.rows.size = g.rows.size + 1 := Array.size_push _
  have hlt : g.rows.size < g₂.rows.size := Nat.lt_of_lt_of_le (by omega) h.size_le
  refine ⟨h.canon, h.entries, fun p hp => h.shapeOf p (List.mem_cons_of_mem _ hp),
    fun id row => getElem?_rows_setKind h.rows kind, fun id hid hid' => ?_⟩
  rw [kindOf?_setKind hlt]
  split
  · exact ⟨kind, rfl⟩
  · rename_i hne
    have hle : (reserveShape c name g).2.rows.size ≤ id :=
      hsize.trans_le (Nat.lt_of_le_of_ne hid (Ne.symm hne))
    exact h.new id hle (hid'.trans_eq Array.size_setIfInBounds)

/-- The rows that are being made belong to types that the type is a part of. -/
theorem builds_shapeIn : ∀ (fuel : Nat) (c : CanonId) (g : Generator), g.Tabled →
    c < g.canon.size → g.free < fuel →
    (∀ p, g.Pending p → ReflTransGen g.canon.Contains p c) →
    Builds g (shapeIn fuel c) fun id g' => (c, id) ∈ g'.shapeOf := by
  intro fuel
  induction fuel with
  | zero => exact fun c g _ _ hfuel => absurd hfuel (Nat.not_lt_zero _)
  | succ fuel ih =>
    intro c g hg hc hfuel hback
    rw [shapeIn]
    refine Builds.get ?_
    cases hlookup : g.shapeOf.lookup c with
    | some id => exact .pure hg (mem_of_lookup hlookup)
    | none =>
      have hnew := lookup_eq_none_iff_not_mem.1 hlookup
      have hg₁ := hg.reserveShape hc hnew (g.canon.typeString c)
      have hfree := free_reserveShape hc hnew (g.canon.typeString c)
      have hback₁ : ∀ p, (reserveShape c (g.canon.typeString c) g).2.Pending p →
          ReflTransGen g.canon.Contains p c := fun p hp => by
        rcases pending_reserveShape hp with rfl | hp
        · exact .refl
        · exact hback p hp
      have hshape : ∀ d g', g.canon.Contains c d → g'.Tabled →
          (reserveShape c (g.canon.typeString c) g).2.Made g' →
          Builds g' (shapeIn fuel d) fun id g'' => (d, id) ∈ g''.shapeOf := by
        intro d g' hd hg' hmade
        refine ih d g' hg' ?_ ?_ fun p hp => ?_
        · rw [hmade.canon]
          exact hg.canon.lt_size hd
        · have := hmade.free_le
          omega
        · rw [hmade.canon]
          exact (hback₁ p (hmade.pending hg₁ hg' hp)).tail hd
      obtain ⟨hg₂, hmade₂, hkind⟩ := builds_kindFor hshape hback₁ hg₁ hg₁ (.refl _)
        (g.canon.typeString c)
      have hid : (c, g.rows.size) ∈ (reserveShape c (g.canon.typeString c) g).2.shapeOf :=
        List.mem_cons_self
      have hnone : (reserveShape c (g.canon.typeString c) g).2.kindOf? g.rows.size = none := by
        rw [kindOf?_reserveShape, kindOf?_eq, Array.getElem?_eq_none (Nat.le_refl _)]
        rfl
      have hnone₂ := (hmade₂.kindOf?_eq_of_lt (hg₁.lt_size hid)).trans hnone
      exact ⟨hg₂.setKind (hmade₂.shapeOf _ hid) hnone₂ hkind, hmade₂.setKind _,
        hmade₂.shapeOf _ hid⟩

theorem builds_shapeFor (hg : g.Tabled) (hc : c < g.canon.size) (hdone : ∀ p, ¬ g.Pending p) :
    Builds g (shapeFor c) fun id g' => (c, id) ∈ g'.shapeOf :=
  Builds.get (builds_shapeIn _ c g hg hc (Nat.lt_succ_of_le g.free_le) fun p hp =>
    absurd hp (hdone p))

end Generator
end ScriptBind
