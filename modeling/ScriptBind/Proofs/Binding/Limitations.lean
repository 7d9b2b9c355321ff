import ScriptBind.Proofs.Binding.Exports

/-!
# ScriptBind.Proofs.Binding.Limitations

Which types become boxes, and that each box is noted as a limitation.

* `Session.Excluded` - the types that cannot be converted, from their kinds.
* `Generator.Balanced` - each limitation is due or stands in a row.
* `GenM.Books` - a step that keeps this.
* `Generator.Degraded` - the boxes of the bindings are the limitations, and belong to such types.
* `Generator.degraded_after` - this holds of any run without failures.
-/

namespace ScriptBind

/-! ### Types that cannot be converted -/

namespace Session

/-- The type cannot be converted: its kind has nothing for scripts to see, or what stands behind its
name or a field cannot be converted. -/
inductive Excluded (s : Session) : CanonId → Prop
  | complex {c : CanonId} {bits : Nat} : s.kind? c = some (.complex bits) → Excluded s c
  | unsafePointer {c : CanonId} : s.kind? c = some .unsafePointer → Excluded s c
  | typeParam {c : CanonId} {name : String} : s.kind? c = some (.typeParam name) → Excluded s c
  | map {c key value : CanonId} : s.kind? c = some (.map key value) →
    s.structure? key ≠ some .string → Excluded s c
  | func {c : CanonId} {f : CanonFunc} : s.kind? c = some (.func f) → s.BarredFunc f → Excluded s c
  | interface {c : CanonId} {methods : List CanonMethod} {m : CanonMethod} :
    s.kind? c = some (.interface methods) → m ∈ methods → s.BarredFunc m.func → Excluded s c
  | named {c u : CanonId} {name : String} : s.kind? c = some (.named name (some u)) →
    Excluded s u → Excluded s c
  | struct {c : CanonId} {aliasName : String} {fields : List (String × CanonId)}
    {f : String × CanonId} : s.kind? c = some (.struct aliasName fields) → f ∈ fields →
    Excluded s f.2 → Excluded s c

/-- A type of this kind is converted, whatever becomes of the types that it mentions. -/
def Conveys (s : Session) : CanonKind → Prop
  | .slice _ => True
  | .array _ _ => True
  | .pointer _ => True
  | .chan _ _ => True
  | .map key _ => s.structure? key = some .string
  | .func f => ¬ s.BarredFunc f
  | .interface methods => ∀ m ∈ methods, ¬ s.BarredFunc m.func
  | _ => False

variable {g : TypeGraph} {s : Session} {c : CanonId} {kind : CanonKind}

theorem Excluded.of_structural (h : s.Excluded (s.structural c)) : s.Excluded c := by
  rw [structural] at h
  split at h
  · rename_i name u hkind
    exact .named hkind h
  · exact h

theorem Conveys.not_unconvertible (hkind : s.structure? c = some kind) (h : s.Conveys kind) :
    ¬ s.Unconvertible c := by
  have hplain : ¬ s.Barred (some kind) ∧ kind.fieldTypes = [] := by
    cases kind with
    | slice element | array length element | pointer element | chan direction element =>
      exact ⟨id, rfl⟩
    | map key value => exact ⟨fun hbarred => hbarred h, rfl⟩
    | func f => exact ⟨h, rfl⟩
    | interface methods => exact ⟨fun ⟨m, hm, hbarred⟩ => h m hm hbarred, rfl⟩
    | _ => exact h.elim
  intro hu
  cases hu with
  | barred hbarred => exact hplain.1 (hkind ▸ hbarred)
  | field hd _ =>
    obtain ⟨kind', hkind', hmem⟩ := hd
    cases hkind.symm.trans hkind'
    rw [hplain.2] at hmem
    cases hmem

section Valid

variable (h : s.Valid g) (hresolved : ∀ name, ¬ s.Unresolved name)

include h hresolved

/-- What stands behind a name is not a name, even if a name stands for several types. -/
theorem Valid.isNominal_structure? (hkind : s.structure? c = some kind) :
    kind.isNominal = false := by
  rw [structure?, structural] at hkind
  split at hkind
  · rename_i name u hnamed
    exact (h.underlying c name u hnamed).plain kind hkind
  · rename_i hother
    cases kind with
    | named name u =>
      cases u with
      | none => exact absurd ⟨c, hkind⟩ (hresolved name)
      | some u => exact absurd hkind (hother name u)
    | _ => rfl

theorem Valid.excluded (hc : c < s.size) (hu : s.Unconvertible c) : s.Excluded c := by
  induction hu with
  | @barred c hbarred =>
    obtain ⟨kind, hkind⟩ := exists_kind? (h.bounded.structural_lt hc)
    have hplain := h.isNominal_structure? hresolved hkind
    rw [structure?, hkind] at hbarred
    refine .of_structural ?_
    cases kind with
    | complex bits => exact .complex hkind
    | unsafePointer => exact .unsafePointer hkind
    | typeParam name => exact .typeParam hkind
    | map key value => exact .map hkind hbarred
    | func f => exact .func hkind hbarred
    | interface methods =>
      obtain ⟨m, hm, hmethod⟩ := hbarred
      exact .interface hkind hm hmethod
    | named name u => cases hplain
    | _ => exact hbarred.elim
  | @field c d hd _ ih =>
    have hlt := h.bounded.lt_size hd.contains
    obtain ⟨kind, hkind, hmem⟩ := hd
    refine .of_structural ?_
    cases kind with
    | struct aliasName fields =>
      obtain ⟨f, hf, rfl⟩ := List.mem_map.1 hmem
      exact .struct hkind hf (ih hlt)
    | _ => cases hmem

end Valid
end Session

/-! ### Limitations and boxes -/

/-- What is noted of a type with this rule. -/
def ShapeKind.limitation? (name : String) : ShapeKind → Option Limitation
  | .boxed reason => some ⟨name, reason⟩
  | _ => none

namespace Generator

variable {g g' : Generator} {due : List Limitation}

def ShapeRow.limitation? (row : ShapeRow) : Option Limitation :=
  row.kind.bind (·.limitation? row.name)

/-- The limitations that the rows tell of. -/
def boxes (g : Generator) : List Limitation := g.rows.toList.filterMap ShapeRow.limitation?

/-- Each limitation is due or stands in a row, and its reason is in words. -/
structure Balanced (due : List Limitation) (g : Generator) : Prop where
  noted : g.limitations.toList.Perm (due ++ g.boxes)
  worded : ∀ l ∈ g.limitations.toList, ' ' ∈ l.reason.toList

/-- What the books are about. -/
def books (g : Generator) : Array ShapeRow × Array Limitation := (g.rows, g.limitations)

theorem Balanced.of_eq (h : g.Balanced due) (hbooks : g'.books = g.books) : g'.Balanced due := by
  obtain ⟨hrows, hlimitations⟩ := Prod.mk.inj hbooks
  refine ⟨?_, hlimitations ▸ h.worded⟩
  rw [hlimitations, boxes, hrows]
  exact h.noted

theorem balanced_empty : empty.Balanced [] := ⟨.nil, List.forall_mem_nil _⟩

end Generator

/-! ### Steps -/

namespace GenM

open Generator (books)

variable {α β : Type} {due : α → List Limitation} {due' : β → List Limitation} {Q : α → Prop}
  {Q' : β → Prop}

/-- Taken while nothing is due, the step leaves due what `due` says, and its answer is as `Q` says.
No row that was there is changed. -/
def Books (due : α → List Limitation) (m : GenM α) (Q : α → Prop) : Prop :=
  ∀ g : Generator, g.Balanced [] → (m g).2.Balanced (due (m g).1) ∧
    (∀ (id : ShapeId) row, g.rows[id]? = some row → (m g).2.rows[id]? = some row) ∧ Q (m g).1

/-- A step after which nothing is due. -/
abbrev Settles (m : GenM α) (Q : α → Prop) : Prop := Books (fun _ => []) m Q

namespace Books

theorem pure {a : α} (hdue : due a = []) (h : Q a) : Books due (Pure.pure a) Q :=
  fun _ hg => ⟨hdue.symm ▸ hg, fun _ _ hrow => hrow, h⟩

theorem bind {m : GenM α} {k : α → GenM β} (hm : Settles m Q)
    (hk : ∀ a, Q a → Books due' (k a) Q') : Books due' (m >>= k) Q' := by
  intro g hg
  obtain ⟨hbalanced, hrows, ha⟩ := hm g hg
  obtain ⟨hbalanced', hrows', hb⟩ := hk _ ha _ hbalanced
  exact ⟨hbalanced', fun id row hrow => hrows' id row (hrows id row hrow), hb⟩

theorem get {k : Generator → GenM β} (hk : ∀ g, Books due' (k g) Q') :
    Books due' (MonadState.get >>= k) Q' := fun g hg => hk g g hg

theorem ite {p : Prop} [Decidable p] {m m' : GenM α} (hm : Books due m Q) (hm' : Books due m' Q) :
    Books due (if p then m else m') Q := by
  split
  · exact hm
  · exact hm'

theorem of_keeps {m : GenM α} (hm : Keeps books m) : Settles m fun _ => True := by
  refine fun g hg => ⟨hg.of_eq (hm g), fun id row hrow => ?_, trivial⟩
  rw [(Prod.mk.inj (hm g)).1]
  exact hrow

theorem mapM {f : α → GenM β} (hf : ∀ x, Settles (f x) fun _ => True) (xs : List α) :
    Settles (xs.mapM f) fun _ => True := by
  induction xs with
  | nil => exact .pure rfl trivial
  | cons x rest ih =>
    rw [List.mapM_cons]
    exact (hf x).bind fun y _ => ih.bind fun ys _ => .pure rfl trivial

end Books
end GenM

namespace Generator

open GenM (Books Keeps Settles)

variable {g g' : Generator}

theorem space_mem_append_left {a b : String} (h : ' ' ∈ a.toList) : ' ' ∈ (a ++ b).toList := by
  rw [String.toList_append]
  exact List.mem_append_left _ h

theorem space_mem_append_right {a b : String} (h : ' ' ∈ b.toList) : ' ' ∈ (a ++ b).toList := by
  rw [String.toList_append]
  exact List.mem_append_right _ h

/-- The one step that notes a limitation. -/
theorem books_degrade {name reason : String} (h : ' ' ∈ reason.toList) :
    Books (fun kind => (kind.limitation? name).toList) (degrade name reason) fun _ => True := by
  intro g hg
  have hlimitations : (degrade name reason g).2.limitations.toList =
      g.limitations.toList ++ [⟨name, reason⟩] := Array.toList_push
  refine ⟨⟨?_, fun l hl => ?_⟩, fun _ _ hrow => hrow, trivial⟩
  · rw [hlimitations]
    exact List.perm_append_comm.trans (hg.noted.append_left _)
  · rw [hlimitations] at hl
    rcases List.mem_append.1 hl with hl | hl
    · exact hg.worded l hl
    · rw [List.mem_singleton.1 hl]
      exact h

theorem settles_registerBridge (element : ShapeId) (direction : ChanDir) :
    Settles (registerBridge element direction) fun _ => True := by
  refine .of_keeps (.modify fun g => ?_)
  split <;> rfl

/-- Why there is no shape is said in words. -/
def Worded {α : Type} (result : Except String α) : Prop :=
  ∀ reason, result = .error reason → ' ' ∈ reason.toList

theorem worded_ok {α : Type} (a : α) : Worded (.ok a : Except String α) := nofun

theorem worded_error {α : Type} {reason : String} (h : ' ' ∈ reason.toList) :
    Worded (.error reason : Except String α) := by
  rintro _ ⟨⟩
  exact h

section Parts

variable {shape : CanonId → GenM ShapeId} (hshape : ∀ d, Settles (shape d) fun _ => True)

include hshape

theorem settles_funcShape (f : CanonFunc) : Settles (funcShape shape f) Worded := by
  rw [funcShape]
  refine .ite (.pure rfl (worded_error ?_)) (.get fun g => .ite (.pure rfl (worded_error ?_)) ?_)
  · exact space_mem_append_right (by decide)
  · decide
  · exact (Books.mapM hshape f.params).bind fun params _ =>
      (Books.mapM hshape f.results).bind fun results _ => .pure rfl (worded_ok _)

theorem settles_methodShapes (methods : List CanonMethod) :
    Settles (methodShapes shape methods) Worded := by
  induction methods with
  | nil => exact .pure rfl (worded_ok _)
  | cons m rest ih =>
    refine (settles_funcShape hshape m.func).bind fun result hresult => ?_
    split
    · exact .pure rfl (worded_error (space_mem_append_right (hresult _ rfl)))
    · refine ih.bind fun result hresult => ?_
      split
      · exact .pure rfl hresult
      · exact .pure rfl (worded_ok _)

theorem settles_fieldShapes (fields : List (String × CanonId)) :
    Settles (fieldShapes shape fields) Worded := by
  induction fields with
  | nil => exact .pure rfl (worded_ok _)
  | cons f rest ih =>
    refine (hshape f.2).bind fun id _ => .get fun g => .ite (.pure rfl (worded_error ?_)) ?_
    · exact space_mem_append_left (space_mem_append_right (by decide))
    · refine ih.bind fun result hresult => ?_
      split
      · exact .pure rfl hresult
      · exact .pure rfl (worded_ok _)

theorem books_kindFor (name : String) (kind : Option CanonKind) :
    Books (fun rule => (rule.limitation? name).toList) (kindFor shape name kind)
      fun _ => True := by
  cases kind with
  | none => exact books_degrade (by decide)
  | some kind =>
    cases kind with
    | bool | int width signedness | float precision | string | any | error =>
      exact .pure rfl trivial
    | complex bits => exact books_degrade (space_mem_append_right (by decide))
    | unsafePointer | named other underlying => exact books_degrade (by decide)
    | typeParam param => exact books_degrade (space_mem_append_right (by decide))
    | slice element | array length element | pointer element =>
      exact (hshape element).bind fun _ _ => .pure rfl trivial
    | map key value =>
      refine .get fun g => .ite ((hshape value).bind fun _ _ => .pure rfl trivial) ?_
      exact books_degrade (space_mem_append_right (by decide))
    | func f =>
      refine (settles_funcShape hshape f).bind fun result hresult => ?_
      split
      · exact .pure rfl trivial
      · exact books_degrade (hresult _ rfl)
    | chan direction element =>
      exact (hshape element).bind fun id _ =>
        (settles_registerBridge id direction).bind fun _ _ => .pure rfl trivial
    | interface methods =>
      refine (settles_methodShapes hshape methods).bind fun result hresult => ?_
      split
      · exact .pure rfl trivial
      · exact books_degrade (hresult _ rfl)
    | struct aliasName fields =>
      refine (settles_fieldShapes hshape fields).bind fun result hresult => ?_
      split
      · exact .pure rfl trivial
      · exact books_degrade (hresult _ rfl)

end Parts

theorem boxes_reserveShape (g : Generator) (c : CanonId) (name : String) :
    (reserveShape c name g).2.boxes = g.boxes := by
  have hrows : (reserveShape c name g).2.rows.toList = g.rows.toList ++ [⟨name, none⟩] :=
    Array.toList_push
  rw [boxes, hrows, List.filterMap_append]
  exact List.append_nil _

/-- With its rule a row tells of one limitation more if the rule is a box. -/
theorem boxes_setKind {id : ShapeId} {name : String}
    (hrow : g.rows[id]? = some ⟨name, none⟩) (kind : ShapeKind) :
    (g.setKind id name kind).boxes.Perm ((kind.limitation? name).toList ++ g.boxes) := by
  have hrow : g.rows.toList[id]? = some ⟨name, none⟩ := Array.getElem?_toList.trans hrow
  obtain ⟨hlt, hget⟩ := List.getElem?_eq_some_iff.1 hrow
  have hrest : g.boxes.Perm ((g.rows.toList.eraseIdx id).filterMap ShapeRow.limitation?) := by
    have hperm := (List.getElem_cons_eraseIdx_perm hlt).symm.filterMap ShapeRow.limitation?
    rw [hget] at hperm
    exact hperm
  have hset : (g.setKind id name kind).rows.toList = g.rows.toList.set id ⟨name, some kind⟩ :=
    Array.toList_setIfInBounds
  rw [boxes, hset]
  refine ((List.set_perm_cons_eraseIdx hlt _).filterMap _).trans ?_
  have hrule : ShapeRow.limitation? ⟨name, some kind⟩ = kind.limitation? name := rfl
  rw [List.filterMap_cons, hrule]
  cases kind.limitation? name with
  | none => exact hrest.symm
  | some l => exact hrest.symm.cons l

/-- What became due when the rule was made stands in the row once the rule is entered. The shapes
inside it are made while nothing is due. -/
theorem settles_shapeIn (fuel : Nat) (c : CanonId) : Settles (shapeIn fuel c) fun _ => True := by
  induction fuel generalizing c with
  | zero => exact .pure rfl trivial
  | succ fuel ih =>
    rw [shapeIn]
    refine .get fun before => ?_
    split
    · exact .pure rfl trivial
    · intro g hg
      have hreserved : (reserveShape c (before.canon.typeString c) g).2.Balanced [] :=
        ⟨(boxes_reserveShape g c _).symm ▸ hg.noted, hg.worded⟩
      obtain ⟨hdue, hrows, _⟩ := books_kindFor ih (before.canon.typeString c)
        (before.canon.structure? c) _ hreserved
      have hrow := hrows g.rows.size _ Array.getElem?_push_size
      exact ⟨⟨hdue.noted.trans (boxes_setKind hrow _).symm, hdue.worded⟩,
        fun _ _ => getElem?_rows_setKind hrows _, trivial⟩

/-! ### Calls -/

variable {graph : TypeGraph} {calls : List Call} {roots : List ConverterKey}

theorem settles_shape (graph : TypeGraph) (type : TypeId) :
    Settles (shape graph type) fun _ => True := by
  have hcanonical : Keeps books (canonical graph type) := fun _ => rfl
  refine (Books.of_keeps hcanonical).bind fun result _ => ?_
  cases result with
  | error e => exact .pure rfl trivial
  | ok c => exact (Books.get fun g => settles_shapeIn _ c).bind fun _ _ => .pure rfl trivial

theorem settles_add (graph : TypeGraph) (type : TypeId) (direction : Direction) :
    Settles (add graph type direction) fun _ => True := by
  refine (settles_shape graph type).bind fun result _ => ?_
  cases result with
  | error e => exact .pure rfl trivial
  | ok id =>
    have hentry : Keeps books (entryFor id direction) :=
      keeps_entryFor (fun _ _ _ => rfl) id direction
    exact (Books.of_keeps hentry).bind fun _ _ => .pure rfl trivial

theorem settles_call (graph : TypeGraph) (c : Call) : Settles (c.run graph) fun _ => True := by
  cases c with
  | add type direction => exact settles_add graph type direction
  | shape type => exact settles_shape graph type
  | request r =>
    refine (settles_add graph r.type r.direction).bind fun result _ => ?_
    cases result with
    | error e => exact .pure rfl trivial
    | ok id =>
      refine (Books.of_keeps (.modify fun g => ?_)).bind fun _ _ => .pure rfl trivial
      rw [addExport]
      split <;> rfl

/-- Between two calls nothing is due, even if calls fail. -/
theorem balanced_after (calls : List Call) (hg : g.Balanced []) :
    (after graph calls g).Balanced [] := by
  induction calls generalizing g with
  | nil => exact hg
  | cons c rest ih => exact ih (settles_call graph c g hg).1

/-! ### The bindings -/

/-- What the bindings have for the nodes that are asked for and for what these contain, as far as
boxes go. -/
structure Degraded (graph : TypeGraph) (asked : List (TypeId × ShapeId)) (g : Generator) :
    Prop where
  asked : ∀ p ∈ asked, ∃ c, g.canon.Represents graph p.1 c ∧ (c, p.2) ∈ g.shapeOf
  typed : ∀ shape ∈ g.finish.shapes.shapes.toList, ∃! c, (c, shape.id) ∈ g.shapeOf
  /-- No shape is as it was when its place was reserved. -/
  made : ∀ shape ∈ g.finish.shapes.shapes.toList,
    g.kindOf? shape.id = some shape.kind ∧ shape.kind ≠ .boxed "unresolved"
  noted : (g.finish.shapes.shapes.toList.filterMap fun s => s.kind.limitation? s.name).Perm
    g.finish.limitations
  boxed : ∀ shape ∈ g.finish.shapes.shapes.toList, ∀ c, (c, shape.id) ∈ g.shapeOf →
    shape.kind.isBoxed = true → g.canon.Excluded c
  conveyed : ∀ shape ∈ g.finish.shapes.shapes.toList, ∀ c, (c, shape.id) ∈ g.shapeOf →
    ∀ kind, g.canon.structure? c = some kind → g.canon.Conveys kind → shape.kind.isBoxed = false

theorem exists_row_of_mem_finish {shape : Shape}
    (h : shape ∈ g.finish.shapes.shapes.toList) : ∃ row, g.rows[shape.id]? = some row ∧
      shape.name = row.name ∧ shape.kind = row.kind.getD (.boxed "unresolved") := by
  obtain ⟨id, hid⟩ := ShapeTable.exists_get?_of_mem h
  rw [finish, get?_shapeTable] at hid
  obtain ⟨row, hrow, rfl⟩ := Option.map_eq_some_iff.1 hid
  exact ⟨row, hrow, rfl, rfl⟩

namespace Complete

variable (h : g.Complete)

include h

theorem kindOf?_of_mem_finish {shape : Shape} (hshape : shape ∈ g.finish.shapes.shapes.toList) :
    g.kindOf? shape.id = some shape.kind := by
  obtain ⟨row, hrow, _, hkind⟩ := exists_row_of_mem_finish hshape
  obtain ⟨rule, hrule, _⟩ := h shape.id (Array.getElem?_eq_some_iff.1 hrow).1
  rw [kindOf?_eq, hrow] at hrule
  have hrule : row.kind = some rule := hrule
  rw [kindOf?_eq, hrow, hkind]
  show row.kind = some (row.kind.getD _)
  rw [hrule]
  rfl

theorem filterMap_shapes_finish :
    (g.finish.shapes.shapes.toList.filterMap fun s => s.kind.limitation? s.name) = g.boxes := by
  have hshapes : g.finish.shapes.shapes.toList.map (fun s => (s.name, s.kind)) =
      g.rows.toList.map fun row => (row.name, row.kind.getD (.boxed "unresolved")) :=
    ShapeTable.map_ofList _
  have hmap := congrArg (List.filterMap fun p : String × ShapeKind => p.2.limitation? p.1) hshapes
  rw [List.filterMap_map, List.filterMap_map] at hmap
  refine hmap.trans (List.filterMap_congr fun row hrow => ?_)
  obtain ⟨id, hid⟩ := List.getElem?_of_mem hrow
  rw [Array.getElem?_toList] at hid
  obtain ⟨rule, hrule, _⟩ := h id (Array.getElem?_eq_some_iff.1 hid).1
  rw [kindOf?_eq, hid] at hrule
  have hrule : row.kind = some rule := hrule
  show (row.kind.getD _).limitation? row.name = row.kind.bind _
  rw [hrule]
  rfl

end Complete

theorem Settled.degraded (h : Settled graph roots g) (hbalanced : g.Balanced [])
    {asked : List (TypeId × ShapeId)}
    (hasked : ∀ p ∈ asked, ∃ c, g.canon.Represents graph p.1 c ∧ (c, p.2) ∈ g.shapeOf) :
    Degraded graph asked g := by
  have hnoted : (g.finish.shapes.shapes.toList.filterMap fun s => s.kind.limitation? s.name).Perm
      g.finish.limitations := by
    rw [h.complete.filterMap_shapes_finish]
    exact hbalanced.noted.symm
  have hwhy : ∀ shape ∈ g.finish.shapes.shapes.toList, ∀ c, (c, shape.id) ∈ g.shapeOf →
      shape.kind.isBoxed = true → g.canon.Unconvertible c := fun shape hshape c hc =>
    (h.tabled.justified _ hc _ (h.complete.kindOf?_of_mem_finish hshape)).boxed
  refine ⟨hasked, fun shape hshape => ?_, fun shape hshape => ⟨?_, fun hkind => ?_⟩, hnoted,
    fun shape hshape c hc hboxed => ?_, fun shape hshape c hc kind hkind hconveys => ?_⟩
  · obtain ⟨row, hrow, _⟩ := exists_row_of_mem_finish hshape
    obtain ⟨c, hc⟩ := h.tabled.exists_type (Array.getElem?_eq_some_iff.1 hrow).1
    exact ⟨c, hc, fun d hd => h.tabled.type_unique hd hc⟩
  · exact h.complete.kindOf?_of_mem_finish hshape
  · have hmem : ⟨shape.name, "unresolved"⟩ ∈ g.finish.limitations :=
      hnoted.mem_iff.1 (List.mem_filterMap.2 ⟨shape, hshape, by rw [hkind]; rfl⟩)
    have hspace : ' ' ∈ "unresolved".toList := hbalanced.worded _ hmem
    exact absurd hspace (by decide)
  · exact h.canon.excluded h.resolved (h.tabled.types _ hc) (hwhy shape hshape c hc hboxed)
  · refine Bool.eq_false_of_not_eq_true fun hboxed => ?_
    exact hconveys.not_unconvertible hkind (hwhy shape hshape c hc hboxed)

/-- Whatever the graph and whatever is asked for, in any order, as long as nothing fails. -/
theorem degraded_after (hok : Succeeds graph calls empty) :
    Degraded graph (shapesAsked graph calls empty) (after graph calls empty) :=
  (settled_after (settled_empty graph) hok).1.degraded (balanced_after calls balanced_empty)
    fun _ => represents_of_mem_shapesAsked (settled_empty graph) hok

def chord : FuncSig := ⟨[⟨none, 7⟩], [⟨none, 5⟩], true, none, []⟩

def solo : FuncSig := ⟨[⟨none, 5⟩], [], true, none, []⟩

/-- A struct that contains pointers to itself and a field without a rule, a slice of it, and
variadic functions: the last parameter of `chord` is a slice, that of `solo` is not. -/
def wave : TypeGraph where
  nodes := #[.complex 128, .named "lab.Wave" (some 2) [], .struct [⟨"next", 3⟩, ⟨"phase", 0⟩],
    .pointer 1, .slice 1, .int 64 .signed, .map 5 1, .slice 5, .func chord, .func solo,
    .interface [⟨"Add", chord⟩], .interface [⟨"Set", solo⟩]]
  names := [("lab.Wave", 1)]

def waveCalls : List Call :=
  [.shape 4, .request ⟨"wave", 1, .toScript⟩, .add 6 .fromScript, .shape 8, .shape 9, .shape 10,
    .add 11 .toScript]

theorem degraded_after_wave : Succeeds wave waveCalls empty ∧
    Degraded wave (shapesAsked wave waveCalls empty) (after wave waveCalls empty) ∧
    (after wave waveCalls empty).finish.limitations =
      [⟨"complex128", "complex128 values have no script representation"⟩,
        ⟨"lab.Wave", "field phase has unconvertible type complex128"⟩,
        ⟨"map[int64]lab.Wave", "map key type int64 is not a string"⟩,
        ⟨"func(...int64)", "variadic parameter is not a slice"⟩,
        ⟨"interface \x7b Set(...int64) \x7d", "method Set: variadic parameter is not a slice"⟩] ∧
    (after wave waveCalls empty).finish.shapes.get? 5 =
      some ⟨5, "func(...int64) int64", .func ⟨[6], [7], true⟩⟩ := by
  have hok : Succeeds wave waveCalls empty := by decide +kernel
  exact ⟨hok, degraded_after hok, by decide +kernel, by decide +kernel⟩

end Generator
end ScriptBind
