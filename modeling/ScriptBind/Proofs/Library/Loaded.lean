import ScriptBind.Library.Call
import ScriptBind.Proofs.Binding.Finish
import ScriptBind.Proofs.Binding.Manifest
import ScriptBind.Proofs.Shape.Table

/-!
# ScriptBind.Proofs.Library.Loaded

Tables of shapes that are loaded from a text. A shape states its id, and a name leads to the id
that the first shape of this name states; by its id a shape is found at a position. The two fit
together in every table that was made by adding shapes, but a text may state any ids.

* `ShapeTable.Resolves` - a name leads to a shape of this name.
* `ShapeTable.Positioned` - each shape states its position.
* `ShapeTable.forall_resolves_iff_first` - the first shape of each name decides for that name.
* `ShapeTable.resolves_iff_positioned` - the same, if no two shapes have one name.
* `Library.read?_text` - loading neither checks nor repairs what a text states.
* `Library.fits_of_read?` - and what is loaded has the sizes that the text has for it.
* `Library.names_of_read?` - when the names in a loaded library lead where they should.
-/

namespace ScriptBind

/-! ### Names and positions -/

namespace ShapeTable

variable {t : ShapeTable} {name : String} {id : ShapeId} {shape : Shape}

/-- Where a name leads. -/
def idOf? (t : ShapeTable) (name : String) : Option ShapeId := (t.find? name).map (·.id)

def Resolves (t : ShapeTable) (name : String) : Prop :=
  ∀ id, t.idOf? name = some id → ∃ shape, t.get? id = some shape ∧ shape.name = name

def Positioned (t : ShapeTable) : Prop := ∀ id shape, t.get? id = some shape → shape.id = id

/-- The shape stands at this position, and no shape before it has its name. -/
def IsFirst (t : ShapeTable) (i : ShapeId) (shape : Shape) : Prop :=
  t.get? i = some shape ∧ ∀ j < i, ∀ earlier, t.get? j = some earlier → earlier.name ≠ shape.name

theorem mem_of_find? (h : t.find? name = some shape) :
    shape ∈ t.shapes.toList ∧ shape.name = name :=
  ⟨List.mem_of_find?_eq_some h, by simpa using List.find?_some h⟩

/-- What is found by a name is found by the id that it states. -/
theorem Positioned.get?_of_find? (h : t.Positioned) (hfind : t.find? name = some shape) :
    t.get? shape.id = some shape := by
  obtain ⟨id, hid⟩ := exists_get?_of_mem (mem_of_find? hfind).1
  rw [h id shape hid]
  exact hid

theorem Positioned.resolves (h : t.Positioned) (name : String) : t.Resolves name := by
  intro id hid
  obtain ⟨shape, hfind, rfl⟩ := Option.map_eq_some_iff.1 hid
  exact ⟨shape, h.get?_of_find? hfind, (mem_of_find? hfind).2⟩

/-- Only the shapes that are found by their names count. -/
theorem forall_resolves_iff : (∀ name, t.Resolves name) ↔
    ∀ shape, t.find? shape.name = some shape →
      ∃ found, t.get? shape.id = some found ∧ found.name = shape.name := by
  constructor
  · intro h shape hfind
    exact h shape.name shape.id (by rw [idOf?, hfind]; rfl)
  · intro h name id hid
    obtain ⟨shape, hfind, rfl⟩ := Option.map_eq_some_iff.1 hid
    obtain rfl := (mem_of_find? hfind).2
    exact h shape hfind

theorem get?_eq_getElem? (t : ShapeTable) (i : ShapeId) : t.get? i = t.shapes.toList[i]? :=
  Array.getElem?_toList.symm

theorem find?_name_iff : t.find? shape.name = some shape ↔ ∃ i, t.IsFirst i shape := by
  simp only [find?, List.find?_eq_some_iff_getElem, IsFirst, get?_eq_getElem?]
  constructor
  · rintro ⟨-, i, hi, hshape, hbefore⟩
    refine ⟨i, List.getElem?_eq_some_iff.2 ⟨hi, hshape⟩, fun j hj earlier hearlier => ?_⟩
    obtain ⟨_, rfl⟩ := List.getElem?_eq_some_iff.1 hearlier
    simpa using hbefore j hj
  · rintro ⟨i, hshape, hbefore⟩
    obtain ⟨hi, hshape⟩ := List.getElem?_eq_some_iff.1 hshape
    refine ⟨decide_eq_true trivial, i, hi, hshape, fun j hj => ?_⟩
    have hother := hbefore j hj _ (List.getElem?_eq_getElem (Nat.lt_trans hj hi))
    simpa using hother

theorem forall_resolves_iff_first : (∀ name, t.Resolves name) ↔
    ∀ i shape, t.IsFirst i shape →
      ∃ found, t.get? shape.id = some found ∧ found.name = shape.name := by
  rw [forall_resolves_iff]
  constructor
  · intro h i shape hfirst
    exact h shape (find?_name_iff.2 ⟨i, hfirst⟩)
  · intro h shape hfind
    obtain ⟨i, hfirst⟩ := find?_name_iff.1 hfind
    exact h i shape hfirst

section Distinct

variable (hnames : (t.shapes.toList.map (·.name)).Nodup)

include hnames

theorem find?_of_get? (hid : t.get? id = some shape) : t.find? shape.name = some shape := by
  have hmem := mem_of_get? hid
  have hsome : (t.find? shape.name).isSome := List.find?_isSome.2 ⟨shape, hmem, by simp⟩
  obtain ⟨found, hfound⟩ := Option.isSome_iff_exists.1 hsome
  obtain ⟨hmem', hname⟩ := mem_of_find? hfound
  rw [hfound, List.inj_on_of_nodup_map hnames hmem' hmem hname]

theorem eq_of_name_eq {id' : ShapeId} {shape' : Shape} (hid : t.get? id = some shape)
    (hid' : t.get? id' = some shape') (hname : shape.name = shape'.name) : id = id' := by
  have hindex : ∀ {i : ShapeId} {s : Shape}, t.get? i = some s →
      (t.shapes.toList.map (·.name))[i]? = some s.name := by
    intro i s hi
    rw [List.getElem?_map, ← get?_eq_getElem?, hi]
    rfl
  have hlt := (List.getElem?_eq_some_iff.1 (hindex hid)).1
  exact (List.getElem?_inj hlt hnames).1 ((hindex hid).trans (hname ▸ (hindex hid').symm))

theorem resolves_iff_positioned : (∀ name, t.Resolves name) ↔ t.Positioned := by
  refine ⟨fun h id shape hid => ?_, Positioned.resolves⟩
  obtain ⟨found, hfound, hname⟩ := forall_resolves_iff.1 h shape (find?_of_get? hnames hid)
  exact eq_of_name_eq hnames hfound hid hname

end Distinct

theorem positioned_ofList (shapes : List (String × ShapeKind)) : (ofList shapes).Positioned := by
  intro id shape hid
  rw [get?_ofList] at hid
  obtain ⟨p, _, rfl⟩ := Option.map_eq_some_iff.1 hid
  rfl

/-- A manifest of shapes only. -/
def text (t : ShapeTable) : String := (Json.record [("shapes", Manifest.tableJson t)]).pretty

end ShapeTable

/-! ### Sizes -/

namespace Manifest

variable {j : Json}

theorem nat?_lt {bits n : Nat} (h : j.nat? bits = some n) : n < 1 <<< bits := by
  cases j with
  | int i =>
    rw [Json.nat?] at h
    split at h
    · cases h
      exact And.right ‹_›
    · cases h
  | _ => cases h

theorem forall_of_list? {α : Type} {item : Json → Option α} {P : α → Prop} {found : List α}
    (hitem : ∀ j a, item j = some a → P a) (h : j.list? item = some found) : ∀ a ∈ found, P a := by
  cases j with
  | array items =>
    replace h : items.mapM item = some found := h
    induction items generalizing found with
    | nil =>
      cases h
      exact List.forall_mem_nil _
    | cons j items ih =>
      rw [List.mapM_cons] at h
      obtain ⟨a, ha, h⟩ := Option.bind_eq_some_iff.1 h
      obtain ⟨rest, hrest, h⟩ := Option.bind_eq_some_iff.1 h
      cases h
      exact List.forall_mem_cons.2 ⟨hitem j a ha, ih hrest⟩
  | _ => cases h

theorem below_of_func? {f : FuncShape} (h : func? j = some f) :
    (ShapeKind.func f).Below (1 <<< 32) := by
  rw [func?] at h
  split at h
  · obtain ⟨params, hparams, h⟩ := Option.bind_eq_some_iff.1 h
    obtain ⟨results, hresults, h⟩ := Option.bind_eq_some_iff.1 h
    obtain ⟨variadic, _, h⟩ := Option.bind_eq_some_iff.1 h
    cases h
    exact List.forall_mem_append.2 ⟨forall_of_list? (fun _ _ => nat?_lt) hparams,
      forall_of_list? (fun _ _ => nat?_lt) hresults⟩
  · cases h

theorem below_of_method? {m : MethodShape} (h : method? j = some m) :
    (ShapeKind.func m.func).Below (1 <<< 32) := by
  rw [method?] at h
  split at h
  · obtain ⟨name, _, h⟩ := Option.bind_eq_some_iff.1 h
    obtain ⟨f, hf, h⟩ := Option.bind_eq_some_iff.1 h
    cases h
    exact below_of_func? hf
  · cases h

theorem lt_of_field? {f : FieldShape} (h : field? j = some f) : f.shape < 1 <<< 32 := by
  rw [field?] at h
  split at h
  · obtain ⟨name, _, h⟩ := Option.bind_eq_some_iff.1 h
    obtain ⟨shape, hshape, h⟩ := Option.bind_eq_some_iff.1 h
    cases h
    exact nat?_lt hshape
  · cases h

theorem eq_of_plain? {kind found : ShapeKind} (h : plain? kind j = some found) : found = kind := by
  unfold plain? at h
  split at h <;> cases h
  rfl

theorem fits_of_kindBody? {tag : String} {kind : ShapeKind} (h : kindBody? tag j = some kind) :
    kind.Below (1 <<< 32) ∧ kind.isSized = true := by
  unfold kindBody? at h
  split at h
  case h_1 | h_2 | h_3 | h_4 =>
    rw [eq_of_plain? h]
    exact ⟨List.forall_mem_nil _, rfl⟩
  case h_5 =>
    obtain ⟨⟨width, signedness⟩, _, h⟩ := Option.bind_eq_some_iff.1 h
    obtain ⟨w, hw, h⟩ := Option.bind_eq_some_iff.1 h
    obtain ⟨_, _, h⟩ := Option.bind_eq_some_iff.1 h
    cases h
    exact ⟨List.forall_mem_nil _, decide_eq_true (nat?_lt hw)⟩
  case h_6 =>
    obtain ⟨_, _, h⟩ := Option.bind_eq_some_iff.1 h
    obtain ⟨_, _, h⟩ := Option.bind_eq_some_iff.1 h
    cases h
    exact ⟨List.forall_mem_nil _, rfl⟩
  case h_8 =>
    obtain ⟨⟨element, length⟩, _, h⟩ := Option.bind_eq_some_iff.1 h
    obtain ⟨id, hid, h⟩ := Option.bind_eq_some_iff.1 h
    obtain ⟨n, hn, h⟩ := Option.bind_eq_some_iff.1 h
    cases h
    exact ⟨List.forall_mem_singleton.2 (nat?_lt hid), decide_eq_true (nat?_lt hn)⟩
  case h_7 | h_9 | h_10 =>
    obtain ⟨_, _, h⟩ := Option.bind_eq_some_iff.1 h
    obtain ⟨id, hid, h⟩ := Option.bind_eq_some_iff.1 h
    cases h
    exact ⟨List.forall_mem_singleton.2 (nat?_lt hid), rfl⟩
  case h_11 =>
    obtain ⟨f, hf, h⟩ := Option.bind_eq_some_iff.1 h
    cases h
    exact ⟨below_of_func? hf, rfl⟩
  case h_12 =>
    obtain ⟨⟨direction, element⟩, _, h⟩ := Option.bind_eq_some_iff.1 h
    obtain ⟨_, _, h⟩ := Option.bind_eq_some_iff.1 h
    obtain ⟨id, hid, h⟩ := Option.bind_eq_some_iff.1 h
    cases h
    exact ⟨List.forall_mem_singleton.2 (nat?_lt hid), rfl⟩
  case h_13 =>
    obtain ⟨_, _, h⟩ := Option.bind_eq_some_iff.1 h
    obtain ⟨methods, hmethods, h⟩ := Option.bind_eq_some_iff.1 h
    cases h
    have hfuncs := forall_of_list? (fun _ _ => below_of_method?) hmethods
    refine ⟨fun id hid => ?_, rfl⟩
    obtain ⟨m, hm, hid⟩ := List.mem_flatMap.1 hid
    exact hfuncs m hm id hid
  case h_14 =>
    obtain ⟨_, _, h⟩ := Option.bind_eq_some_iff.1 h
    obtain ⟨fields, hfields, h⟩ := Option.bind_eq_some_iff.1 h
    cases h
    exact ⟨List.forall_mem_map.2 (forall_of_list? (fun _ _ => lt_of_field?) hfields), rfl⟩
  case h_15 =>
    obtain ⟨_, _, h⟩ := Option.bind_eq_some_iff.1 h
    obtain ⟨_, _, h⟩ := Option.bind_eq_some_iff.1 h
    cases h
    exact ⟨List.forall_mem_nil _, rfl⟩
  case h_16 => cases h

theorem fits_of_shape? {s : Shape} (h : shape? j = some s) : s.Fits := by
  rw [shape?] at h
  split at h
  · obtain ⟨id, hid, h⟩ := Option.bind_eq_some_iff.1 h
    obtain ⟨name, _, h⟩ := Option.bind_eq_some_iff.1 h
    obtain ⟨kind, hkind, h⟩ := Option.bind_eq_some_iff.1 h
    cases h
    rw [kind?] at hkind
    split at hkind
    · split at hkind
      · obtain ⟨hbelow, hsized⟩ := fits_of_kindBody? hkind
        exact ⟨nat?_lt hid, hbelow, hsized⟩
      · cases hkind
    · cases hkind
  · cases h

theorem fits_of_table? {t : ShapeTable} (h : table? j = some t) :
    ∀ s ∈ t.shapes.toList, s.Fits := by
  obtain ⟨shapes, _, h⟩ := Option.bind_eq_some_iff.1 h
  obtain ⟨found, hfound, h⟩ := Option.bind_eq_some_iff.1 h
  cases h
  exact forall_of_list? (fun _ _ => fits_of_shape?) hfound

end Manifest

/-! ### Loading -/

namespace Library

variable {lib : Library}

theorem read?_text {t : ShapeTable} (h : ∀ s ∈ t.shapes.toList, s.Fits) :
    read? t.text = some ⟨t, .empty⟩ := by
  have htable := Manifest.coded_table h
  have hexact : (Json.record [("shapes", Manifest.tableJson t)]).Exact :=
    Json.exact_record_iff.2 (List.forall_mem_singleton.2 htable.exact)
  have hparts : manifestParts? (Json.record [("shapes", Manifest.tableJson t)]) =
      some (Manifest.tableJson t, none) := by
    rfl
  rw [read?, ShapeTable.text, Json.read?_pretty hexact, Option.bind_eq_bind, Option.bind_some,
    ofManifest?, hparts]
  simp only [Option.bind_eq_bind, Option.bind_some, htable.decoded]
  rfl

theorem fits_of_read? {text : String} (h : read? text = some lib) :
    ∀ s ∈ lib.shapes.shapes.toList, s.Fits := by
  obtain ⟨j, _, h⟩ := Option.bind_eq_some_iff.1 h
  obtain ⟨⟨shapes, aliases⟩, _, h⟩ := Option.bind_eq_some_iff.1 h
  obtain ⟨t, ht, h⟩ := Option.bind_eq_some_iff.1 h
  have hfits := Manifest.fits_of_table? ht
  cases aliases with
  | none =>
    cases h
    exact hfits
  | some aliases =>
    obtain ⟨found, _, h⟩ := Option.bind_eq_some_iff.1 h
    cases h
    exact hfits

theorem read?_manifestText_finish {g : Generator} (h : g.finish.Fits) :
    read? g.finish.manifestText = some ⟨g.finish.shapes, ⟨g.finish.aliases⟩⟩ := by
  have htext : Json.read? g.finish.manifestText = some g.finish.toJson :=
    Json.read?_pretty (Bindings.coded h).exact
  rw [read?, htext, Option.bind_eq_bind, Option.bind_some]
  exact ofManifest?_toJson h

/-- The type name of a handle leads a call to the methods of the shape of this name. -/
theorem callTarget_of_positioned (hpositioned : lib.shapes.Positioned) {h : Handle}
    {object : Object} {shape : Shape} (hobject : h.value = .interface (some object))
    (hfind : lib.shapes.find? h.typeName = some shape) :
    lib.callTarget (.native h) =
      match shape.kind with
      | .interface methods => .ok (h, object, methods)
      | _ => .error (.failure (h.typeName ++ " is not a known interface")) := by
  simp only [callTarget, hobject, hfind, hpositioned.get?_of_find? hfind]
  obtain ⟨id, name, kind⟩ := shape
  cases kind <;> rfl

/-- In a loaded library a name leads to a shape of this name if the first shape that has it states
an id at which such a shape stands. Any ids of 32 bits can be loaded (`read?_text`); those of a
generated manifest are positions, and with these a method is called through the shape that the
handle names. -/
theorem names_of_read? {text : String} (hlib : read? text = some lib) :
    (∀ s ∈ lib.shapes.shapes.toList, s.Fits) ∧
    ((∀ name, lib.shapes.Resolves name) ↔
      ∀ i shape, lib.shapes.IsFirst i shape →
        ∃ found, lib.shapes.get? shape.id = some found ∧ found.name = shape.name) ∧
    ((lib.shapes.shapes.toList.map (·.name)).Nodup →
      ((∀ name, lib.shapes.Resolves name) ↔ lib.shapes.Positioned)) ∧
    (lib.shapes.Positioned → ∀ name shape, lib.shapes.find? name = some shape →
      lib.shapes.get? shape.id = some shape ∧
      ∀ h object, h.typeName = name → h.value = .interface (some object) →
        lib.callTarget (.native h) =
          match shape.kind with
          | .interface methods => .ok (h, object, methods)
          | _ => .error (.failure (name ++ " is not a known interface"))) ∧
    ∀ g : Generator, g.finish.Fits → text = g.finish.manifestText → lib.shapes.Positioned := by
  refine ⟨fits_of_read? hlib, ShapeTable.forall_resolves_iff_first,
    ShapeTable.resolves_iff_positioned,
    fun hpositioned name shape hfind => ⟨hpositioned.get?_of_find? hfind, ?_⟩,
    fun g hg htext => ?_⟩
  · rintro h object rfl hobject
    exact callTarget_of_positioned hpositioned hobject hfind
  · rw [htext, read?_manifestText_finish hg] at hlib
    cases hlib
    exact ShapeTable.positioned_ofList _

def dials : ShapeTable :=
  .ofList [("int64", .scalar (.int 64 .signed)),
    ("dials.Dial", .interface [⟨"Turn", ⟨[0], [], false⟩⟩])]

theorem names_of_read?_dials : ∃ lib, read? dials.text = some lib ∧
    (∀ name, lib.shapes.Resolves name) ∧ lib.shapes.idOf? "dials.Dial" = some 1 ∧
    lib.callTarget (.native ⟨3, "dials.Dial", .interface (some (.library 5 "dials.Knob"))⟩) =
      .ok (⟨3, "dials.Dial", .interface (some (.library 5 "dials.Knob"))⟩,
        .library 5 "dials.Knob", [⟨"Turn", ⟨[0], [], false⟩⟩]) := by
  have hlib : read? dials.text = some ⟨dials, .empty⟩ := read?_text (by decide)
  obtain ⟨_, _, hiff, hcall, _⟩ := names_of_read? hlib
  have hpositioned : dials.Positioned := ShapeTable.positioned_ofList _
  have hfind : dials.find? "dials.Dial" =
      some ⟨1, "dials.Dial", .interface [⟨"Turn", ⟨[0], [], false⟩⟩]⟩ := by rfl
  refine ⟨_, hlib, (hiff (by decide)).2 hpositioned, by decide, ?_⟩
  exact (hcall hpositioned "dials.Dial" _ hfind).2 _ _ rfl rfl

def swapped : ShapeTable := ⟨#[⟨1, "a", .scalar .bool⟩, ⟨0, "b", .scalar .string⟩]⟩

/-- Each of the two names leads to the other shape. -/
theorem names_swapped : read? swapped.text = some ⟨swapped, .empty⟩ ∧
    swapped.idOf? "a" = some 1 ∧ swapped.get? 1 = some ⟨0, "b", .scalar .string⟩ ∧
    ¬ ∀ text lib, read? text = some lib → ∀ name, lib.shapes.Resolves name := by
  have hlib : read? swapped.text = some ⟨swapped, .empty⟩ := read?_text (by decide)
  have hid : swapped.idOf? "a" = some 1 := by decide
  have hshape : swapped.get? 1 = some ⟨0, "b", .scalar .string⟩ := by decide
  refine ⟨hlib, hid, hshape, fun h => ?_⟩
  obtain ⟨shape, hfound, hname⟩ := h _ _ hlib "a" 1 hid
  cases hshape.symm.trans hfound
  exact absurd hname (by decide)

end Library
end ScriptBind
