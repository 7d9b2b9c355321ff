import ScriptBind.Crossing.TypeNames
import ScriptBind.Proofs.Canon.Registered
import ScriptBind.Proofs.Canon.Tidy

/-!
# ScriptBind.Proofs.Crossing.Described

What an alias is described by: its fields, each with its type in full. The listing of the fields
is parted at every semicolon, and so are the types in it.

* `Session.Represents.exists_fields` - the fields of the canonical type of a struct.
* `Session.Valid.listedFields_fieldListing` - a listing, parted and put together again.
* `TypeNames.describe_struct` - the description of a struct.
-/

namespace ScriptBind

open Text (Tidy)

namespace Session

variable {g : TypeGraph} {s : Session} {type : TypeId} {id : CanonId}

theorem Represents.typeString_eq (hs : s.Interned) (h : s.Represents g type id) {u : Unfolding}
    (hu : g.Unfolds type u) : s.typeString id = u.text := by
  rw [hs.typeString_eq_text h.lt_size, h.unfolds.unique hu]

theorem Represents.exists_fields (hs : s.Interned) (h : s.Represents g type id)
    {members : List Field} (hnode : g.nodes[type]? = some (.struct members)) :
    ∃ fields, s.kind? id = some (.struct (s.typeString id) fields) ∧
      List.Forall₂ (fun member p => p.1 = member.name ∧ s.Represents g member.type p.2)
        members fields := by
  obtain ⟨name, fields, hid⟩ := h.kind?_of_struct hs hnode
  have hname : s.typeString id = name := hs.typeString_eq_written hid
  obtain ⟨depth, hunfold⟩ := h.unfolds.exists_unfoldWith hnode
  obtain ⟨us, hus, hunfold⟩ := TypeKind.unfoldWith_struct_iff.1 hunfold
  rw [hs.unfold_struct hid] at hunfold
  obtain rfl := Unfolding.struct.inj hunfold
  have hpairs := List.forall₂_iff_zip.1 (List.forall₂_map_right_iff.1 hus)
  refine ⟨fields, hname ▸ hid, List.forall₂_iff_zip.2 ⟨hpairs.1, fun {member p} hmem => ?_⟩⟩
  obtain ⟨hsame, hu⟩ := hpairs.2 hmem
  obtain ⟨hmember, hfield⟩ := List.of_mem_zip hmem
  have hinside : g.Inside type member.type := ⟨_, hnode, rfl, List.mem_map_of_mem hmember⟩
  exact ⟨hsame, hs.refs_lt_size hid p.2 (List.mem_map_of_mem hfield), ⟨depth, hu⟩,
    fun id name hreach => h.entered id name (.head hinside hreach)⟩

theorem Valid.listedFields_fieldListing (h : s.Valid g) (hg : g.Identified)
    {name : String} {fields : List (String × CanonId)}
    (hid : s.kind? id = some (.struct name fields)) :
    "; ".intercalate (TypeNames.listedFields (s.fieldListing fields)) =
      "; ".intercalate (fields.map fun p => p.1 ++ " " ++ s.typeString p.2) := by
  have hfields := (h.identified hg hid).2
  have htidy : ∀ text ∈ fields.map fun p => p.1 ++ " " ++ s.typeString p.2, Tidy text := by
    refine List.forall_mem_map.2 fun p hp => ?_
    have hlt := h.interned.refs_lt_size hid p.2 (List.mem_map_of_mem hp)
    have htype := h.tidy_of_spells hg (h.interned.spells_typeString hlt)
    have hname := Notation.isSegment_of_isIdent (hfields p hp)
    exact (Tidy.segment hname).between (by decide) htype
  have hparts := Text.intercalate_parts htidy
  rw [List.map_map] at hparts
  exact hparts

end Session

namespace TypeNames

theorem listing?_register {names : TypeNames} {name : String} (h : names.listing? name = none)
    (listing : String) : (names.register name listing).listing? name = some listing := by
  have hlookup : names.listings.lookup name = none := h
  rw [register, h, listing?, List.lookup_append, hlookup, List.lookup_cons_self]
  rfl

/-- Semicolons inside the types included. -/
theorem describe_struct {g : TypeGraph} (hg : g.Identified) {types : List TypeId} {s : Session}
    (hs : Session.after g types .empty = s) {type : TypeId} {members : List Field}
    (hnode : g.nodes[type]? = some (.struct members)) {id : CanonId}
    (hid : (type, .ok id) ∈ Session.answers g types .empty) :
    ∃ fields, s.kind? id = some (.struct (s.typeString id) fields) ∧
      List.Forall₂ (fun member p => p.1 = member.name ∧ s.Represents g member.type p.2)
        members fields ∧
      ∀ names : TypeNames, names.listing? (s.typeString id) = some (s.fieldListing fields) →
        names.describe (s.typeString id) = s.typeString id ++ " \x7b" ++
          "; ".intercalate (fields.map fun p => p.1 ++ " " ++ s.typeString p.2) ++ "\x7d" := by
  have hempty := Session.valid_empty g
  have hvalid : s.Valid g := hs ▸ Session.valid_after types hempty
  have hrepresents : s.Represents g type id := hs ▸ Session.represents_of_mem_answers hempty hid
  obtain ⟨fields, hkind, hfields⟩ := hrepresents.exists_fields hvalid.interned hnode
  refine ⟨fields, hkind, hfields, fun names hlisting => ?_⟩
  rw [describe, hlisting]
  exact congrArg (s.typeString id ++ " \x7b" ++ · ++ "\x7d")
    (hvalid.listedFields_fieldListing hg hkind)

/-- A type with a semicolon in it, between other fields. -/
def oven : TypeGraph where
  nodes := #[.int 64 .signed, .string,
    .interface [⟨"Cool", ⟨[], [⟨none, 0⟩], false, none, []⟩⟩,
      ⟨"Heat", ⟨[⟨some "to", 0⟩], [], false, none, []⟩⟩],
    .chan .both 2, .map 1 3, .struct [⟨"Level", 0⟩, ⟨"Stages", 4⟩, ⟨"Name", 1⟩]]
  names := []

theorem identified_oven : oven.Identified := by
  have hnames : ∀ name ∈ ["Cool", "Heat", "Level", "Stages", "Name"], Token.IsIdent name := by
    decide
  simp [TypeGraph.Identified, oven, TypeKind.Identified, FuncSig.Identified,
    FuncSig.allTypeParams] at hnames ⊢
  simp [hnames]

theorem unfolds_oven : oven.Unfolds 0 (.int 64 .signed) ∧ oven.Unfolds 1 .string ∧
    oven.Unfolds 4 (.map .string (.chan .both (.interface
      [("Cool", .func [] [.int 64 .signed] false []),
        ("Heat", .func [.int 64 .signed] [] false [])]))) := by
  refine ⟨⟨1, rfl⟩, ⟨1, rfl⟩, ⟨4, ?_⟩⟩
  simp [TypeGraph.unfoldIn, oven, TypeKind.unfoldWith, FuncSig.unfoldWith, FuncSig.inputs,
    FuncSig.outputs, FuncSig.allTypeParams]
  exact List.mergeSort_of_pairwise (by decide)

theorem describe_struct_oven :
    let name := (Session.after oven [5] .empty).typeString 5
    let stages := "map[string]chan interface \x7b Cool() int64; Heat(int64) \x7d"
    let names := empty.register name ("Level int64;Stages " ++ stages ++ ";Name string;")
    oven.Identified ∧ (5, .ok 5) ∈ Session.answers oven [5] .empty ∧
    names.describe name =
      name ++ " \x7b" ++ ("Level int64; Stages " ++ stages ++ "; Name string") ++ "\x7d" := by
  intro name stages names
  have hanswer : (5, .ok 5) ∈ Session.answers oven [5] .empty := by decide +kernel
  obtain ⟨fields, _, hfields, hdescribe⟩ := describe_struct identified_oven rfl rfl hanswer
  simp only [List.forall₂_cons_left_iff, List.forall₂_nil_left_iff] at hfields
  obtain ⟨⟨_, level⟩, _, ⟨rfl, hlevel⟩, ⟨⟨_, stage⟩, _, ⟨rfl, hstage⟩, ⟨⟨_, own⟩, _, ⟨rfl, hown⟩,
    rfl, rfl⟩, rfl⟩, rfl⟩ := hfields
  have hinterned := (Session.valid_after [5] (Session.valid_empty oven)).interned
  obtain ⟨hint, hstring, hmap⟩ := unfolds_oven
  have htexts := hdescribe names
  simp only [Session.fieldListing, Session.listingWith, List.map_cons, List.map_nil,
    hlevel.typeString_eq hinterned hint, hstage.typeString_eq hinterned hmap,
    hown.typeString_eq hinterned hstring] at htexts
  refine ⟨identified_oven, hanswer, (htexts ((listing?_register rfl _).trans ?_)).trans ?_⟩
  · exact congrArg some (by decide)
  · exact congrArg (name ++ " \x7b" ++ · ++ "\x7d") (by decide)

end TypeNames
end ScriptBind
