import ScriptBind.Proofs.Canon.Sessions
import ScriptBind.Proofs.Canon.Tracks
import ScriptBind.Proofs.Canon.Unambiguous

/-!
# ScriptBind.Proofs.Canon.Registered

The aliases after calls of which none failed. They are the names of the structs in their place,
however the calls met these, and so they do not depend on the order of the calls.

* `Session.Writes` - the names of structs that stand in a type in writing.
* `Session.Lists` - the name and the listing of a node.
* `Session.Registry` - which structs are among the aliases.
* `Session.Accounts.catalogued`, `Session.sortedAliases_after_eq` - what calls leave.
-/

namespace ScriptBind
namespace TypeGraph

variable {g : TypeGraph} {types types' : List TypeId}

/-- Two structs in their place whose names coincide have the same listing. -/
def Apart (g : TypeGraph) (types : List TypeId) : Prop :=
  ∀ a b p q, g.Anonymous types a → g.Anonymous types b → g.ListedAs a p → g.ListedAs b q →
    p.1 = q.1 → p.2 = q.2

theorem anonymous_congr (hsame : ∀ type, type ∈ types' ↔ type ∈ types) {type : TypeId} :
    g.Anonymous types' type ↔ g.Anonymous types type := by
  simp only [Anonymous, hsame]

end TypeGraph

/-! ### Parts in writing -/

open List (infix_append_of_infix_left infix_append_of_infix_right)

section Parts

variable {word : List Char} {text elementText : CanonId → String} {r : CanonId}

theorem infix_intercalate {separator x : List Char} {xs : List (List Char)} (hx : x ∈ xs)
    (h : word <:+: x) : word <:+: separator.intercalate xs := by
  induction xs with
  | nil => cases hx
  | cons y rest ih =>
    cases rest with
    | nil =>
      rw [List.mem_singleton.1 hx] at h
      simpa [List.intercalate] using h
    | cons z rest =>
      rw [List.intercalate_cons_cons]
      rcases List.mem_cons.1 hx with rfl | hx
      · exact infix_append_of_infix_left (infix_append_of_infix_left h)
      · exact infix_append_of_infix_right (ih hx)

theorem infix_joined {separator x : String} {texts : List String} (hx : x ∈ texts)
    (h : word <:+: x.toList) : word <:+: (separator.intercalate texts).toList := by
  rw [String.toList_intercalate]
  exact infix_intercalate (List.mem_map_of_mem hx) h

variable (htext : word <:+: (text r).toList) (helement : word <:+: (elementText r).toList)

include htext

theorem infix_resultString {results : List CanonId} (hr : r ∈ results) :
    word <:+: (Session.resultString text results).toList := by
  match results with
  | [q] =>
    rw [← List.mem_singleton.1 hr, Session.resultString, String.toList_append]
    exact infix_append_of_infix_right htext
  | p :: q :: rest =>
    show word <:+: (" (" ++ ", ".intercalate ((p :: q :: rest).map text) ++ ")").toList
    rw [String.toList_append, String.toList_append]
    exact infix_append_of_infix_left (infix_append_of_infix_right
      (infix_joined (List.mem_map_of_mem hr) htext))

include helement

theorem exists_mem_paramStrings {variadic : Bool} {params : List CanonId} (hr : r ∈ params) :
    ∃ x ∈ Session.paramStrings text elementText variadic params, word <:+: x.toList := by
  induction params with
  | nil => cases hr
  | cons p rest ih =>
    cases rest with
    | nil =>
      rw [← List.mem_singleton.1 hr]
      cases variadic with
      | false => exact ⟨_, List.mem_singleton_self _, htext⟩
      | true =>
        refine ⟨_, List.mem_singleton_self _, ?_⟩
        rw [String.toList_append]
        exact infix_append_of_infix_right helement
    | cons q rest =>
      rcases List.mem_cons.1 hr with rfl | hr
      · exact ⟨_, List.mem_cons_self, htext⟩
      · obtain ⟨x, hx, hword⟩ := ih hr
        exact ⟨x, List.mem_cons_of_mem _ hx, hword⟩

theorem infix_funcString {f : CanonFunc} (hr : r ∈ f.refs) :
    word <:+: (Session.funcStringWith text elementText f).toList := by
  rw [Session.funcStringWith]
  simp only [String.toList_append]
  rcases List.mem_append.1 hr with hr | hr
  · obtain ⟨x, hx, hword⟩ := exists_mem_paramStrings htext helement hr
    exact infix_append_of_infix_left (infix_append_of_infix_left
      (infix_append_of_infix_right (infix_joined hx hword)))
  · exact infix_append_of_infix_right (infix_resultString htext hr)

/-- What stands in a part in writing, whichever way it is written, stands in the whole. -/
theorem CanonKind.infix_written {kind : CanonKind}
    (hkind : ∀ other fields, kind ≠ .struct other fields) (hr : r ∈ kind.refs) :
    word <:+: (kind.written text elementText).toList := by
  cases kind with
  | slice element | array length element | pointer element | chan direction element =>
    rw [List.mem_singleton.1 hr] at htext
    simp only [written, String.toList_append]
    exact infix_append_of_infix_right htext
  | map key value =>
    simp only [written, String.toList_append]
    rcases List.mem_cons.1 hr with rfl | hr
    · exact infix_append_of_infix_left (infix_append_of_infix_left
        (infix_append_of_infix_right htext))
    · rw [List.mem_singleton.1 hr] at htext
      exact infix_append_of_infix_right htext
  | func f =>
    rw [written, String.toList_append]
    exact infix_append_of_infix_right (infix_funcString htext helement hr)
  | interface methods =>
    obtain ⟨m, hm, hr⟩ := List.mem_flatMap.1 hr
    simp only [written, String.toList_append]
    refine infix_append_of_infix_left (infix_append_of_infix_right
      (infix_joined (List.mem_map_of_mem hm) ?_))
    rw [String.toList_append]
    exact infix_append_of_infix_right (infix_funcString htext helement hr)
  | struct name fields => exact absurd rfl (hkind name fields)
  | _ => cases hr

end Parts

namespace Session

variable {g : TypeGraph} {s s' : Session} {type : TypeId} {id : CanonId} {types : List TypeId}

/-! ### Types in writing -/

/-- The name of a struct stands in the type in writing. What is behind a named type is not written,
and neither are the fields of a struct. -/
inductive Writes (s : Session) : CanonId → String → Prop
  | struct {id : CanonId} {name : String} {fields : List (String × CanonId)} :
    s.kind? id = some (.struct name fields) → Writes s id name
  | part {id r : CanonId} {kind : CanonKind} {name : String} : s.kind? id = some kind →
    (∀ other fields, kind ≠ .struct other fields) → r ∈ kind.refs → Writes s r name →
    Writes s id name

/-- The name of a struct that stands in a type in writing is a part of the text. -/
theorem Writes.occurs {name : String} (hs : s.Interned) (h : s.Writes id name) :
    name.toList <:+: (s.typeString id).toList := by
  suffices hboth : name.toList <:+: (s.typeString id).toList ∧
      name.toList <:+: (s.typeString (s.element id)).toList from hboth.1
  induction h with
  | @struct id name fields hid =>
    have hwritten : s.typeString id = name := hs.typeString_eq_written hid
    have helement : s.element id = id := by rw [element, hid]
    rw [helement, hwritten]
    exact ⟨List.infix_rfl, List.infix_rfl⟩
  | @part id r kind name hid hkind hr _ ih =>
    have hwhole : name.toList <:+: (s.typeString id).toList := by
      rw [hs.typeString_eq_written hid]
      refine CanonKind.infix_written ?_ ?_ hkind hr
      · exact ih.1
      · exact ih.2
    refine ⟨hwhole, ?_⟩
    rw [element, hid]
    cases kind with
    | slice element => exact List.mem_singleton.1 hr ▸ ih.1
    | _ => exact hwhole

theorem Tracks.mem_of_writes {name : String} (hs : s.Interned) (h : s.Tracks g types)
    (hid : s.Enlists (s.unfold id)) (hwrites : s.Writes id name) : name ∈ s.aliases.map (·.1) := by
  induction hwrites with
  | struct hkind => exact hs.text_struct hkind ▸ hid _ (hs.unfold_struct hkind)
  | part hkind _ hr _ ih => exact ih (h.covered _ _ hkind _ hr)

/-! ### Calls -/

theorem follows_normalize (hunique : g.UniqueNames) (hs : s.Valid g) (h : s.Tracks g types)
    (htype : type ∈ types) (hrun : (normalize g type s).1 = .ok id) :
    Follows g types s true type id (normalize g type s).2 :=
  follows_normalizeIn hunique _ true type s id _ hs h (TypeGraph.asked_of_mem htype)
    (Prod.ext hrun rfl)

/-- What calls for `asked` leave, if none of them fails. -/
structure Accounts (g : TypeGraph) (types asked : List TypeId) (s s' : Session) : Prop where
  valid : s'.Valid g
  grows : s.Grows s'
  gains : s.Gains s'
  tracks : s'.Tracks g types
  each : ∀ type ∈ asked, s'.Seen type ∧ ∀ u, g.Unfolds type u → s'.Enlists u

theorem accounts_after (hunique : g.UniqueNames) {asked : List TypeId}
    (hasked : ∀ type ∈ asked, type ∈ types) (hs : s.Valid g) (h : s.Tracks g types)
    (hok : ∀ p ∈ answers g asked s, ∃ id, p.2 = .ok id) :
    Accounts g types asked s (after g asked s) := by
  induction asked generalizing s with
  | nil => exact ⟨hs, .refl s, .refl s, h, fun _ hmem => by cases hmem⟩
  | cons type rest ih =>
    obtain ⟨htype, hrest⟩ := List.forall_mem_cons.1 hasked
    obtain ⟨⟨id, hid⟩, hok⟩ := List.forall_mem_cons.1 hok
    have hfirst := follows_normalize hunique hs h htype hid
    have hlast := ih hrest hfirst.valid hfirst.tracks hok
    refine ⟨hlast.valid, hfirst.grows.trans hlast.grows, hfirst.gains.trans hlast.gains,
      hlast.tracks, List.forall_mem_cons.2 ⟨⟨hfirst.seen.mono hlast.gains, fun u hu => ?_⟩,
        hlast.each⟩⟩
    exact (hfirst.represents.enlists (hfirst.enlists rfl) hu).mono hlast.gains

/-- Once no name waits any more, whatever a node leads to has been seen. -/
theorem Tracks.seen_of_reaches (hs : s.Valid g) (h : s.Tracks g types)
    (hdone : ∀ name, ¬ s.Unresolved name) {a b : TypeId} (ha : s.Seen a) (hreach : g.Reaches a b) :
    s.Seen b := by
  induction hreach with
  | refl => exact ha
  | @tail b c _ hstep hb =>
    obtain ⟨kind, hkind, hc⟩ := hstep
    cases hnamed : kind.isNamed with
    | false => exact (h.parts b hb c ⟨kind, hkind, hnamed, hc⟩).1
    | true =>
      cases kind with
      | named name body typeParams =>
        obtain ⟨p, hp, rfl⟩ := List.mem_map.1 hb
        obtain ⟨id, underlying, hid⟩ := (hs.memo p hp).entered p.1 name .refl ⟨_, _, hkind⟩
        have hresolved : s.Resolved name := by
          cases underlying with
          | none => exact absurd ⟨id, hid⟩ (hdone name)
          | some u => exact ⟨id, u, hid⟩
        obtain rfl : body = some c := by simpa [TypeKind.refs] using hc
        exact h.bodies p.1 name c ⟨_, _, hkind⟩ ⟨name, typeParams, hkind⟩ hresolved
      | _ => cases hnamed

/-- A node that has been seen keeps its canonical type. -/
theorem normalize_of_seen (hs : s.Valid g) (h : s.Seen type) :
    ∃ id, (normalize g type s).1 = .ok id ∧ s.Represents g type id := by
  cases hlookup : s.memo.lookup type with
  | none => exact absurd h (lookup_eq_none_iff_not_mem.1 hlookup)
  | some id =>
    refine ⟨id, ?_, hs.memo _ (mem_of_lookup hlookup)⟩
    have hget : (MonadState.get : CanonM Session) s = (.ok s, s) := rfl
    rw [normalize, Nat.succ_mul, ← Nat.add_assoc, normalizeIn, CanonM.bind_apply, hget]
    simp only [hlookup]
    rfl

/-! ### Which structs are among the aliases -/

/-- The canonical type of the node is a struct with this name and these fields in writing. -/
def Lists (g : TypeGraph) (s : Session) (type : TypeId) (p : String × String) : Prop :=
  ∃ id fields, (normalize g type s).1 = .ok id ∧ s.kind? id = some (.struct p.1 fields) ∧
    p.2 = s.fieldListing fields

theorem lists_iff (hs : s.Valid g) (h : s.Seen type) {p : String × String} :
    s.Lists g type p ↔ g.ListedAs type p := by
  obtain ⟨id, hrun, hrep⟩ := normalize_of_seen hs h
  rw [hrep.listedAs_iff hs.interned]
  constructor
  · rintro ⟨id', fields, hrun', hfields⟩
    cases hrun.symm.trans hrun'
    exact ⟨fields, hfields⟩
  · rintro ⟨fields, hfields⟩
    exact ⟨id, fields, hrun, hfields⟩

theorem Lists.mem_listings {p : String × String} (h : s.Lists g type p) : p.2 ∈ s.listings := by
  obtain ⟨id, fields, _, hid, hlisting⟩ := h
  exact hlisting ▸ fieldListing_mem_listings hid

theorem Represents.kind?_of_struct {members : List Field} (hs : s.Interned)
    (h : s.Represents g type id) (hnode : g.nodes[type]? = some (.struct members)) :
    ∃ name fields, s.kind? id = some (.struct name fields) := by
  obtain ⟨depth, hunfold⟩ := h.unfolds.exists_unfoldWith hnode
  obtain ⟨us, _, hunfold⟩ := TypeKind.unfoldWith_struct_iff.1 hunfold
  exact hs.kind?_of_unfold_struct h.lt_size hunfold

/-- What stands among the aliases of a session after calls for `types`. -/
structure Registry (g : TypeGraph) (types : List TypeId) (s : Session) : Prop where
  /-- Exactly the structs in their place, each with its fields in writing. -/
  entries : ∀ p, p ∈ s.sortedAliases ↔ ∃ type, g.Anonymous types type ∧ s.Lists g type p
  /-- Each of them has a name. -/
  total : ∀ type, g.Anonymous types type → ∃ p, s.Lists g type p
  named : ∀ p ∈ s.sortedAliases, p.1 = structAlias p.2
  distinct : (s.sortedAliases.map (·.1)).Nodup
  /-- The names in the fields of a struct, in whatever place, are themselves among the aliases. -/
  closed : ∀ id name fields, s.kind? id = some (.struct name fields) → ∀ f ∈ fields, ∀ inner,
    s.Writes f.2 inner → inner ∈ s.sortedAliases.map (·.1)

theorem mem_sortedAliases_iff {p : String × String} : p ∈ s.sortedAliases ↔ p ∈ s.aliases :=
  List.mem_mergeSort

theorem mem_map_sortedAliases_iff {name : String} :
    name ∈ s.sortedAliases.map (·.1) ↔ name ∈ s.aliases.map (·.1) :=
  ((List.mergeSort_perm s.aliases _).map (·.1)).mem_iff

section Accounts

variable (h : Accounts g types types .empty s)

include h

theorem Accounts.seen_of_reachedFrom (htype : g.ReachedFrom types type) : s.Seen type := by
  obtain ⟨root, hroot, hreach⟩ := htype
  refine h.tracks.seen_of_reaches h.valid (fun name hname => ?_) (h.each root hroot).1 hreach
  obtain ⟨id, hid⟩ := h.grows.unresolved name hname
  simp [kind?, empty] at hid

theorem Accounts.anonymous (htype : g.Anonymous types type) :
    s.Seen type ∧ ∀ u, g.Unfolds type u → s.Enlists u := by
  obtain ⟨_, hroot | ⟨root, hroot, a, hreach, hin⟩⟩ := htype
  · exact h.each type hroot
  · exact h.tracks.parts a (h.seen_of_reachedFrom ⟨root, hroot, hreach⟩) type hin

theorem Accounts.lists_iff (htype : g.Anonymous types type) {p : String × String} :
    s.Lists g type p ↔ g.ListedAs type p :=
  Session.lists_iff h.valid (h.anonymous htype).1

theorem Accounts.apart (hfree : s.CollisionFree) : g.Apart types := by
  intro a b p q ha hb hp hq hname
  have hp' := (h.lists_iff ha).2 hp
  have hq' := (h.lists_iff hb).2 hq
  obtain ⟨_, _, _, hp⟩ := hp
  obtain ⟨_, _, _, hq⟩ := hq
  exact hfree _ hp'.mem_listings _ hq'.mem_listings (by rw [← hp, ← hq, hname])

theorem Accounts.mem_aliases_iff (hapart : g.Apart types) {p : String × String} :
    p ∈ s.aliases ↔ ∃ type, g.Anonymous types type ∧ g.ListedAs type p := by
  refine ⟨h.tracks.sources p, ?_⟩
  rintro ⟨type, htype, hp⟩
  obtain ⟨us, hunfolds, hlisting, hname⟩ := id hp
  obtain ⟨q, hq, hsame⟩ := List.mem_map.1 ((h.anonymous htype).2 _ hunfolds us rfl)
  obtain ⟨other, hother, hlisted⟩ := h.tracks.sources q hq
  rw [Unfolding.text, ← hlisting, ← hname] at hsame
  exact Prod.ext hsame (hapart other type q p hother htype hlisted hp hsame) ▸ hq

theorem Accounts.nodup_sortedAliases : (s.sortedAliases.map (·.1)).Nodup :=
  ((List.mergeSort_perm s.aliases _).map (·.1)).nodup_iff.2 h.tracks.distinct

theorem Accounts.catalogued (hfree : s.CollisionFree) : Registry g types s where
  entries p := by
    rw [mem_sortedAliases_iff, h.mem_aliases_iff (h.apart hfree)]
    exact exists_congr fun type => and_congr_right fun htype => (h.lists_iff htype).symm
  total type htype := by
    obtain ⟨hseen, _⟩ := h.anonymous htype
    obtain ⟨⟨members, hnode⟩, _⟩ := htype
    obtain ⟨id, hrun, hrep⟩ := normalize_of_seen h.valid hseen
    obtain ⟨name, fields, hid⟩ := hrep.kind?_of_struct h.valid.interned hnode
    exact ⟨(name, s.fieldListing fields), id, fields, hrun, hid, rfl⟩
  named p hp := by
    obtain ⟨type, _, _, _, _, hname⟩ := h.tracks.sources p (mem_sortedAliases_iff.1 hp)
    exact hname
  distinct := h.nodup_sortedAliases
  closed id name fields hid f hf inner hwrites := by
    have hinterned := h.valid.interned
    exact mem_map_sortedAliases_iff.2 (h.tracks.mem_of_writes hinterned
      (h.tracks.covered id _ hid f.2 (List.mem_map_of_mem hf)) hwrites)

end Accounts

/-- Lists with the same entries are sorted alike, since no two entries have one name. -/
theorem sortedAliases_eq (h : (s.sortedAliases.map (·.1)).Nodup)
    (h' : (s'.sortedAliases.map (·.1)).Nodup)
    (hsame : ∀ p, p ∈ s.sortedAliases ↔ p ∈ s'.sortedAliases) :
    s.sortedAliases = s'.sortedAliases := by
  have hpairwise : ∀ s : Session, s.sortedAliases.Pairwise fun a b => a.1 ≤ b.1 :=
    fun s => pairwise_mergeSort_name s.aliases
  refine List.Perm.eq_of_pairwise (fun a b ha hb hab hba => ?_) (hpairwise s) (hpairwise s')
    ((List.perm_ext_iff_of_nodup h.of_map h'.of_map).2 hsame)
  exact List.inj_on_of_nodup_map h ha ((hsame b).2 hb) (String.le_antisymm hab hba)

theorem accounts_after_empty (hunique : g.UniqueNames)
    (hok : ∀ p ∈ answers g types .empty, ∃ id, p.2 = .ok id) :
    Accounts g types types .empty (after g types .empty) :=
  accounts_after hunique (fun _ h => h) (valid_empty g) (tracks_empty g types) hok

/-- Whatever order the calls come in, and how often each comes. -/
theorem sortedAliases_after_eq (hunique : g.UniqueNames) {types' : List TypeId}
    (hsame : ∀ type, type ∈ types' ↔ type ∈ types)
    (hok : ∀ p ∈ answers g types .empty, ∃ id, p.2 = .ok id)
    (hok' : ∀ p ∈ answers g types' .empty, ∃ id, p.2 = .ok id)
    (hfree : (after g types .empty).CollisionFree) :
    (after g types' .empty).sortedAliases = (after g types .empty).sortedAliases := by
  have h := accounts_after_empty hunique hok
  have h' := accounts_after_empty hunique hok'
  have hapart := h.apart hfree
  have hapart' : g.Apart types' := by
    simpa only [TypeGraph.Apart, TypeGraph.anonymous_congr hsame] using hapart
  refine sortedAliases_eq h'.nodup_sortedAliases h.nodup_sortedAliases fun p => ?_
  rw [mem_sortedAliases_iff, mem_sortedAliases_iff, h.mem_aliases_iff hapart,
    h'.mem_aliases_iff hapart']
  simp only [TypeGraph.anonymous_congr hsame]

end Session
end ScriptBind
