import ScriptBind.Proofs.Canon.Trees
import ScriptBind.Proofs.Canon.Visits

/-!
# ScriptBind.Proofs.Canon.Tracks

What a session knows about the nodes that it has seen, as long as no call fails. A struct is met
either as the body of a named type or in its place, and only then its name is entered; both may
happen to one node, in either order.

* `TypeGraph.Anonymous` - a struct in its place.
* `Session.Tracks` - parts and bodies are followed, and the aliases are those of structs in their
  place.
* `Session.follows_normalizeIn` - a call keeps this, by induction on the bound.
-/

namespace ScriptBind

open Relation (ReflTransGen)

/-! ### Structs in their place -/

namespace TypeGraph

def ReachedFrom (g : TypeGraph) (types : List TypeId) (type : TypeId) : Prop :=
  ∃ root ∈ types, g.Reaches root type

/-- A struct that is asked for, or to which some path leads whose last step is not the one from a
named type to its body. -/
def Anonymous (g : TypeGraph) (types : List TypeId) (type : TypeId) : Prop :=
  (∃ fields, g.nodes[type]? = some (.struct fields)) ∧
    (type ∈ types ∨ ∃ root ∈ types, ∃ a, g.Reaches root a ∧ g.Inside a type)

/-- The node is a struct, but for aliases, with this name and these fields in writing. -/
def ListedAs (g : TypeGraph) (type : TypeId) (p : String × String) : Prop :=
  ∃ fields, g.Unfolds type (.struct fields) ∧ p.2 = String.join (fieldTexts fields) ∧
    p.1 = structAlias p.2

/-- What is known about a node with which a call begins. Only the body of a named type is not to be
registered, and this if it is a struct. -/
structure Asked (g : TypeGraph) (types : List TypeId) (register : Bool) (type : TypeId) :
    Prop where
  reached : g.ReachedFrom types type
  anonymous : register = true → (∃ fields, g.nodes[type]? = some (.struct fields)) →
    g.Anonymous types type
  body : register = false → ∃ fields, g.nodes[type]? = some (.struct fields)

variable {g : TypeGraph} {types : List TypeId} {type child : TypeId}

theorem ReachedFrom.tail (h : g.ReachedFrom types type) (hstep : g.Refers type child) :
    g.ReachedFrom types child := by
  obtain ⟨root, hroot, hreach⟩ := h
  exact ⟨root, hroot, hreach.tail hstep⟩

theorem asked_of_mem (h : type ∈ types) : g.Asked types true type where
  reached := ⟨type, h, .refl⟩
  anonymous _ hstruct := ⟨hstruct, .inl h⟩
  body h := by cases h

theorem ReachedFrom.asked_of_inside (h : g.ReachedFrom types type) (hin : g.Inside type child) :
    g.Asked types true child where
  reached := h.tail hin.refers
  anonymous _ hstruct := by
    obtain ⟨root, hroot, hreach⟩ := h
    exact ⟨hstruct, .inr ⟨root, hroot, type, hreach, hin⟩⟩
  body h := by cases h

theorem ReachedFrom.asked_of_bodyHop {kind : TypeKind} (h : g.ReachedFrom types type)
    (hbody : g.BodyHop type child) (hkind : g.nodes[child]? = some kind) :
    g.Asked types (!Session.isStruct kind) child where
  reached := h.tail hbody.refers
  anonymous hregister := by
    rintro ⟨fields, hstruct⟩
    cases hkind.symm.trans hstruct
    cases hregister
  body hregister := by
    cases kind with
    | struct fields => exact ⟨fields, hkind⟩
    | _ => cases hregister

/-- The aliases between a node and the struct that it stands for are no named types. -/
theorem Asked.exists_anonymous {p : String × String} (h : g.Asked types true type)
    (hp : g.ListedAs type p) : ∃ a, g.Anonymous types a ∧ g.ListedAs a p := by
  obtain ⟨fields, hunfolds, hlisting⟩ := hp
  obtain ⟨last, kind, depth, hops, hkind, halias, hunfold⟩ := exists_node_of_unfolds hunfolds
  have hlast : g.ListedAs last p := ⟨fields, unfolds_of_unfoldWith hkind hunfold, hlisting⟩
  obtain ⟨members, rfl⟩ : ∃ members, kind = .struct members := by
    obtain ⟨members, _, hmembers, _⟩ | ⟨_, _, _, _, heq⟩ | ⟨hother, _⟩ :=
      unfoldWith_cases hunfold halias
    · exact ⟨members, hmembers⟩
    · cases heq
    · exact absurd rfl (hother fields)
  refine ⟨last, ?_, hlast⟩
  rcases hops.cases_tail with rfl | ⟨a, hops, hop⟩
  · exact h.anonymous rfl ⟨members, hkind⟩
  · obtain ⟨root, hroot, hreach⟩ := h.reached
    have hreach := hreach.trans (hops.lift id fun _ _ hop => hop.inside.refers)
    exact ⟨⟨members, hkind⟩, .inr ⟨root, hroot, a, hreach, hop.inside⟩⟩

end TypeGraph

namespace Session

variable {g : TypeGraph} {s s' s'' : Session} {type : TypeId} {id : CanonId}
  {types : List TypeId}

/-! ### What is not forgotten -/

def Seen (s : Session) (type : TypeId) : Prop := type ∈ s.memo.map (·.1)

/-- If the tree is a struct, its name is among the aliases. -/
def Enlists (s : Session) (u : Unfolding) : Prop :=
  ∀ fields, u = .struct fields → u.text ∈ s.aliases.map (·.1)

structure Gains (s s' : Session) : Prop where
  memo : ∀ p ∈ s.memo, p ∈ s'.memo
  aliases : ∀ p ∈ s.aliases, p ∈ s'.aliases

theorem Gains.refl (s : Session) : s.Gains s := ⟨fun _ h => h, fun _ h => h⟩

theorem Gains.trans (h : s.Gains s') (h' : s'.Gains s'') : s.Gains s'' :=
  ⟨fun p hp => h'.memo p (h.memo p hp), fun p hp => h'.aliases p (h.aliases p hp)⟩

theorem Seen.mono (h : s.Seen type) (hgains : s.Gains s') : s'.Seen type := by
  obtain ⟨p, hp, rfl⟩ := List.mem_map.1 h
  exact List.mem_map_of_mem (hgains.memo p hp)

theorem Enlists.mono {u : Unfolding} (h : s.Enlists u) (hgains : s.Gains s') : s'.Enlists u := by
  intro fields hfields
  obtain ⟨p, hp, hname⟩ := List.mem_map.1 (h fields hfields)
  exact hname ▸ List.mem_map_of_mem (hgains.aliases p hp)

theorem memo_intern (s : Session) (kind : CanonKind) : (s.intern kind).1.memo = s.memo := by
  rw [intern]
  split <;> rfl

theorem aliases_intern (s : Session) (kind : CanonKind) :
    (s.intern kind).1.aliases = s.aliases := by
  rw [intern]
  split <;> rfl

theorem extends_intern (s : Session) (kind : CanonKind) : s.Extends (s.intern kind).1 := by
  rw [intern]
  split
  · exact .refl s
  · exact extends_push kind

theorem kind?_of_intern {kind found : CanonKind} (h : (s.intern kind).1.kind? id = some found) :
    s.kind? id = some found ∨ found = kind := by
  rw [intern] at h
  split at h
  · exact .inl h
  · exact (kind?_push h).imp_right And.right

theorem mem_aliases_registerAlias {p : String × String} (h : p ∈ s.aliases) (id : CanonId) :
    p ∈ (s.registerAlias id).aliases := by
  rw [registerAlias]
  split
  · split
    · exact h
    · exact List.mem_append_left _ h
  · exact h

theorem registerAlias_cases (s : Session) (id : CanonId) :
    s.registerAlias id = s ∧ (∀ name fields, s.kind? id = some (.struct name fields) →
      name ∈ s.aliases.map (·.1)) ∨
    ∃ name fields, s.kind? id = some (.struct name fields) ∧ name ∉ s.aliases.map (·.1) ∧
      s.registerAlias id = { s with aliases := s.aliases ++ [(name, s.fieldListing fields)] } := by
  rw [registerAlias]
  split
  · rename_i name fields hid
    rw [hid]
    split
    · rename_i listing hlookup
      refine .inl ⟨rfl, fun name' fields' heq => ?_⟩
      cases heq
      exact List.mem_map_of_mem (mem_of_lookup hlookup)
    · rename_i hlookup
      exact .inr ⟨name, fields, rfl, lookup_eq_none_iff_not_mem.1 hlookup, rfl⟩
  · rename_i hother
    exact .inl ⟨rfl, fun name fields hid => absurd hid (hother name fields)⟩

theorem stable_mem_memo (p : TypeId × CanonId) : Stable fun s => p ∈ s.memo where
  intern s kind h _ := by
    rw [memo_intern]
    exact h
  remember _ _ _ h := List.mem_cons_of_mem _ h
  registerAlias s id h := by
    rw [memo_registerAlias]
    exact h
  reserve _ _ _ h := List.mem_cons_of_mem _ h
  setUnderlying _ _ _ _ _ _ h := h

theorem stable_mem_aliases (p : String × String) : Stable fun s => p ∈ s.aliases where
  intern s kind h _ := by
    rw [aliases_intern]
    exact h
  remember _ _ _ h := h
  registerAlias _ id h := mem_aliases_registerAlias h id
  reserve _ _ _ h := h
  setUnderlying _ _ _ _ _ _ h := h

theorem gains_registerAlias (s : Session) (id : CanonId) : s.Gains (s.registerAlias id) :=
  ⟨fun p => (stable_mem_memo p).registerAlias s id, fun p => (stable_mem_aliases p).registerAlias s id⟩

theorem gains_remember (s : Session) (type : TypeId) (id : CanonId) :
    s.Gains (s.remember type id) :=
  ⟨fun _ hp => List.mem_cons_of_mem _ hp, fun _ hp => hp⟩

theorem gains_intern (s : Session) (kind : CanonKind) : s.Gains (s.intern kind).1 :=
  ⟨fun p hp => by rwa [memo_intern], fun p hp => by rwa [aliases_intern]⟩

theorem gains_normalizeIn (g : TypeGraph) (fuel : Nat) (register : Bool) (type : TypeId)
    (s : Session) : s.Gains (normalizeIn g fuel register type s).2 :=
  ⟨fun p hp => (stable_mem_memo p).normalizeIn g fuel register type s hp,
    fun p hp => (stable_mem_aliases p).normalizeIn g fuel register type s hp⟩

/-! ### Names of structs -/

theorem unfold_eq_of_kinds_eq (h : s'.kinds = s.kinds) (id : CanonId) :
    s'.unfold id = s.unfold id := by
  have hdepth : ∀ depth id, s'.unfoldIn depth id = s.unfoldIn depth id := by
    intro depth
    induction depth with
    | zero => exact fun _ => rfl
    | succ depth ih =>
      intro id
      rw [unfoldIn, unfoldIn, kind?, kind?, h, funext ih]
  exact hdepth (id + 1) id

theorem unfold_remember (s : Session) (type : TypeId) (id r : CanonId) :
    (s.remember type id).unfold r = s.unfold r :=
  unfold_eq_of_kinds_eq (show (s.remember type id).kinds = s.kinds from rfl) r

namespace Interned

variable {name : String} {fields : List (String × CanonId)} (h : s.Interned)

include h

theorem unfold_struct (hid : s.kind? id = some (.struct name fields)) :
    s.unfold id = .struct (fields.map fun f => (f.1, s.unfold f.2)) :=
  h.unfold_eq hid

theorem text_struct (hid : s.kind? id = some (.struct name fields)) : (s.unfold id).text = name := by
  rw [← h.typeString_eq_text (lt_size_of_kind? hid), h.typeString_eq_written hid]
  rfl

theorem fieldListing_eq (hid : s.kind? id = some (.struct name fields)) : s.fieldListing fields =
    String.join (fieldTexts (fields.map fun f => (f.1, s.unfold f.2))) := by
  rw [fieldTexts_eq, List.map_map]
  refine congrArg String.join (List.map_congr_left fun f hf => ?_)
  show f.1 ++ " " ++ s.typeString f.2 ++ ";" = f.1 ++ " " ++ (s.unfold f.2).text ++ ";"
  rw [h.typeString_eq_text (h.refs_lt_size hid f.2 (List.mem_map_of_mem hf))]

theorem kind?_of_unfold_struct {us : List (String × Unfolding)} (hid : id < s.size)
    (hunfold : s.unfold id = .struct us) : ∃ name fields, s.kind? id = some (.struct name fields) := by
  obtain ⟨kind, hkind⟩ := exists_kind? hid
  rw [h.unfold_eq hkind] at hunfold
  cases kind with
  | struct name fields => exact ⟨name, fields, hkind⟩
  | _ => cases hunfold

end Interned

/-- The canonical type of a struct has its name and its fields in writing. -/
theorem Represents.listedAs_iff (hs : s.Interned) (h : s.Represents g type id)
    {p : String × String} : g.ListedAs type p ↔
      ∃ fields, s.kind? id = some (.struct p.1 fields) ∧ p.2 = s.fieldListing fields := by
  constructor
  · rintro ⟨us, hunfolds, hlisting, hname⟩
    have hunfold := h.unfolds.unique hunfolds
    obtain ⟨name, fields, hid⟩ := hs.kind?_of_unfold_struct h.lt_size hunfold
    have hfields : p.2 = s.fieldListing fields := by
      have hus := (hs.unfold_struct hid).symm.trans hunfold
      rw [hlisting, hs.fieldListing_eq hid, Unfolding.struct.inj hus]
    refine ⟨fields, ?_, hfields⟩
    rw [hname, hfields, ← hs.aliased id name fields hid]
    exact hid
  · rintro ⟨fields, hid, hlisting⟩
    refine ⟨_, hs.unfold_struct hid ▸ h.unfolds, hlisting.trans (hs.fieldListing_eq hid), ?_⟩
    rw [hlisting]
    exact hs.aliased id p.1 fields hid

/-! ### The invariant -/

/-- The session has been asked for `types` at most. Each node that it has seen is followed: its parts
have been seen, and those that are structs are among the aliases; the body of a named type has been
seen once its name is resolved. -/
structure Tracks (g : TypeGraph) (types : List TypeId) (s : Session) : Prop where
  parts : ∀ type, s.Seen type → ∀ child, g.Inside type child →
    s.Seen child ∧ ∀ u, g.Unfolds child u → s.Enlists u
  bodies : ∀ type name body, g.IsNamed type name → g.BodyHop type body → s.Resolved name →
    s.Seen body
  covered : ∀ id kind, s.kind? id = some kind → ∀ r ∈ kind.refs, s.Enlists (s.unfold r)
  sources : ∀ p ∈ s.aliases, ∃ type, g.Anonymous types type ∧ g.ListedAs type p
  distinct : (s.aliases.map (·.1)).Nodup

theorem tracks_empty (g : TypeGraph) (types : List TypeId) : empty.Tracks g types where
  parts type hseen := by simp [Seen, empty] at hseen
  bodies type name body _ _ := fun ⟨id, underlying, hid⟩ => by simp [kind?, empty] at hid
  covered id kind hid := by simp [kind?, empty] at hid
  sources p hp := by simp [empty] at hp
  distinct := List.nodup_nil

namespace Tracks

/-- After a change that leaves the table and the aliases alone and sees further nodes. -/
theorem of_kinds_eq (h : s.Tracks g types) (hgains : s.Gains s') (hkinds : s'.kinds = s.kinds)
    (haliases : s'.aliases = s.aliases) (hnew : ∀ type, s'.Seen type → s.Seen type ∨
      ∀ child, g.Inside type child → s'.Seen child ∧ ∀ u, g.Unfolds child u → s'.Enlists u) :
    s'.Tracks g types where
  parts type hseen child hin := by
    rcases hnew type hseen with hold | hnew
    · obtain ⟨hchild, henlists⟩ := h.parts type hold child hin
      exact ⟨hchild.mono hgains, fun u hu => (henlists u hu).mono hgains⟩
    · exact hnew child hin
  bodies type name body hname hbody := fun ⟨id, underlying, hid⟩ =>
    (h.bodies type name body hname hbody ⟨id, underlying, by rw [kind?, ← hkinds]; exact hid⟩).mono
      hgains
  covered id kind hid r hr := by
    rw [unfold_eq_of_kinds_eq hkinds]
    refine (h.covered id kind ?_ r hr).mono hgains
    rw [kind?, ← hkinds]
    exact hid
  sources p hp := h.sources p (haliases ▸ hp)
  distinct := haliases ▸ h.distinct

theorem remember (h : s.Tracks g types) (hparts : ∀ child, g.Inside type child →
    s.Seen child ∧ ∀ u, g.Unfolds child u → s.Enlists u) (id : CanonId) :
    (s.remember type id).Tracks g types := by
  have hgains := gains_remember s type id
  refine h.of_kinds_eq hgains rfl rfl fun other hother => ?_
  rcases List.mem_cons.1 hother with rfl | hother
  · refine .inr fun child hin => ?_
    obtain ⟨hseen, henlists⟩ := hparts child hin
    exact ⟨hseen.mono hgains, fun u hu => (henlists u hu).mono hgains⟩
  · exact .inl hother

/-- A named type has no parts. -/
theorem remember_named {name : String} (h : s.Tracks g types) (hname : g.IsNamed type name)
    (id : CanonId) : (s.remember type id).Tracks g types := by
  refine h.remember (fun child hin => ?_) id
  obtain ⟨kind, hkind, hnamed, _⟩ := hin
  obtain ⟨_, _, hnode⟩ := hname
  cases hnode.symm.trans hkind
  cases hnamed

/-- A struct that is asked for in its place is entered among the aliases. -/
theorem registerAlias (hs : s.Interned) (h : s.Tracks g types) (hid : s.Represents g type id)
    (hasked : g.Asked types true type) :
    (s.registerAlias id).Tracks g types ∧ (s.registerAlias id).Enlists (s.unfold id) := by
  rcases registerAlias_cases s id with ⟨heq, hknown⟩ | ⟨name, fields, hkind, hnew, heq⟩
  · rw [heq]
    refine ⟨h, fun us hus => ?_⟩
    obtain ⟨name, fields, hkind⟩ := hs.kind?_of_unfold_struct hid.lt_size hus
    rw [hs.text_struct hkind]
    exact hknown name fields hkind
  · have hgains := gains_registerAlias s id
    have hunfold := unfold_eq_of_kinds_eq (kinds_registerAlias id s)
    rw [heq] at hgains hunfold ⊢
    have hlisted : g.ListedAs type (name, s.fieldListing fields) :=
      (hid.listedAs_iff hs).2 ⟨fields, hkind, rfl⟩
    refine ⟨⟨fun type hseen child hin => ?_, h.bodies, fun i kind hi r hr => ?_, fun p hp => ?_,
      ?_⟩, fun us hus => ?_⟩
    · obtain ⟨hchild, henlists⟩ := h.parts type hseen child hin
      exact ⟨hchild, fun u hu => (henlists u hu).mono hgains⟩
    · rw [hunfold]
      exact (h.covered i kind hi r hr).mono hgains
    · rcases List.mem_append.1 hp with hp | hp
      · exact h.sources p hp
      · rw [List.mem_singleton.1 hp]
        exact hasked.exists_anonymous hlisted
    · rw [List.map_append]
      exact h.distinct.append (List.nodup_singleton name) (List.disjoint_singleton.2 hnew)
    · rw [hs.text_struct hkind]
      exact List.mem_map_of_mem (List.mem_append_right _ (List.mem_singleton_self _))

theorem registerIf {register : Bool} (hs : s.Interned) (h : s.Tracks g types)
    (hid : s.Represents g type id) (hasked : g.Asked types register type) :
    (s.registerIf register id).Tracks g types ∧
      (register = true → (s.registerIf register id).Enlists (s.unfold id)) := by
  cases register with
  | false => exact ⟨h, fun h => by cases h⟩
  | true => exact (h.registerAlias hs hid hasked).imp_right fun h _ => h

/-- A kind is made of types that have been asked for in their place. -/
theorem intern {kind : CanonKind} (hs : s.Interned) (h : s.Tracks g types)
    (hs' : (s.intern kind).1.Interned) (hnominal : kind.isNominal = false)
    (hrefs : ∀ r ∈ kind.refs, r < s.size ∧ s.Enlists (s.unfold r)) :
    (s.intern kind).1.Tracks g types := by
  have hgains := gains_intern s kind
  have hext := extends_intern s kind
  have henlists : ∀ r, r < s.size → s.Enlists (s.unfold r) →
      (s.intern kind).1.Enlists ((s.intern kind).1.unfold r) := fun r hr h => by
    rw [hext.unfold_eq hs hs' hr]
    exact h.mono hgains
  refine ⟨fun type hseen child hin => ?_, fun type name body hname hbody hresolved => ?_,
    fun i k hi r hr => ?_, ?_, ?_⟩
  · rw [Seen, memo_intern] at hseen
    obtain ⟨hchild, hchildren⟩ := h.parts type hseen child hin
    exact ⟨hchild.mono hgains, fun u hu => (hchildren u hu).mono hgains⟩
  · refine (h.bodies type name body hname hbody ?_).mono hgains
    obtain ⟨i, underlying, hi⟩ := hresolved
    rcases kind?_of_intern hi with hi | heq
    · exact ⟨i, underlying, hi⟩
    · rw [← heq] at hnominal
      cases hnominal
  · rcases kind?_of_intern hi with hi | rfl
    · exact henlists r (hs.refs_lt_size hi r hr) (h.covered i k hi r hr)
    · exact henlists r (hrefs r hr).1 (hrefs r hr).2
  · rw [aliases_intern]
    exact h.sources
  · rw [aliases_intern]
    exact h.distinct

theorem reserve {name : String} (hs : s.Interned) (h : s.Tracks g types)
    (hs' : (s.reserve type name).1.Interned) (hname : g.IsNamed type name) :
    (s.reserve type name).1.Tracks g types := by
  have hext : s.Extends (s.reserve type name).1 := extends_reserve type
  have hpush : Tracks g types { s with kinds := s.kinds.push (.named name none) } := by
    have hs' : Interned { s with kinds := s.kinds.push (.named name none) } :=
      hs'.of_kinds_eq rfl
    refine ⟨h.parts, fun a found body ha hbody hresolved => ?_, fun i kind hi r hr => ?_, h.sources,
      h.distinct⟩
    · have hresolved : (s.reserve type name).1.Resolved found := hresolved
      exact h.bodies a found body ha hbody (resolved_of_reserve hresolved)
    · rcases kind?_push (s := s) hi with hi | ⟨_, rfl⟩
      · rw [(extends_push _).unfold_eq hs hs' (hs.refs_lt_size hi r hr)]
        exact h.covered i kind hi r hr
      · cases hr
  exact hpush.remember_named hname _

/-- The body has been seen in between. -/
theorem setUnderlying {name : String} {body : TypeId} {typeParams : List String}
    {before : Option CanonId} {underlying : CanonId} (hs : s.Interned) (h : s.Tracks g types)
    (hunique : g.UniqueNames)
    (hnode : g.nodes[type]? = some (.named name (some body) typeParams))
    (hid : s.kind? id = some (.named name before)) (hseen : s.Seen body) :
    (s.setUnderlying id name underlying).Tracks g types := by
  have hext := extends_setUnderlying hid underlying
  have hs' := hs.setUnderlying hid underlying
  refine ⟨h.parts, fun a found b ha hb hresolved => ?_, fun i kind hi r hr => ?_, h.sources,
    h.distinct⟩
  · obtain ⟨i, u, hi⟩ := hresolved
    rcases kind?_setUnderlying_cases hid hi with ⟨_, heq⟩ | ⟨_, hi⟩
    · cases heq
      obtain rfl := hunique a type name ha ⟨_, _, hnode⟩
      obtain ⟨_, _, hb⟩ := hb
      cases hnode.symm.trans hb
      exact hseen
    · exact h.bodies a found b ha hb ⟨i, u, hi⟩
  · rcases kind?_setUnderlying_cases hid hi with ⟨_, rfl⟩ | ⟨_, hi⟩
    · cases hr
    · rw [hext.unfold_eq hs hs' (hs.refs_lt_size hi r hr)]
      exact h.covered i kind hi r hr

end Tracks

/-! ### Calls -/

/-- What a call finds out, from `s`, and the session `s'` that it leaves. -/
structure Follows (g : TypeGraph) (types : List TypeId) (s : Session) (register : Bool)
    (type : TypeId) (id : CanonId) (s' : Session) : Prop where
  valid : s'.Valid g
  grows : s.Grows s'
  gains : s.Gains s'
  represents : s'.Represents g type id
  tracks : s'.Tracks g types
  seen : s'.Seen type
  enlists : register = true → s'.Enlists (s'.unfold id)

/-- The same of nodes one after the other. -/
structure FollowsAll (g : TypeGraph) (types : List TypeId) (s : Session) (children : List TypeId)
    (ids : List CanonId) (s' : Session) : Prop where
  valid : s'.Valid g
  grows : s.Grows s'
  gains : s.Gains s'
  tracks : s'.Tracks g types
  each : List.Forall₂ (fun child id => s'.Represents g child id ∧ s'.Seen child ∧
    s'.Enlists (s'.unfold id)) children ids

theorem Visits.follows {normal : TypeId → CanonM CanonId} {children : List TypeId}
    {ids : List CanonId} (hvisits : Visits normal children s ids s')
    (hnormal : ∀ child ∈ children, ∀ s id s', s.Valid g → s.Tracks g types →
      normal child s = (.ok id, s') → Follows g types s true child id s')
    (hs : s.Valid g) (h : s.Tracks g types) : FollowsAll g types s children ids s' := by
  induction hvisits with
  | nil s => exact ⟨hs, .refl s, .refl s, h, .nil⟩
  | cons hfirst _ ih =>
    obtain ⟨hhead, htail⟩ := List.forall_mem_cons.1 hnormal
    have hfirst := hhead _ _ _ hs h hfirst
    have hrest := ih htail hfirst.valid hfirst.tracks
    have hext := hrest.grows.extend
    have hinterned := hfirst.valid.interned
    have hinterned' := hrest.valid.interned
    refine ⟨hrest.valid, hfirst.grows.trans hrest.grows, hfirst.gains.trans hrest.gains,
      hrest.tracks, .cons ⟨hfirst.represents.mono hinterned hinterned' hext,
        hfirst.seen.mono hrest.gains, ?_⟩ hrest.each⟩
    rw [hext.unfold_eq hinterned hinterned' hfirst.represents.lt_size]
    exact (hfirst.enlists rfl).mono hrest.gains

/-- The tree of a named type is no struct. -/
theorem Represents.enlists_of_named {name : String} (h : s.Represents g type id)
    (hname : g.IsNamed type name) : s.Enlists (s.unfold id) := by
  intro fields hfields
  cases (h.unfolds.unique hname.unfolds).symm.trans hfields

theorem kinds_registerIf (register : Bool) (id : CanonId) (s : Session) :
    (s.registerIf register id).kinds = s.kinds := by
  cases register with
  | false => rfl
  | true => exact kinds_registerAlias id s

theorem gains_registerIf (register : Bool) (id : CanonId) (s : Session) :
    s.Gains (s.registerIf register id) := by
  cases register with
  | false => exact .refl s
  | true => exact gains_registerAlias s id

theorem seen_remember (s : Session) (type : TypeId) (id : CanonId) : (s.remember type id).Seen type :=
  List.mem_cons_self

theorem Represents.enlists {u : Unfolding} (h : s.Represents g type id)
    (henlists : s.Enlists (s.unfold id)) (hu : g.Unfolds type u) : s.Enlists u :=
  h.unfolds.unique hu ▸ henlists

/-- The kind is entered, then the name if it is a struct, and then the node. -/
theorem FollowsAll.built {register : Bool} {node : TypeKind} {kind : CanonKind}
    {ids : List CanonId} {s₁ : Session} (h : FollowsAll g types s node.refs ids s₁)
    (hasked : g.Asked types register type) (hnode : g.nodes[type]? = some node)
    (hnominal : kind.isNominal = false) (hrefs : ∀ r ∈ kind.refs, r ∈ ids)
    (hinterned : (s₁.intern kind).1.Interned)
    (hrep : (s₁.intern kind).1.Represents g type (s₁.intern kind).2) :
    (((s₁.intern kind).1.registerIf register (s₁.intern kind).2).remember type
      (s₁.intern kind).2).Tracks g types ∧
    (register = true → ((s₁.intern kind).1.registerIf register (s₁.intern kind).2).Enlists
      ((s₁.intern kind).1.unfold (s₁.intern kind).2)) := by
  have hids : ∀ r ∈ ids, r < s₁.size ∧ s₁.Enlists (s₁.unfold r) :=
    forall_mem_of_forall₂ h.each fun _ _ h => ⟨h.1.lt_size, h.2.2⟩
  have hchildren : ∀ child ∈ node.refs, s₁.Seen child ∧ ∀ u, g.Unfolds child u → s₁.Enlists u :=
    forall_mem_of_forall₂_left h.each fun _ _ h => ⟨h.2.1, fun _ => h.1.enlists h.2.2⟩
  have hintern := h.tracks.intern h.valid.interned hinterned hnominal fun r hr =>
    hids r (hrefs r hr)
  obtain ⟨hregister, henlists⟩ := hintern.registerIf hinterned hrep hasked
  have hgains := (gains_intern s₁ kind).trans (gains_registerIf register (s₁.intern kind).2 _)
  refine ⟨hregister.remember (fun child hin => ?_) _, henlists⟩
  obtain ⟨kind', hkind', _, hchild⟩ := hin
  cases hnode.symm.trans hkind'
  obtain ⟨hseen, hchild⟩ := hchildren child hchild
  exact ⟨hseen.mono hgains, fun u hu => (hchild u hu).mono hgains⟩

theorem follows_normalizeIn (hunique : g.UniqueNames) : ∀ (fuel : Nat) (register : Bool)
    (type : TypeId) (s : Session) (id : CanonId) (s' : Session), s.Valid g → s.Tracks g types →
    g.Asked types register type → normalizeIn g fuel register type s = (.ok id, s') →
    Follows g types s register type id s' := by
  intro fuel
  induction fuel with
  | zero =>
    intro register type s id s' _ _ _ h
    cases h
  | succ fuel ih =>
    intro register type s id s' hs htracks hasked h
    have hmeets := meets_normalizeIn g (fuel + 1) register type s hs
    have hgains := gains_normalizeIn g (fuel + 1) register type s
    have hvalid := hmeets.valid
    obtain ⟨hgrows, hrep⟩ := hmeets.ok id (congrArg Prod.fst h)
    have hfinds := finds_normalizeIn g fuel register type s id s' h
    rw [h] at hgains hvalid hgrows hrep
    suffices hlast : s'.Tracks g types ∧ s'.Seen type ∧
        (register = true → s'.Enlists (s'.unfold id)) from
      ⟨hvalid, hgrows, hgains, hrep, hlast.1, hlast.2.1, hlast.2.2⟩
    cases hfinds with
    | known hid =>
      have hid := mem_of_lookup hid
      obtain ⟨hregister, henlists⟩ := htracks.registerIf hs.interned (hs.memo _ hid) hasked
      rw [unfold_eq_of_kinds_eq (kinds_registerIf register id s)]
      exact ⟨hregister, Seen.mono (List.mem_map_of_mem hid) hgains, henlists⟩
    | @built node kind ids s₁ hnode hnamed halias hvisits hnominal hrefs =>
      have hall : FollowsAll g types s node.refs ids s₁ :=
        hvisits.follows (fun child hchild s₂ id s₃ hs₂ h₂ => ih true child s₂ id s₃ hs₂ h₂
          (hasked.reached.asked_of_inside ⟨node, hnode, hnamed, hchild⟩)) hs htracks
      have hkinds := kinds_registerIf register (s₁.intern kind).2 (s₁.intern kind).1
      have hinterned : (s₁.intern kind).1.Interned := hvalid.interned.of_kinds_eq hkinds.symm
      obtain ⟨htracks', henlists⟩ := hall.built hasked hnode hnominal hrefs hinterned
        (hrep.mono hvalid.interned hinterned (.of_kinds_eq hkinds.symm))
      refine ⟨htracks', seen_remember _ type _, fun hregister => ?_⟩
      rw [unfold_remember, unfold_eq_of_kinds_eq hkinds]
      exact henlists hregister
    | @aliased name target _ s₁ hnode htarget =>
      have hregister : register = true := by
        by_contra hregister
        obtain ⟨fields, hstruct⟩ := hasked.body (Bool.eq_false_of_not_eq_true hregister)
        cases hnode.symm.trans hstruct
      have hin : g.Inside type target := TypeGraph.AliasHop.inside ⟨name, hnode⟩
      subst hregister
      have hfollows := ih true target s id s₁ hs htracks (hasked.reached.asked_of_inside hin) htarget
      refine ⟨hfollows.tracks.remember (fun child hchild => ?_) id, seen_remember s₁ type id,
        fun _ => ?_⟩
      · obtain ⟨kind, hkind, _, hmem⟩ := hchild
        cases hnode.symm.trans hkind
        rw [List.mem_singleton.1 hmem]
        exact ⟨hfollows.seen, fun u => hfollows.represents.enlists (hfollows.enlists rfl)⟩
      · rw [unfold_remember]
        exact hfollows.enlists rfl
    | named hnode hid =>
      have hname : g.IsNamed type _ := ⟨_, _, hnode⟩
      exact ⟨htracks.remember_named hname id, seen_remember s type id,
        fun _ => hrep.enlists_of_named hname⟩
    | @defined name body typeParams kind found underlying s₁ hnode hnone hkind hbody =>
      have hname : g.IsNamed type name := ⟨_, _, hnode⟩
      have hs₀ := hs.reserve hnode hnone
      have hfollows := ih _ body _ found s₁ hs₀ (htracks.reserve hs.interned hs₀.interned hname)
        (hasked.reached.asked_of_bodyHop ⟨name, typeParams, hnode⟩ hkind) hbody
      obtain ⟨before, hid⟩ := hfollows.grows.extend.named (kind?_reserve type)
      have hset : (s₁.setUnderlying _ name underlying).Tracks g types :=
        hfollows.tracks.setUnderlying hfollows.valid.interned hunique hnode hid hfollows.seen
      exact ⟨hset.remember_named hname _, seen_remember _ type _,
        fun _ => hrep.enlists_of_named hname⟩

end Session
end ScriptBind
