import ScriptBind.Proofs.TypeGraph.Later
import ScriptBind.Proofs.TypeGraph.Reach

/-!
# ScriptBind.Proofs.TypeGraph.Ordered

Graphs in which a node is added after all that it refers to, but for the bodies of named types.

* `TypeGraph.Ordered` - what such a graph keeps to while it is extended.
* `TypeGraph.Layered` - a complete graph. Its cycles pass through named types.
* `TypeGraph.Steady`, `TypeGraph.Adds` - extensions that declare and define no named type.
* `TypeGraph.Awaits` - the names that are declared only.
-/

namespace ScriptBind
namespace TypeGraph

/-- The name is that of the node. -/
def Titled (g : TypeGraph) (name : String) (id : TypeId) : Prop :=
  g.IsNamed id name ∨ ∃ target, g.nodes[id]? = some (.aliasOf name target)

/-- Only the body of a named type can come after the type itself. -/
structure Ordered (g : TypeGraph) : Prop where
  closed : ∀ a b, g.Refers a b → b < g.size
  descends : ∀ a b, g.Inside a b → b < a
  named : ∀ id name, g.IsNamed id name → g.lookup name = some id
  titled : ∀ p ∈ g.names, g.Titled p.1 p.2

structure Layered (g : TypeGraph) : Prop extends g.Ordered where
  defined : ∀ (id : TypeId) name body typeParams,
    g.nodes[id]? = some (.named name body typeParams) → body.isSome

variable {g g' g'' : TypeGraph} {id : TypeId} {kind : TypeKind} {name : String}

theorem Ordered.lt_of_transGen (h : g.Ordered) {a b : TypeId}
    (hreach : Relation.TransGen g.Inside a b) : b < a := by
  induction hreach with
  | single hin => exact h.descends _ _ hin
  | tail _ hin ih => exact (h.descends _ _ hin).trans ih

/-- Every cycle passes through a named type. -/
theorem Ordered.guarded (h : g.Ordered) (id : TypeId) : ¬ Relation.TransGen g.Inside id id :=
  fun hcycle => Nat.lt_irrefl id (h.lt_of_transGen hcycle)

/-! ### Adding nodes -/

theorem getElem?_push_cases {names : List (String × TypeId)} {found : TypeKind}
    (h : (⟨g.nodes.push kind, names⟩ : TypeGraph).nodes[id]? = some found) :
    id = g.size ∧ found = kind ∨ g.nodes[id]? = some found := by
  rw [Array.getElem?_push] at h
  split at h
  · cases h
    exact .inl ⟨‹_›, rfl⟩
  · exact .inr h

theorem getElem?_push_of_node {names : List (String × TypeId)} {found : TypeKind}
    (h : g.nodes[id]? = some found) :
    (⟨g.nodes.push kind, names⟩ : TypeGraph).nodes[id]? = some found := by
  have hne : id ≠ g.nodes.size := Nat.ne_of_lt (lt_size_of_node h)
  rw [Array.getElem?_push, if_neg hne, h]

theorem Titled.push {names : List (String × TypeId)} (h : g.Titled name id) :
    (⟨g.nodes.push kind, names⟩ : TypeGraph).Titled name id := by
  rcases h with ⟨body, typeParams, hnode⟩ | ⟨target, hnode⟩
  · exact .inl ⟨body, typeParams, getElem?_push_of_node hnode⟩
  · exact .inr ⟨target, getElem?_push_of_node hnode⟩

theorem lookup_of_prefix {names : List (String × TypeId)} (h : g.names <+: names)
    (hid : g.lookup name = some id) : names.lookup name = some id := by
  obtain ⟨more, rfl⟩ := h
  rw [lookup] at hid
  rw [List.lookup_append, hid, Option.some_or]

/-- A node that refers to nodes that are there, with a name that leads to it or without one. -/
theorem Ordered.push {names : List (String × TypeId)} (h : g.Ordered)
    (hrefs : ∀ b ∈ kind.refs, b < g.size) (hnames : g.names <+: names)
    (hnamed : ∀ name body typeParams, kind = .named name body typeParams →
      names.lookup name = some g.size)
    (htitled : ∀ p ∈ names, p ∈ g.names ∨
      (⟨g.nodes.push kind, names⟩ : TypeGraph).Titled p.1 p.2) :
    Ordered ⟨g.nodes.push kind, names⟩ where
  closed a b hrefers := by
    have hlt : b < g.size := by
      obtain ⟨found, hnode, hb⟩ := hrefers
      rcases getElem?_push_cases hnode with ⟨_, rfl⟩ | hnode
      · exact hrefs b hb
      · exact h.closed a b ⟨found, hnode, hb⟩
    exact hlt.trans_le ((Nat.le_succ g.size).trans_eq (Array.size_push kind).symm)
  descends a b hin := by
    obtain ⟨found, hnode, hplain, hb⟩ := hin
    rcases getElem?_push_cases hnode with ⟨rfl, rfl⟩ | hnode
    · exact hrefs b hb
    · exact h.descends a b ⟨found, hnode, hplain, hb⟩
  named id name hid := by
    obtain ⟨body, typeParams, hnode⟩ := hid
    rcases getElem?_push_cases hnode with ⟨rfl, hkind⟩ | hnode
    · exact hnamed name body typeParams hkind.symm
    · exact lookup_of_prefix hnames (h.named id name ⟨body, typeParams, hnode⟩)
  titled p hp := (htitled p hp).elim (fun hold => (h.titled p hold).push) fun hnew => hnew

theorem ordered_empty : Ordered .empty where
  closed a b h := by
    obtain ⟨kind, hnode, _⟩ := h
    cases hnode
  descends a b h := by
    obtain ⟨kind, hnode, _⟩ := h
    cases hnode
  named id name h := by
    obtain ⟨body, typeParams, hnode⟩ := h
    cases hnode
  titled := nofun

theorem Ordered.add (h : g.Ordered) (hkind : kind.isNamed = false)
    (hrefs : ∀ b ∈ kind.refs, b < g.size) : (g.add kind).1.Ordered := by
  refine h.push hrefs (List.prefix_refl _) ?_ fun p hp => .inl hp
  rintro name body typeParams rfl
  cases hkind

theorem lookup_addName (h : g.lookup name = none) (kind : TypeKind) :
    (g.addName name kind).1.lookup name = some g.size := by
  rw [lookup] at h
  rw [lookup, addName, List.lookup_append, h]
  simp [size]

/-- A name that is new, for a node of that name. -/
theorem Ordered.addName (h : g.Ordered) (kind : TypeKind) (hnew : g.lookup name = none)
    (hrefs : ∀ b ∈ kind.refs, b < g.size)
    (hkind : (∃ body typeParams, kind = .named name body typeParams) ∨
      ∃ target, kind = .aliasOf name target) : (g.addName name kind).1.Ordered := by
  refine h.push hrefs (List.prefix_append _ _) ?_ fun p hp => ?_
  · rintro other body typeParams rfl
    have hother : other = name := by
      rcases hkind with ⟨_, _, heq⟩ | ⟨_, heq⟩ <;> cases heq
      rfl
    exact hother ▸ lookup_addName hnew (.named other body typeParams)
  · rcases List.mem_append.1 hp with hp | hp
    · exact .inl hp
    · rw [List.mem_singleton.1 hp]
      rcases hkind with ⟨body, typeParams, rfl⟩ | ⟨target, rfl⟩
      · exact .inr (.inl ⟨body, typeParams, Array.getElem?_push_size⟩)
      · exact .inr (.inr ⟨target, Array.getElem?_push_size⟩)

theorem get_eq_ok : g.get id = .ok kind ↔ g.nodes[id]? = some kind := by
  rw [get]
  cases g.nodes[id]? with
  | none => exact ⟨nofun, nofun⟩
  | some found => simp

theorem exists_get (h : id < g.size) : ∃ kind, g.get id = .ok kind :=
  ⟨_, get_eq_ok.2 (Array.getElem?_eq_getElem h)⟩

/-! ### Defining types -/

theorem getElem?_define_cases {body : TypeId} {typeParams : List String} {other : TypeId}
    {found : TypeKind}
    (h : (⟨g.nodes.setIfInBounds id (.named name (some body) typeParams), g.names⟩ :
      TypeGraph).nodes[other]? = some found) :
    other = id ∧ found = .named name (some body) typeParams ∨ g.nodes[other]? = some found := by
  rw [Array.getElem?_setIfInBounds] at h
  split at h
  · split at h
    · cases h
      exact .inl ⟨‹id = other›.symm, rfl⟩
    · cases h
  · exact .inr h

theorem isNamed_define_iff {body : TypeId} (h : g.define id body = .ok g') {other : TypeId} :
    g'.IsNamed other name ↔ g.IsNamed other name := by
  obtain ⟨title, typeParams, hnode, rfl⟩ := exists_of_define h
  constructor
  · rintro ⟨found, params, hother⟩
    rcases getElem?_define_cases hother with ⟨rfl, heq⟩ | hother
    · cases heq
      exact ⟨none, typeParams, hnode⟩
    · exact ⟨found, params, hother⟩
  · rintro ⟨found, params, hother⟩
    by_cases hid : id = other
    · subst hid
      cases hnode.symm.trans hother
      obtain ⟨hlt, _⟩ := Array.getElem?_eq_some_iff.1 hnode
      refine ⟨some body, typeParams, ?_⟩
      rw [Array.getElem?_setIfInBounds, if_pos rfl, if_pos hlt]
    · refine ⟨found, params, ?_⟩
      rw [Array.getElem?_setIfInBounds, if_neg hid, hother]

theorem size_define {body : TypeId} (h : g.define id body = .ok g') : g'.size = g.size := by
  obtain ⟨_, _, _, rfl⟩ := exists_of_define h
  exact Array.size_setIfInBounds

theorem lt_size_of_define {body : TypeId} (h : g.define id body = .ok g') : body < g.size := by
  rw [define] at h
  cases hget : g.get body with
  | error e =>
    rw [hget] at h
    cases h
  | ok kind => exact lt_size_of_node (get_eq_ok.1 hget)

theorem Ordered.define {body : TypeId} (h : g.Ordered) (hdefine : g.define id body = .ok g') :
    g'.Ordered where
  closed a b hrefers := by
    rw [size_define hdefine]
    have hbody := lt_size_of_define hdefine
    obtain ⟨title, typeParams, hnode, rfl⟩ := exists_of_define hdefine
    obtain ⟨found, hfound, hb⟩ := hrefers
    rcases getElem?_define_cases hfound with ⟨_, rfl⟩ | hfound
    · obtain rfl := List.mem_singleton.1 hb
      exact hbody
    · exact h.closed a b ⟨found, hfound, hb⟩
  descends a b hin := by
    obtain ⟨title, typeParams, hnode, rfl⟩ := exists_of_define hdefine
    obtain ⟨found, hfound, hplain, hb⟩ := hin
    rcases getElem?_define_cases hfound with ⟨_, rfl⟩ | hfound
    · cases hplain
    · exact h.descends a b ⟨found, hfound, hplain, hb⟩
  named other title hother := by
    rw [lookup, (define_eq_ok hdefine).2]
    exact h.named other title ((isNamed_define_iff hdefine).1 hother)
  titled p hp := by
    obtain ⟨hext, hnames⟩ := define_eq_ok hdefine
    rcases h.titled p (hnames ▸ hp) with hnamed | ⟨target, hnode⟩
    · exact .inl ((isNamed_define_iff hdefine).2 hnamed)
    · obtain ⟨later, hlater, rfl | ⟨_, _, _, heq, _⟩⟩ := hext p.2 _ hnode
      · exact .inr ⟨target, hlater⟩
      · cases heq

/-! ### Extensions -/

/-- Nodes stay as they are, and the new ones are not named types. -/
structure Steady (g g' : TypeGraph) : Prop where
  names : g.names <+: g'.names
  node : ∀ (id : TypeId) kind, g.nodes[id]? = some kind → g'.nodes[id]? = some kind
  old : ∀ id name, g'.IsNamed id name → g.IsNamed id name

/-- Nodes are added without names. -/
structure Adds (g g' : TypeGraph) : Prop extends g.Steady g' where
  names_eq : g'.names = g.names

theorem Steady.refl (g : TypeGraph) : g.Steady g :=
  ⟨List.prefix_refl _, fun _ _ h => h, fun _ _ h => h⟩

theorem Steady.trans (h : g.Steady g') (h' : g'.Steady g'') : g.Steady g'' :=
  ⟨h.names.trans h'.names, fun _ _ hnode => h'.node _ _ (h.node _ _ hnode),
    fun _ _ hnamed => h.old _ _ (h'.old _ _ hnamed)⟩

theorem Steady.lookup (h : g.Steady g') (hid : g.lookup name = some id) :
    g'.lookup name = some id :=
  lookup_of_prefix h.names hid

theorem Steady.size_le (h : g.Steady g') : g.size ≤ g'.size := by
  by_contra hlt
  have hlt : g'.size < g.size := Nat.lt_of_not_le hlt
  have hnode := h.node g'.size _ (Array.getElem?_eq_getElem hlt)
  exact Nat.lt_irrefl _ (lt_size_of_node hnode)

theorem Adds.refl (g : TypeGraph) : g.Adds g := ⟨.refl g, rfl⟩

theorem Adds.trans (h : g.Adds g') (h' : g'.Adds g'') : g.Adds g'' :=
  ⟨h.toSteady.trans h'.toSteady, h'.names_eq.trans h.names_eq⟩

theorem steady_push (g : TypeGraph) (hkind : kind.isNamed = false)
    {names : List (String × TypeId)} (hnames : g.names <+: names) :
    g.Steady ⟨g.nodes.push kind, names⟩ where
  names := hnames
  node _ _ := getElem?_push_of_node
  old id name hid := by
    obtain ⟨body, typeParams, hnode⟩ := hid
    rcases getElem?_push_cases hnode with ⟨_, rfl⟩ | hnode
    · cases hkind
    · exact ⟨body, typeParams, hnode⟩

theorem adds_add (g : TypeGraph) (hkind : kind.isNamed = false) : g.Adds (g.add kind).1 :=
  ⟨steady_push g hkind (List.prefix_refl _), rfl⟩

/-! ### Names without bodies -/

/-- The names that have no bodies yet, each of which leads to its node. -/
structure Awaits (g : TypeGraph) (pending : List String) : Prop where
  nodup : pending.Nodup
  bare : ∀ name ∈ pending, ∃ id typeParams, g.lookup name = some id ∧
    g.nodes[id]? = some (.named name none typeParams)
  only : ∀ (id : TypeId) name typeParams,
    g.nodes[id]? = some (.named name none typeParams) → name ∈ pending

variable {pending : List String}

theorem Awaits.steady (h : g.Awaits pending) (hsteady : g.Steady g') : g'.Awaits pending where
  nodup := h.nodup
  bare name hname := by
    obtain ⟨id, typeParams, hid, hnode⟩ := h.bare name hname
    exact ⟨id, typeParams, hsteady.lookup hid, hsteady.node id _ hnode⟩
  only id name typeParams hnode := by
    obtain ⟨body, params, hold⟩ := hsteady.old id name ⟨none, typeParams, hnode⟩
    cases (hsteady.node id _ hold).symm.trans hnode
    exact h.only id name _ hold

theorem awaits_empty : Awaits .empty [] :=
  ⟨List.nodup_nil, nofun, fun id name typeParams h => by cases h⟩

theorem Awaits.declare (h : g.Awaits pending) (hnew : g.lookup name = none)
    (typeParams : List String) :
    (g.addName name (.named name none typeParams)).1.Awaits (pending ++ [name]) where
  nodup := by
    refine List.nodup_append.2 ⟨h.nodup, List.nodup_singleton name, ?_⟩
    intro other hother last hlast
    rw [List.mem_singleton.1 hlast]
    rintro rfl
    obtain ⟨id, _, hid, _⟩ := h.bare other hother
    cases hid.symm.trans hnew
  bare other hother := by
    rcases List.mem_append.1 hother with hold | hlast
    · obtain ⟨id, params, hid, hnode⟩ := h.bare other hold
      exact ⟨id, params, lookup_of_prefix (List.prefix_append _ _) hid, getElem?_push_of_node hnode⟩
    · rw [List.mem_singleton.1 hlast]
      exact ⟨g.size, typeParams, lookup_addName hnew _, Array.getElem?_push_size⟩
  only id other params hnode := by
    rcases getElem?_push_cases hnode with ⟨_, heq⟩ | hold
    · cases heq
      exact List.mem_append_right _ (List.mem_singleton_self _)
    · exact List.mem_append_left _ (h.only id other params hold)

/-- One of the names gets its body. -/
theorem Awaits.define {body : TypeId} (h : g.Awaits (name :: pending)) (hg : g.Ordered)
    (hid : g.lookup name = some id) (hdefine : g.define id body = .ok g') : g'.Awaits pending := by
  obtain ⟨hnew, hnodup⟩ := List.nodup_cons.1 h.nodup
  obtain ⟨title, params, hbefore, rfl⟩ := exists_of_define hdefine
  have htitle : title = name := by
    obtain ⟨id', _, hid', hnode⟩ := h.bare name (List.mem_cons_self ..)
    cases hid.symm.trans hid'
    cases hbefore.symm.trans hnode
    rfl
  refine ⟨hnodup, fun other hother => ?_, fun id' other typeParams hnode => ?_⟩
  · obtain ⟨id', typeParams, hid', hnode⟩ := h.bare other (List.mem_cons_of_mem _ hother)
    have hne : id ≠ id' := by
      rintro rfl
      cases hbefore.symm.trans hnode
      exact hnew (htitle ▸ hother)
    exact ⟨id', typeParams, hid', by rw [Array.getElem?_setIfInBounds, if_neg hne, hnode]⟩
  · rcases getElem?_define_cases hnode with ⟨_, heq⟩ | hold
    · cases heq
    · rcases List.mem_cons.1 (h.only id' other typeParams hold) with rfl | hmem
      · -- The name leads to one node only, which has a body now.
        cases hid.symm.trans (hg.named id' other ⟨none, typeParams, hold⟩)
        obtain ⟨hlt, _⟩ := Array.getElem?_eq_some_iff.1 hold
        rw [Array.getElem?_setIfInBounds, if_pos rfl, if_pos hlt] at hnode
        cases hnode
      · exact hmem

theorem exists_define {body : TypeId} {typeParams : List String}
    (hnode : g.nodes[id]? = some (.named name none typeParams)) (hbody : body < g.size) :
    ∃ g', g.define id body = .ok g' := by
  obtain ⟨kind, hget⟩ := exists_get hbody
  exact ⟨_, by rw [TypeGraph.define, hget, hnode]⟩

theorem firstUndefined_eq_none {kinds : List TypeKind} :
    firstUndefined kinds = none ↔ ∀ name typeParams, .named name none typeParams ∉ kinds := by
  induction kinds with
  | nil => exact iff_of_true rfl fun _ _ => List.not_mem_nil
  | cons kind rest ih =>
    cases kind with
    | named name body typeParams =>
      cases body with
      | none =>
        refine iff_of_false nofun fun h => h name typeParams (List.mem_cons_self ..)
      | some body =>
        rw [firstUndefined, ih]
        · simp
        · simp
    | _ =>
      rw [firstUndefined, ih]
      · simp
      · simp

theorem validate_eq_ok : g.validate = .ok () ↔ ∀ (id : TypeId) name typeParams,
    g.nodes[id]? ≠ some (.named name none typeParams) := by
  have hundefined : g.validate = .ok () ↔ firstUndefined g.nodes.toList = none := by
    rw [validate]
    cases firstUndefined g.nodes.toList <;> simp
  rw [hundefined, firstUndefined_eq_none]
  constructor
  · intro h id name typeParams hnode
    exact h name typeParams (Array.mem_toList_iff.2 (Array.mem_of_getElem? hnode))
  · intro h name typeParams hmem
    obtain ⟨id, hid⟩ := Array.getElem?_of_mem (Array.mem_toList_iff.1 hmem)
    exact h id name typeParams hid

end TypeGraph
end ScriptBind
