import ScriptBind.Proofs.Canon.Traversal

/-!
# ScriptBind.Proofs.Canon.Visits

How a call comes to its answer. What is true of all calls that succeed follows from the five ways in
which one does.

* `CanonM.Yields` - what holds of the answer of a step and of the session it leaves.
* `Session.Visits` - the nodes looked at one after the other, each with its answer.
* `Session.Finds` - the ways to an answer.
* `Session.finds_normalizeIn` - there are no others.
-/

namespace ScriptBind
namespace CanonM

variable {α β : Type} {s : Session} {Q : α → Session → Prop} {Q' : β → Session → Prop}

/-- Taken from `s`, the step succeeds only as `Q` says of the answer and of the session it leaves. -/
def Yields (s : Session) (m : CanonM α) (Q : α → Session → Prop) : Prop :=
  ∀ a s', m s = (.ok a, s') → Q a s'

namespace Yields

theorem self (s : Session) (m : CanonM α) : Yields s m fun a s' => m s = (.ok a, s') :=
  fun _ _ h => h

theorem pure {a : α} (h : Q a s) : Yields s (Pure.pure a) Q := by
  intro a' s' h'
  cases h'
  exact h

theorem throw (e : CanonError) : Yields s (MonadExcept.throw e : CanonM α) Q := by
  intro a s' h
  cases h

theorem bind {m : CanonM α} {k : α → CanonM β} (hm : Yields s m Q)
    (hk : ∀ a s', Q a s' → Yields s' (k a) Q') : Yields s (m >>= k) Q' := by
  intro b s' h
  rw [bind_apply] at h
  rcases hrun : m s with ⟨e | a, s₁⟩
  · rw [hrun] at h
    cases h
  · rw [hrun] at h
    exact hk a s₁ (hm a s₁ hrun) b s' h

theorem get {k : Session → CanonM β} (hk : Yields s (k s) Q') :
    Yields s (MonadState.get >>= k) Q' := hk

theorem set {s' : Session} {k : PUnit → CanonM β} (hk : Yields s' (k ⟨⟩) Q') :
    Yields s (MonadState.set s' >>= k) Q' := hk

theorem modify {f : Session → Session} {k : PUnit → CanonM β} (hk : Yields (f s) (k ⟨⟩) Q') :
    Yields s (modify f >>= k) Q' := hk

theorem mono {R : α → Session → Prop} {m : CanonM α} (h : Yields s m Q)
    (hQ : ∀ a s', Q a s' → R a s') : Yields s m R :=
  fun a s' ha => hQ a s' (h a s' ha)

end Yields
end CanonM

namespace Session

open CanonM (Yields)

variable {g : TypeGraph} {s : Session} {type : TypeId}

/-! ### Nodes one after the other -/

/-- Each call starts from the session that the last one left, and all have answers. -/
inductive Visits (normal : TypeId → CanonM CanonId) :
    List TypeId → Session → List CanonId → Session → Prop
  | nil (s : Session) : Visits normal [] s [] s
  | cons {type : TypeId} {id : CanonId} {types : List TypeId} {ids : List CanonId}
      {s s₁ s₂ : Session} : normal type s = (.ok id, s₁) → Visits normal types s₁ ids s₂ →
      Visits normal (type :: types) s (id :: ids) s₂

section Visits

variable {normal : TypeId → CanonM CanonId}

theorem Visits.append {types types' : List TypeId} {ids ids' : List CanonId} {s₁ s₂ : Session}
    (h : Visits normal types s ids s₁) (h' : Visits normal types' s₁ ids' s₂) :
    Visits normal (types ++ types') s (ids ++ ids') s₂ := by
  induction h with
  | nil => exact h'
  | cons hfirst _ ih => exact .cons hfirst (ih h')

theorem visits_one (type : TypeId) : Yields s (normal type) fun id => Visits normal [type] s [id] :=
  (Yields.self s _).mono fun _ s' h => .cons h (.nil s')

theorem visits_mapM {α β : Type} {f : α → CanonM β} {parts : α → List TypeId}
    {ids : β → List CanonId} {xs : List α}
    (hf : ∀ x ∈ xs, ∀ s, Yields s (f x) fun y => Visits normal (parts x) s (ids y)) :
    ∀ {s}, Yields s (xs.mapM f) fun ys => Visits normal (xs.flatMap parts) s (ys.flatMap ids) := by
  induction xs with
  | nil => exact fun {s} => .pure (.nil s)
  | cons x rest ih =>
    intro s
    obtain ⟨hx, hrest⟩ := List.forall_mem_cons.1 hf
    rw [List.mapM_cons]
    refine (hx s).bind fun y s₁ hy => ?_
    exact (ih hrest).bind fun ys s₂ hys => .pure (hy.append hys)

/-- Each item is one node. -/
theorem visits_mapM_type {α : Type} {typeOf : α → TypeId} {xs : List α} :
    Yields s (xs.mapM fun x => normal (typeOf x)) (Visits normal (xs.map typeOf) s) := by
  have hitem : ∀ x ∈ xs, ∀ s, Yields s (normal (typeOf x))
      fun id => Visits normal [typeOf x] s [id] := fun x _ s => visits_one (typeOf x)
  refine (visits_mapM hitem).mono fun ids s' hvisits => ?_
  rwa [← List.map_eq_flatMap, List.flatMap_singleton'] at hvisits

theorem visits_operands {β : Type} {Q : β → Session → Prop} {sig : FuncSig}
    {k : List CanonId → List CanonId → CanonM β}
    (hk : ∀ params results s', Visits normal (sig.params.map (·.type) ++ sig.outputs) s
      (params ++ results) s' → Yields s' (k params results) Q) :
    Yields s (do
      let params ← sig.params.mapM fun p => normal p.type
      let results ← sig.results.mapM fun r => normal r.type
      k params results) Q :=
  visits_mapM_type.bind fun _ _ hparams => visits_mapM_type.bind fun _ _ hresults =>
    hk _ _ _ (hparams.append hresults)

theorem visits_funcWith (sig : FuncSig) :
    Yields s (funcWith normal sig) fun f => Visits normal sig.refs s f.refs := by
  rw [funcWith, FuncSig.refs, FuncSig.inputs]
  split
  · rename_i hreceiver
    rw [hreceiver]
    exact visits_operands fun params results s' hvisits => .pure hvisits
  · rename_i receiver hreceiver
    rw [hreceiver]
    refine (Yields.self s _).bind fun first s₁ hfirst => ?_
    dsimp only
    split
    · exact .get ((Yields.throw _ (Q := fun _ _ => False)).bind fun _ _ h => h.elim)
    · exact visits_operands fun params results s' hvisits => .pure (.cons hfirst hvisits)

/-- The methods are sorted once all of them are known. -/
theorem visits_methodsWith (methods : List Method) :
    Yields s (methodsWith normal methods) fun found s' => ∃ ids,
      Visits normal (methods.flatMap (·.sig.refs)) s ids s' ∧
        ∀ r ∈ found.flatMap (·.func.refs), r ∈ ids := by
  have hmethod : ∀ m ∈ methods, ∀ s, Yields s
      (do return (⟨m.name, ← funcWith normal m.sig⟩ : CanonMethod))
      fun found => Visits normal m.sig.refs s found.func.refs := by
    intro m _ s
    refine (visits_funcWith m.sig).bind fun f s' hf => ?_
    exact .pure hf
  refine (visits_mapM hmethod).bind fun found s' hfound => .pure ⟨_, hfound, fun r hr => ?_⟩
  obtain ⟨m, hm, hr⟩ := List.mem_flatMap.1 hr
  exact List.mem_flatMap.2 ⟨m, List.mem_mergeSort.1 hm, hr⟩

theorem visits_fields (fields : List Field) :
    Yields s (fields.mapM fun f => do return (f.name, ← normal f.type)) fun found =>
      Visits normal (fields.map (·.type)) s (found.map (·.2)) := by
  have hfield : ∀ f ∈ fields, ∀ s, Yields s (do return (f.name, ← normal f.type))
      fun p => Visits normal [f.type] s [p.2] := by
    intro f _ s
    refine (visits_one f.type).bind fun id s' hid => ?_
    exact .pure hid
  refine (visits_mapM hfield).mono fun found s' hvisits => ?_
  rwa [← List.map_eq_flatMap, ← List.map_eq_flatMap] at hvisits

end Visits

/-! ### One node -/

theorem kind?_intern (s : Session) (kind : CanonKind) :
    (s.intern kind).1.kind? (s.intern kind).2 = some kind := by
  rw [intern]
  split
  · rename_i id hid
    obtain ⟨hlt, heq, _⟩ := Array.findIdx?_eq_some_iff_getElem.1 hid
    exact (Array.getElem?_eq_getElem hlt).trans (congrArg some (of_decide_eq_true heq))
  · exact kind?_push_size kind

/-- To enter a struct among the aliases, or not. -/
def registerIf (register : Bool) (id : CanonId) (s : Session) : Session :=
  if register then s.registerAlias id else s

theorem registerIf_of_kind? {id : CanonId} {kind : CanonKind} (register : Bool)
    (hid : s.kind? id = some kind) (hkind : ∀ name fields, kind ≠ .struct name fields) :
    s.registerIf register id = s := by
  rw [registerIf, registerAlias, hid]
  cases kind with
  | struct name fields => exact absurd rfl (hkind name fields)
  | _ => exact ite_self s

/-- How a call gives an answer. The calls that it makes itself are `normal`, each with the flag that
it passes on; the last argument is the session that it leaves. -/
inductive Finds (g : TypeGraph) (normal : Bool → TypeId → CanonM CanonId) (register : Bool)
    (type : TypeId) (s : Session) : CanonId → Session → Prop
  /-- The node was seen before. -/
  | known {id : CanonId} : s.memo.lookup type = some id →
    Finds g normal register type s id (s.registerIf register id)
  /-- The parts of the node make up a kind. -/
  | built {node : TypeKind} {kind : CanonKind} {ids : List CanonId} {s₁ : Session} :
    g.nodes[type]? = some node → node.isNamed = false → node.isAlias = false →
    Visits (normal true) node.refs s ids s₁ → kind.isNominal = false → (∀ r ∈ kind.refs, r ∈ ids) →
    Finds g normal register type s (s₁.intern kind).2
      (((s₁.intern kind).1.registerIf register (s₁.intern kind).2).remember type
        (s₁.intern kind).2)
  /-- An alias is what it stands for. -/
  | aliased {name : String} {target : TypeId} {id : CanonId} {s₁ : Session} :
    g.nodes[type]? = some (.aliasOf name target) → normal register target s = (.ok id, s₁) →
    Finds g normal register type s id (s₁.remember type id)
  /-- The name is in the table. -/
  | named {name : String} {body : Option TypeId} {typeParams : List String} {id : CanonId} :
    g.nodes[type]? = some (.named name body typeParams) → s.findNamed name = some id →
    Finds g normal register type s id (s.remember type id)
  /-- The name is entered, and then its body is looked at. -/
  | defined {name : String} {body : TypeId} {typeParams : List String} {kind : TypeKind}
      {found underlying : CanonId} {s₁ : Session} :
    g.nodes[type]? = some (.named name (some body) typeParams) → s.findNamed name = none →
    g.nodes[body]? = some kind →
    normal (!isStruct kind) body (s.reserve type name).1 = (.ok found, s₁) →
    Finds g normal register type s (s.reserve type name).2
      ((s₁.setUnderlying (s.reserve type name).2 name underlying).remember type
        (s.reserve type name).2)

theorem yields_node (g : TypeGraph) (type : TypeId) :
    Yields s (node g type) fun kind s' => g.nodes[type]? = some kind ∧ s' = s := by
  rw [node, TypeGraph.get]
  cases g.nodes[type]? with
  | none => exact .throw _
  | some kind => exact .pure ⟨rfl, rfl⟩

theorem yields_underlyingOf (name : String) (body : CanonId) :
    Yields s (underlyingOf name body) fun _ s' => s' = s := by
  refine .get ?_
  split
  · exact .pure rfl
  · exact .throw _
  · exact .pure rfl

theorem yields_internM (kind : CanonKind) : Yields s (internM kind) fun id s' =>
    id = (s.intern kind).2 ∧ s' = (s.intern kind).1 :=
  .get (.set (.pure ⟨rfl, rfl⟩))

theorem finds_normalizeIn (g : TypeGraph) (fuel : Nat) (register : Bool) (type : TypeId)
    (s : Session) : Yields s (normalizeIn g (fuel + 1) register type)
      (Finds g (normalizeIn g fuel) register type s) := by
  rw [normalizeIn]
  refine .get ?_
  split
  · rename_i id hid
    have h : Finds g (normalizeIn g fuel) register type s id _ := .known hid
    cases register with
    | false => exact .pure h
    | true => exact .modify (.pure h)
  · refine (yields_node g type).bind fun node s₀ hnode => ?_
    obtain ⟨hnode, rfl⟩ := hnode
    have hdone : ∀ {id s'}, Finds g (normalizeIn g fuel) register type s₀ id (s'.remember type id) →
        Yields s' (do
          modify fun s => s.remember type id
          return id) (Finds g (normalizeIn g fuel) register type s₀) :=
      fun h => .modify (.pure h)
    -- of a kind other than a struct there is nothing to register
    have hbuilt : ∀ {s₁ ids} (kind : CanonKind), node.isNamed = false → node.isAlias = false →
        Visits (normalizeIn g fuel true) node.refs s₀ ids s₁ → kind.isNominal = false →
        (∀ name fields, kind ≠ .struct name fields) → (∀ r ∈ kind.refs, r ∈ ids) →
        Yields s₁ (do
          let id ← internM kind
          modify fun s => s.remember type id
          return id) (Finds g (normalizeIn g fuel) register type s₀) := by
      intro s₁ ids kind hnamed halias hvisits hnominal hkind hrefs
      refine (yields_internM kind).bind fun id s₂ h => ?_
      obtain ⟨rfl, rfl⟩ := h
      have h : Finds g (normalizeIn g fuel) register type s₀ _ _ :=
        .built hnode hnamed halias hvisits hnominal hrefs
      rw [registerIf_of_kind? register (kind?_intern s₁ kind) hkind] at h
      exact hdone h
    cases node with
    | slice element | pointer element | array length element | chan direction element =>
      refine (visits_one element).bind fun id s₁ hid => ?_
      exact hbuilt _ rfl rfl hid rfl (by simp) fun r hr => hr
    | map key value =>
      refine (visits_one key).bind fun k s₁ hk => (visits_one value).bind fun v s₂ hv => ?_
      exact hbuilt _ rfl rfl (hk.append hv) rfl (by simp) fun r hr => hr
    | func sig =>
      refine (visits_funcWith sig).bind fun f s₁ hf => ?_
      exact hbuilt _ rfl rfl hf rfl (by simp) fun r hr => hr
    | interface methods =>
      cases methods with
      | nil => exact hbuilt _ rfl rfl (.nil s₀) rfl (by simp) fun r hr => hr
      | cons m rest =>
        refine (visits_methodsWith (m :: rest)).bind fun found s₁ hfound => ?_
        obtain ⟨ids, hvisits, hids⟩ := hfound
        exact hbuilt _ rfl rfl hvisits rfl (by simp) hids
    | struct fields =>
      refine (visits_fields fields).bind fun found s₁ hfound => .get ?_
      refine (yields_internM _).bind fun id s₂ h => ?_
      obtain ⟨rfl, rfl⟩ := h
      have h : Finds g (normalizeIn g fuel) register type s₀
          (s₁.intern (.struct (structAlias (s₁.fieldListing found)) found)).2 _ :=
        .built hnode rfl rfl hfound rfl fun r hr => hr
      cases register with
      | false => exact hdone h
      | true => exact .modify (hdone h)
    | aliasOf name target => exact (Yields.self s₀ _).bind fun id s₁ hid => hdone (.aliased hnode hid)
    | named name body typeParams =>
      refine .get ?_
      split
      · rename_i id hid
        exact hdone (.named hnode hid)
      · rename_i hnone
        refine .get (.set ?_)
        split
        · exact (Yields.throw _ (Q := fun _ _ => False)).bind fun _ _ h => h.elim
        · rename_i body
          refine (yields_node g body).bind fun kind s₁ hkind => ?_
          obtain ⟨hkind, rfl⟩ := hkind
          refine (Yields.self _ _).bind fun found s₂ hfound => ?_
          refine (yields_underlyingOf name found).bind fun underlying s₃ h => ?_
          subst h
          exact .modify (hdone (.defined hnode hnone hkind hfound))
    | _ => exact hbuilt _ rfl rfl (.nil s₀) rfl (by simp) fun r hr => hr

end Session
end ScriptBind
