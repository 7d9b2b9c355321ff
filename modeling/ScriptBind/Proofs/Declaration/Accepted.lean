import ScriptBind.Declaration.Reader
import ScriptBind.Proofs.Declaration.Ordered

/-!
# ScriptBind.Proofs.Declaration.Accepted

A declaration that is accepted is not refused by the type graph when it is lowered.

* `Lowering.titles` - the full names of some types.
* `Lowering.orders_declareTypes`, `orders_defineAliases`, `orders_defineBodies` - the steps that
  name and define types. If the names are single, none of them fails because of the graph.
* `Declaration.single_of_check` - the names of an accepted declaration are single.
* `Declaration.layered_of_lower` - the graph of a declaration that is lowered is in order.
* `Declaration.lower_layered` - both for an accepted declaration.
-/

namespace ScriptBind
namespace Lowering

variable {single : Prop} {s s' : State} {package : String}

def titles (package : String) (types : List TypeDecl) : List String :=
  types.map fun t => qualify package t.name

/-- The names in a graph. -/
def taken (s : State) : List String := s.graph.names.map (·.1)

theorem lookup_eq_none_of_not_mem {name : String} (h : name ∉ taken s) :
    s.graph.lookup name = none :=
  lookup_eq_none_iff_not_mem.2 h

theorem taken_of_adds (h : s.graph.Adds s'.graph) : taken s' = taken s := by
  rw [taken, taken, h.names_eq]

/-- The next name is new, and so are the others once it is taken. -/
theorem nodup_titles_cons {t : TypeDecl} {types : List TypeDecl}
    (h : (taken s ++ titles package (t :: types)).Nodup) : qualify package t.name ∉ taken s ∧
      (taken s ++ [qualify package t.name] ++ titles package types).Nodup := by
  have hsplit : taken s ++ titles package (t :: types) =
      taken s ++ [qualify package t.name] ++ titles package types := by
    rw [List.append_assoc]
    rfl
  refine ⟨fun hmem => ?_, hsplit ▸ h⟩
  exact (List.nodup_append.1 h).2.2 _ hmem _ (List.mem_cons_self ..) rfl

/-! ### Naming and defining types -/

theorem orders_declare (hs : Placed s) {name : String} (typeParams : List String)
    (hnew : single → name ∉ taken s)
    (hawaits : single → s.graph.Awaits (taken s)) :
    Orders single s (liftGraph fun g => g.declare name typeParams) fun s' _ =>
      taken s' = taken s ++ [name] ∧ (single → s'.graph.Awaits (taken s')) := by
  refine .liftGraph (fun g id hstep => ?_) fun hsingle => ?_
  · obtain ⟨hnone, rfl, _, _⟩ := TypeGraph.declare_eq_ok hstep
    have hg := hs.graph.addName (.named name none typeParams) hnone
      (List.forall_mem_nil _) (.inl ⟨none, typeParams, rfl⟩)
    have htaken : taken ⟨(s.graph.addName name (.named name none typeParams)).1, s.predeclared⟩ =
        taken s ++ [name] := List.map_append
    refine ⟨hs.grow hg ?_, htaken, fun hsingle => ?_⟩
    · exact (Nat.le_succ _).trans_eq (Array.size_push _).symm
    · rw [htaken]
      exact (hawaits hsingle).declare hnone typeParams
  · exact ⟨_, by rw [TypeGraph.declare, lookup_eq_none_of_not_mem (hnew hsingle)]⟩

theorem orders_declareTypes {types : List TypeDecl} (hs : Placed s)
    (hnodup : single → (taken s ++ titles package (types.filter (!·.isAlias))).Nodup)
    (hawaits : single → s.graph.Awaits (taken s)) :
    Orders single s (declareTypes package types) fun s' _ =>
      taken s' = taken s ++ titles package (types.filter (!·.isAlias)) ∧
        (single → s'.graph.Awaits (taken s')) := by
  induction types generalizing s with
  | nil => exact .pure hs ⟨(List.append_nil _).symm, hawaits⟩
  | cons t rest ih =>
    rw [declareTypes]
    cases halias : t.isAlias with
    | true =>
      rw [List.filter_cons_of_neg (by simp [halias])] at hnodup ⊢
      exact ih hs hnodup hawaits
    | false =>
      rw [List.filter_cons_of_pos (by simp [halias])] at hnodup ⊢
      have hnew := fun hsingle => nodup_titles_cons (hnodup hsingle)
      refine (orders_declare hs t.typeParams (fun h => (hnew h).1) hawaits).bind
        fun id s₁ hs₁ hdeclared => ?_
      obtain ⟨htaken, hawaits₁⟩ := hdeclared
      refine (ih hs₁ (fun h => htaken ▸ (hnew h).2) hawaits₁).mono fun s₂ _ _ h => ⟨?_, h.2⟩
      rw [h.1, htaken, List.append_assoc]
      rfl

theorem orders_addAlias (hs : Placed s) {name : String} {target : TypeId}
    (htarget : target < s.graph.size) (hnew : single → name ∉ taken s) :
    Orders single s (liftGraph fun g => g.addAlias name target) fun s' _ =>
      taken s' = taken s ++ [name] ∧ s.graph.Steady s'.graph := by
  refine .liftGraph (fun g id hstep => ?_) fun hsingle => ?_
  · obtain ⟨hnone, rfl, _, _⟩ := TypeGraph.addAlias_eq_ok hstep
    have hg := hs.graph.addName (.aliasOf name target) hnone
      (List.forall_mem_singleton.2 htarget) (.inr ⟨target, rfl⟩)
    have hplain : (TypeKind.aliasOf name target).isNamed = false := rfl
    have hsteady := s.graph.steady_push hplain
      (List.prefix_append s.graph.names [(name, s.graph.nodes.size)])
    exact ⟨hs.grow hg hsteady.size_le, List.map_append, hsteady⟩
  · obtain ⟨kind, hget⟩ := TypeGraph.exists_get htarget
    exact ⟨_, by rw [TypeGraph.addAlias, hget, lookup_eq_none_of_not_mem (hnew hsingle)]⟩

theorem orders_defineAliases {types : List TypeDecl} (hs : Placed s)
    (hnodup : single → (taken s ++ titles package (types.filter (·.isAlias))).Nodup) :
    Orders single s (defineAliases package types) fun s' _ => s.graph.Steady s'.graph := by
  induction types generalizing s with
  | nil => exact .pure hs (.refl _)
  | cons t rest ih =>
    rw [defineAliases]
    cases halias : t.isAlias with
    | false =>
      rw [List.filter_cons_of_neg (by simp [halias])] at hnodup
      exact ih hs hnodup
    | true =>
      rw [List.filter_cons_of_pos (by simp [halias])] at hnodup
      have hnew := fun hsingle => nodup_titles_cons (hnodup hsingle)
      rw [if_pos rfl]
      refine Orders.bind (adding_typeText hs package [] t.type)
        fun target s₁ hs₁ htyped => ?_
      obtain ⟨hadds, htarget⟩ := htyped
      have htaken₁ : taken s₁ = taken s := taken_of_adds hadds
      refine (orders_addAlias hs₁ htarget fun h => htaken₁ ▸ (hnew h).1).bind
        fun id s₂ hs₂ hadded => ?_
      obtain ⟨htaken₂, hsteady⟩ := hadded
      rw [htaken₁] at htaken₂
      exact (ih hs₂ fun h => htaken₂ ▸ (hnew h).2).mono
        fun s₃ _ _ h => hadds.toSteady.trans (hsteady.trans h)

theorem orders_define (hs : Placed s) {name : String} {pending : List String} {id body : TypeId}
    (hid : s.graph.lookup name = some id) (hbody : body < s.graph.size)
    (hawaits : single → s.graph.Awaits (name :: pending)) :
    Orders single s (liftGraph fun g => (g.define id body).map fun g => (g, ())) fun s' _ =>
      single → s'.graph.Awaits pending := by
  refine .liftGraph (fun g _ hstep => ?_) fun hsingle => ?_
  · obtain ⟨g', hdefine, ⟨⟩⟩ := map_eq_ok_iff.1 hstep
    exact ⟨hs.grow (hs.graph.define hdefine) (TypeGraph.size_define hdefine).ge,
      fun hsingle => (hawaits hsingle).define hs.graph hid hdefine⟩
  · obtain ⟨id', typeParams, hid', hnode⟩ := (hawaits hsingle).bare name (List.mem_cons_self ..)
    cases hid.symm.trans hid'
    obtain ⟨g, hdefine⟩ := TypeGraph.exists_define hnode hbody
    exact ⟨_, by rw [hdefine]; rfl⟩

theorem orders_defineBodies {types : List TypeDecl} (hs : Placed s)
    (hawaits : single → s.graph.Awaits (titles package (types.filter (!·.isAlias)))) :
    Orders single s (defineBodies package types) fun s' _ => single → s'.graph.Awaits [] := by
  induction types generalizing s with
  | nil => exact .pure hs hawaits
  | cons t rest ih =>
    rw [defineBodies]
    cases halias : t.isAlias with
    | true =>
      rw [List.filter_cons_of_neg (by simp [halias])] at hawaits
      exact ih hs hawaits
    | false =>
      rw [List.filter_cons_of_pos (by simp [halias])] at hawaits
      rw [if_pos (by rfl)]
      refine Orders.bind (adding_typeText hs package t.typeParams t.type)
        fun body s₁ hs₁ htyped => ?_
      obtain ⟨hadds₁, hbody⟩ := htyped
      refine Orders.bind (adding_declaredId hs₁ package t) fun id s₂ hs₂ hfound => ?_
      obtain ⟨hadds₂, hid, -⟩ := hfound
      have hawaits₂ : single → s₂.graph.Awaits _ := fun hsingle =>
        ((hawaits hsingle).steady hadds₁.toSteady).steady hadds₂.toSteady
      exact (orders_define hs₂ hid (hbody.trans_le hadds₂.size_le) hawaits₂).bind
        fun _ s₃ hs₃ hawaits₃ => ih hs₃ hawaits₃

theorem orders_validate (hs : Placed s) (hawaits : single → s.graph.Awaits []) :
    Orders single s (liftGraph fun g => g.validate.map fun () => (g, ())) fun s' _ =>
      s' = s ∧ s.graph.Layered := by
  refine .liftGraph (fun g _ hstep => ?_) fun hsingle => ?_
  · obtain ⟨_, hvalidate, ⟨⟩⟩ := map_eq_ok_iff.1 hstep
    refine ⟨hs, rfl, hs.graph, fun id name body typeParams hnode => ?_⟩
    cases body with
    | none => exact absurd hnode (TypeGraph.validate_eq_ok.1 hvalidate id name typeParams)
    | some body => rfl
  · have hvalidate : s.graph.validate = .ok () := TypeGraph.validate_eq_ok.2
      fun id name typeParams hnode => List.not_mem_nil ((hawaits hsingle).only id name _ hnode)
    exact ⟨_, by rw [hvalidate]; rfl⟩

/-! ### The whole declaration -/

theorem orders_declaration (d : Declaration) :
    Orders (titles d.package.name d.types).Nodup ⟨.empty, []⟩ (declaration d) fun s' requests =>
      s'.graph.Layered ∧ Requested s'.graph requests := by
  -- The aliases get their names after all other types, wherever they stand in the declaration.
  have hparts : (titles d.package.name d.types).Nodup →
      (titles d.package.name (d.types.filter (!·.isAlias)) ++
        titles d.package.name (d.types.filter (·.isAlias))).Nodup := by
    intro h
    have hperm : (d.types.filter (!·.isAlias) ++ d.types.filter (·.isAlias)).Perm d.types :=
      List.perm_append_comm.trans (List.filter_append_perm (·.isAlias) d.types)
    rw [titles, titles, ← List.map_append]
    exact (hperm.map _).nodup_iff.2 h
  rw [declaration]
  refine (orders_declareTypes placed_empty (fun h => (List.nodup_append.1 (hparts h)).1)
    fun _ => TypeGraph.awaits_empty).bind fun _ s₁ hs₁ hdeclared => ?_
  obtain ⟨htaken, hawaits₁⟩ := hdeclared
  have htaken : taken s₁ = titles d.package.name (d.types.filter (!·.isAlias)) := htaken
  refine (orders_defineAliases hs₁ fun h => htaken ▸ hparts h).bind fun _ s₂ hs₂ hsteady => ?_
  have hawaits₂ : (titles d.package.name d.types).Nodup →
      s₂.graph.Awaits (titles d.package.name (d.types.filter (!·.isAlias))) := fun h =>
    htaken ▸ (hawaits₁ h).steady hsteady
  refine (orders_defineBodies hs₂ hawaits₂).bind fun _ s₃ hs₃ hawaits₃ => ?_
  refine Orders.bind (adding_requestTypes hs₃ d.package.name d.types)
    fun ofTypes s₄ hs₄ hofTypes => ?_
  obtain ⟨hadds₄, htypes⟩ := hofTypes
  refine Orders.bind (adding_functions hs₄ d.package.name d.functions)
    fun ofFunctions s₅ hs₅ hofFunctions => ?_
  obtain ⟨hadds₅, hfunctions⟩ := hofFunctions
  refine Orders.bind (adding_methodDecls hs₅ d.package.name d.methods)
    fun ofMethods s₆ hs₆ hofMethods => ?_
  obtain ⟨hadds₆, hmethods⟩ := hofMethods
  refine Orders.bind (adding_conversions hs₆ d.package.name d.convert)
    fun explicit s₇ hs₇ hconverted => ?_
  obtain ⟨hadds₇, hexplicit⟩ := hconverted
  have hadds := hadds₄.trans (hadds₅.trans (hadds₆.trans hadds₇))
  refine (orders_validate hs₇ fun h => (hawaits₃ h).steady hadds.toSteady).bind
    fun _ s₈ hs₈ hvalid => .pure hs₈ ?_
  obtain ⟨rfl, hlayered⟩ := hvalid
  exact ⟨hlayered,
    ((htypes.append hadds₅ hfunctions).append hadds₆ hmethods).append hadds₇ hexplicit⟩

end Lowering

open Lowering

namespace Declaration

variable {d : Declaration} {l : Lowered}

/-! ### Accepted declarations -/

theorem names_of_checkTypes {types : List TypeDecl} {seen : List String}
    (h : checkTypes seen types = .ok ()) : (types.map (·.name)).Nodup ∧
      ∀ t ∈ types, t.name ∉ seen ∧ hasDot t.name = false := by
  induction types generalizing seen with
  | nil => exact ⟨List.nodup_nil, List.forall_mem_nil _⟩
  | cons t rest ih =>
    rw [checkTypes] at h
    split at h
    · cases h
    rename_i hdot
    split at h
    · cases h
    rename_i hseen
    split at h
    · cases h
    obtain ⟨hnodup, hrest⟩ := ih h
    refine ⟨List.nodup_cons.2 ⟨fun hmem => ?_, hnodup⟩, List.forall_mem_cons.2 ⟨⟨?_, ?_⟩, ?_⟩⟩
    · obtain ⟨t', ht', hname⟩ := List.mem_map.1 hmem
      exact (hrest t' ht').1 (hname ▸ List.mem_cons_self ..)
    · exact fun hmem => hseen (List.contains_iff_mem.2 hmem)
    · exact Bool.eq_false_of_not_eq_true hdot
    · exact fun t' ht' => ⟨fun hmem => (hrest t' ht').1 (List.mem_cons_of_mem _ hmem),
        (hrest t' ht').2⟩

/-- Names without dots stay different when they are qualified. -/
theorem single_of_check (h : d.check = .ok ()) : (titles d.package.name d.types).Nodup := by
  have hcheck : checkTypes [] d.types = .ok () := by
    rw [check] at h
    split at h
    · cases h
    split at h
    · cases h
    split at h
    · cases h
    · assumption
  obtain ⟨hnodup, hnames⟩ := names_of_checkTypes hcheck
  have hqualified : titles d.package.name d.types =
      (d.types.map (·.name)).map (d.package.name ++ "." ++ ·) := by
    rw [titles, List.map_map]
    refine List.map_congr_left fun t ht => ?_
    rw [qualify, (hnames t ht).2]
    rfl
  rw [hqualified]
  exact hnodup.map fun a b hab => (String.append_right_inj _).1 hab

/-- What is read is accepted. -/
theorem check_of_read {text : String} (h : read text = .ok d) : d.check = .ok () := by
  rw [read] at h
  split at h
  · cases h
  rw [checked] at h
  split at h
  · cases h
  · split at h
    · cases h
    · cases h
      assumption

/-- Accepted or not: the graph of a declaration that is lowered is in order, and what is requested
is in it. -/
theorem layered_of_lower (h : d.lower = .ok l) :
    l.graph.Layered ∧ Requested l.graph l.requests := by
  rw [lower] at h
  cases hrun : declaration d ⟨.empty, []⟩ with
  | error e =>
    rw [hrun] at h
    cases h
  | ok r =>
    obtain ⟨requests, s⟩ := r
    rw [hrun] at h
    cases h
    exact ((orders_declaration d).ok requests s hrun).2

theorem lower_ne_graph (hsingle : (titles d.package.name d.types).Nodup) (cause : GraphError) :
    d.lower ≠ .error (.graph cause) := by
  intro h
  rw [lower] at h
  cases hrun : declaration d ⟨.empty, []⟩ with
  | error e =>
    rw [hrun] at h
    cases h
    exact (orders_declaration d).error _ hrun hsingle cause rfl
  | ok r =>
    rw [hrun] at h
    cases h

/-- The type graph refuses no step of an accepted declaration. In the graph of one that is lowered
every named type has its body, a name leads to a type of that name, what is referred to and what is
requested is there, and only a named type refers to what came after it, so that every cycle passes
through a named type. -/
theorem lower_layered (h : d.check = .ok ()) : (∀ cause, d.lower ≠ .error (.graph cause)) ∧
    ∀ l, d.lower = .ok l → l.graph.Layered ∧ (∀ q ∈ l.requests, q.type < l.graph.size) ∧
      ∀ id, ¬ Relation.TransGen l.graph.Inside id id := by
  refine ⟨lower_ne_graph (single_of_check h), fun l hl => ?_⟩
  obtain ⟨hlayered, hrequested⟩ := layered_of_lower hl
  exact ⟨hlayered, hrequested, hlayered.guarded⟩

/-- A type that refers to itself, an alias, and a method of a pointer. -/
theorem lower_layered_harbor : harbor.check = .ok () ∧ ∃ l, harbor.lower = .ok l ∧
    l.graph.Layered ∧ (∀ q ∈ l.requests, q.type < l.graph.size) ∧
    ∀ id, ¬ Relation.TransGen l.graph.Inside id id := by
  have hcheck : harbor.check = .ok () := by decide +kernel
  have hlowers : (harbor.lower.toOption).isSome := by decide +kernel
  cases hlower : harbor.lower with
  | error e =>
    rw [hlower] at hlowers
    cases hlowers
  | ok l => exact ⟨hcheck, l, rfl, (lower_layered hcheck).2 l hlower⟩

end Declaration
end ScriptBind
