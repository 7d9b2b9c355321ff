import ScriptBind.Proofs.Canon.Sessions
import ScriptBind.Proofs.Declaration.Spelling
import ScriptBind.Proofs.TypeExpr.Reading
import ScriptBind.Proofs.TypeGraph.Later

/-!
# ScriptBind.Proofs.Declaration.Expressions

What lowering makes of one expression: a node whose tree is written as the expression is spelled.
The graph only grows and the declared names keep their meaning, so what was made stays as it is.

* `Lowering.Holds` - the graph agrees with the declared names in writing.
* `Lowering.Makes` - a step keeps that, extends the graph, and its result is as it should be.
* `Lowering.makes_type`, `Lowering.makes_func` - a type and a function.
-/

namespace ScriptBind

/-! ### Nodes in writing -/

namespace TypeGraph

variable {g g' : TypeGraph} {id : TypeId} {kind : TypeKind} {u : Unfolding}

/-- The node has a tree, and `text` is that tree in writing. -/
def Reads (g : TypeGraph) (id : TypeId) (text : Option String) : Prop :=
  ∃ u, g.Unfolds id u ∧ text = some u.text

/-- What a node of this kind would mean. -/
def UnfoldsKind (g : TypeGraph) (kind : TypeKind) (u : Unfolding) : Prop :=
  ∃ depth, kind.unfoldWith (g.unfoldIn depth) = some u

def UnfoldsSig (g : TypeGraph) (sig : FuncSig) (u : Unfolding) : Prop :=
  ∃ depth, sig.unfoldWith (g.unfoldIn depth) = some u

theorem Reads.mono {text : Option String} (h : g.Reads id text) (hext : g.Extends g') :
    g'.Reads id text := by
  obtain ⟨u, hu, htext⟩ := h
  exact ⟨u, hext.unfolds hu, htext⟩

theorem UnfoldsKind.mono (h : g.UnfoldsKind kind u) (hext : g.Extends g') :
    g'.UnfoldsKind kind u :=
  h.imp fun _ => TypeKind.unfoldWith_mono fun _ _ => hext.unfoldIn

theorem UnfoldsSig.mono {sig : FuncSig} (h : g.UnfoldsSig sig u) (hext : g.Extends g') :
    g'.UnfoldsSig sig u :=
  h.imp fun _ => FuncSig.unfoldWith_mono fun _ _ => hext.unfoldIn

theorem UnfoldsKind.unfolds (h : g.UnfoldsKind kind u) (hid : g.nodes[id]? = some kind) :
    g.Unfolds id u := by
  obtain ⟨depth, h⟩ := h
  exact unfolds_of_unfoldWith hid h

/-- A kind with one part. -/
theorem UnfoldsKind.of_part {v : Unfolding} {make : Unfolding → Unfolding}
    (hkind : ∀ unfold, kind.unfoldWith unfold = (do return make (← unfold id)))
    (h : g.Unfolds id v) : g.UnfoldsKind kind (make v) := by
  obtain ⟨depth, h⟩ := h
  refine ⟨depth, ?_⟩
  rw [hkind, h]
  rfl

theorem UnfoldsKind.map {key value : TypeId} {v w : Unfolding} (hkey : g.Unfolds key v)
    (hvalue : g.Unfolds value w) : g.UnfoldsKind (.map key value) (.map v w) := by
  obtain ⟨n, hn⟩ := hkey
  obtain ⟨m, hm⟩ := hvalue
  refine ⟨max n m, ?_⟩
  rw [TypeKind.unfoldWith, unfoldIn_of_le (Nat.le_max_left n m) hn,
    unfoldIn_of_le (Nat.le_max_right n m) hm]
  rfl

theorem unfoldsSig_of_forall₂ {sig : FuncSig} {us vs : List Unfolding}
    (hinputs : List.Forall₂ g.Unfolds sig.inputs us)
    (houtputs : List.Forall₂ g.Unfolds sig.outputs vs) :
    g.UnfoldsSig sig (.func us vs sig.variadic sig.allTypeParams) :=
  exists_unfoldWith_sig hinputs houtputs

theorem UnfoldsKind.struct {fields : List Field} {found : List (String × Unfolding)}
    (h : List.Forall₂ (fun f p => p.1 = f.name ∧ g.Unfolds f.type p.2) fields found) :
    g.UnfoldsKind (.struct fields) (.struct found) :=
  exists_unfoldWith_struct h

theorem UnfoldsKind.interface {methods : List Method} {found : List (String × Unfolding)}
    (hne : methods ≠ [])
    (h : List.Forall₂ (fun m p => p.1 = m.name ∧ g.UnfoldsSig m.sig p.2) methods found) :
    g.UnfoldsKind (.interface methods) (.interface (found.mergeSort fun a b => a.1 ≤ b.1)) :=
  exists_unfoldWith_interface hne h

end TypeGraph

/-! ### Names -/

namespace Names

/-- Whatever is declared here is declared there, and written the same. -/
structure Within (names final : Names) : Prop where
  package : final.package = names.package
  declared : ∀ name text, names.declared.lookup name = some text →
    final.declared.lookup name = some text

theorem Within.refl (names : Names) : names.Within names := ⟨rfl, fun _ _ h => h⟩

theorem Within.trans {names later last : Names} (h : names.Within later)
    (h' : later.Within last) : names.Within last :=
  ⟨h'.package.trans h.package, fun _ _ hname => h'.declared _ _ (h.declared _ _ hname)⟩

theorem within_append (names : Names) (more : List (String × String)) :
    names.Within ⟨names.package, names.declared ++ more⟩ := by
  refine ⟨rfl, fun name text h => ?_⟩
  rw [List.lookup_append, h, Option.some_or]

end Names

theorem hasDot_qualify (package name : String) : hasDot (qualify package name) = true := by
  rw [qualify]
  split
  · assumption
  · simp [hasDot]

theorem qualify_of_hasDot {package name : String} (h : hasDot name = true) :
    qualify package name = name := if_pos h

/-- What two lists have under the same name. -/
theorem lookup_of_forall₂ {α β : Type} {R : α → β → Prop} {name : String} {a : α}
    {xs : List (String × α)} {ys : List (String × β)}
    (h : List.Forall₂ (fun p q => p.1 = q.1 ∧ R p.2 q.2) xs ys) (hx : xs.lookup name = some a) :
    ∃ b, ys.lookup name = some b ∧ R a b := by
  induction h with
  | nil => cases hx
  | @cons p q xs ys hpq _ ih =>
    obtain ⟨first, a'⟩ := p
    obtain ⟨first', b'⟩ := q
    obtain ⟨rfl, hR⟩ := hpq
    rw [List.lookup_cons] at hx ⊢
    split at hx
    · rename_i heq
      cases hx
      exact ⟨b', by simp [heq], hR⟩
    · rename_i heq
      obtain ⟨b, hb, hab⟩ := ih hx
      exact ⟨b, by simp [heq, hb], hab⟩

namespace Lowering

theorem builtIn?_of_some {name key : String} {kind : TypeKind}
    (h : predeclaredKind? name = some (key, kind)) : builtIn? name = some key ∧
      ∀ g : TypeGraph, ∃ u, g.UnfoldsKind kind u ∧ u.text = key := by
  unfold predeclaredKind? at h
  split at h <;> cases h <;> refine ⟨by decide, fun g => ⟨_, ⟨0, rfl⟩, ?_⟩⟩ <;>
    simp only [Unfolding.text] <;> decide

theorem builtIn?_of_none {name : String} (h : predeclaredKind? name = none) :
    builtIn? name = none := by
  have hall : ∀ n ∈ predeclared, (predeclaredKind? n).isSome := by decide
  have hmem : name ∉ predeclared := fun hmem => by
    have := hall name hmem
    rw [h] at this
    cases this
  simp only [predeclared, List.mem_cons, not_or, List.not_mem_nil] at hmem
  simp [builtIn?, predeclared, hmem]

/-! ### Steps -/

theorem bind_eq_ok {α β : Type} {m : LowerM α} {k : α → LowerM β} {s s₂ : State} {b : β}
    (h : (m >>= k) s = .ok (b, s₂)) :
    ∃ a s₁, m s = .ok (a, s₁) ∧ k a s₁ = .ok (b, s₂) := by
  change (m s >>= fun p => k p.1 p.2) = _ at h
  cases hms : m s with
  | error e =>
    rw [hms] at h
    cases h
  | ok p =>
    rw [hms] at h
    exact ⟨p.1, p.2, rfl, h⟩

theorem map_eq_ok_iff {ε α β : Type} {f : α → β} {x : Except ε α} {b : β} :
    x.map f = .ok b ↔ ∃ a, x = .ok a ∧ f a = b := by
  cases x <;> simp [Except.map]

theorem exists_of_lookup_eq_ok {α : Type} {name : String} {e : LowerError} {k : TypeId → LowerM α}
    {a : α} {s s' : State}
    (h : (do
      match (← get).graph.lookup name with
      | none => Lowering.fail e
      | some id => k id : LowerM α) s = .ok (a, s')) :
    ∃ id, s.graph.lookup name = some id ∧ k id s = .ok (a, s') := by
  obtain ⟨_, _, hget, h⟩ := bind_eq_ok h
  cases hget
  cases hid : s.graph.lookup name with
  | none =>
    rw [hid] at h
    cases h
  | some id =>
    rw [hid] at h
    exact ⟨id, rfl, h⟩

/-- A predeclared type has a node already, or gets one. -/
theorem predeclaredNode_eq_ok {key : String} {kind : TypeKind} {id : TypeId} {s s' : State}
    (h : predeclaredNode key kind s = .ok (id, s')) :
    s.predeclared.lookup key = some id ∧ s' = s ∨ id = (s.graph.add kind).2 ∧
      s' = ⟨(s.graph.add kind).1, (key, id) :: s.predeclared⟩ := by
  rw [predeclaredNode] at h
  split at h
  · cases h
    exact .inl ⟨‹_›, rfl⟩
  · cases h
    exact .inr ⟨rfl, rfl⟩

/-- When declared names have a dot, a name is found as it is only if it is its own full name. -/
theorem lookup_qualify_of_ok {package n : String} {id : TypeId} {s s' : State}
    (hdotted : ∀ p ∈ s.graph.names, hasDot p.1 = true)
    (h : (match s.graph.lookup n with
      | some id => .ok (id, s)
      | none =>
        match s.graph.lookup (qualify package n) with
        | some id => .ok (id, s)
        | none => .error (.unknownType n) : Except LowerError (TypeId × State)) = .ok (id, s')) :
    s.graph.lookup (qualify package n) = some id ∧ s' = s := by
  split at h
  · rename_i hid
    cases h
    rw [qualify_of_hasDot (hdotted _ (mem_of_lookup hid))]
    exact ⟨hid, rfl⟩
  · split at h <;> cases h
    exact ⟨‹_›, rfl⟩

/-- Each declared name leads to a node that is written as the names say, and each predeclared type
that was used to one that is written as itself. -/
structure Holds (names : Names) (s : State) : Prop where
  declared : List.Forall₂ (fun p q => p.1 = q.1 ∧ s.graph.Reads p.2 (some q.2))
    s.graph.names names.declared
  dotted : ∀ p ∈ s.graph.names, hasDot p.1 = true
  predeclared : ∀ p ∈ s.predeclared, s.graph.Reads p.2 (some p.1)

variable {α β : Type} {names final : Names} {s s' : State} {Q R : TypeGraph → α → Prop}

theorem Holds.mono (h : Holds names s) {g' : TypeGraph} (hext : s.graph.Extends g')
    (hnames : g'.names = s.graph.names) : Holds names ⟨g', s.predeclared⟩ where
  declared := by
    show List.Forall₂ _ g'.names _
    rw [hnames]
    exact h.declared.imp fun _ _ hp => ⟨hp.1, hp.2.mono hext⟩
  dotted p hp := h.dotted p (hnames ▸ hp)
  predeclared p hp := (h.predeclared p hp).mono hext

/-- Taken from `s`, the step keeps the names, extends the graph, and its result is as `Q` says, if
it has one. -/
def Makes (names : Names) (s : State) (m : LowerM α) (Q : TypeGraph → α → Prop) : Prop :=
  ∀ a s', m s = .ok (a, s') → Holds names s' ∧ s.graph.Extends s'.graph ∧ Q s'.graph a

namespace Makes

theorem pure {a : α} (hs : Holds names s) (h : Q s.graph a) :
    Makes names s (Pure.pure a) Q := by
  rintro _ _ ⟨⟩
  exact ⟨hs, .refl _, h⟩

theorem fail {e : LowerError} : Makes names s (Lowering.fail e) Q := by
  rintro _ _ ⟨⟩

theorem bind {Q' : TypeGraph → β → Prop} {m : LowerM α} {k : α → LowerM β}
    (hm : Makes names s m Q)
    (hk : ∀ a s', Holds names s' → s.graph.Extends s'.graph → Q s'.graph a →
      Makes names s' (k a) Q') : Makes names s (m >>= k) Q' := by
  intro b s₂ hrun
  obtain ⟨a, s₁, hms, hrun⟩ := bind_eq_ok hrun
  obtain ⟨hs, hext, ha⟩ := hm a s₁ hms
  obtain ⟨hs', hext', hb⟩ := hk a s₁ hs hext ha b s₂ hrun
  exact ⟨hs', hext.trans hext', hb⟩

theorem mono {m : LowerM α} (h : Makes names s m Q) (hQ : ∀ g a, Q g a → R g a) :
    Makes names s m R := by
  intro a s' hrun
  obtain ⟨hs, hext, ha⟩ := h a s' hrun
  exact ⟨hs, hext, hQ _ a ha⟩

theorem and {m : LowerM α} (h : Makes names s m Q)
    (hR : ∀ a s', m s = .ok (a, s') → R s'.graph a) :
    Makes names s m fun g a => Q g a ∧ R g a := by
  intro a s' hrun
  obtain ⟨hs, hext, ha⟩ := h a s' hrun
  exact ⟨hs, hext, ha, hR a s' hrun⟩

theorem liftRead {result : Except ReadError α} (hs : Holds names s) :
    Makes names s (Lowering.liftRead result) fun _ a => result = .ok a := by
  cases result with
  | ok a => exact .pure hs rfl
  | error e => exact .fail

theorem add {kind : TypeKind} {u : Unfolding} (hs : Holds names s)
    (hu : s.graph.UnfoldsKind kind u) :
    Makes names s (Lowering.add kind) fun g id => g.Unfolds id u := by
  rintro _ _ ⟨⟩
  have hext := s.graph.extends_add kind
  exact ⟨hs.mono hext rfl, hext, (hu.mono hext).unfolds (s.graph.node_add kind)⟩

theorem predeclaredNode {key : String} {kind : TypeKind} {u : Unfolding} (hs : Holds names s)
    (hu : s.graph.UnfoldsKind kind u) (htext : u.text = key) :
    Makes names s (Lowering.predeclaredNode key kind) fun g id => g.Reads id (some key) := by
  intro id s' hrun
  obtain ⟨hfound, rfl⟩ | ⟨rfl, rfl⟩ := predeclaredNode_eq_ok hrun
  · exact ⟨hs, .refl _, hs.predeclared _ (mem_of_lookup hfound)⟩
  · have hext := s.graph.extends_add kind
    have hreads : (s.graph.add kind).1.Reads (s.graph.add kind).2 (some key) :=
      ⟨u, (hu.mono hext).unfolds (s.graph.node_add kind), by rw [htext]⟩
    have hs' := hs.mono hext rfl
    refine ⟨⟨hs'.declared, hs'.dotted, ?_⟩, hext, hreads⟩
    exact List.forall_mem_cons.2 ⟨hreads, hs'.predeclared⟩

end Makes

theorem Holds.lookup (h : Holds names s) (hle : names.Within final) {name : String} {id : TypeId}
    (hid : s.graph.lookup name = some id) :
    s.graph.Reads id (final.declared.lookup name) := by
  obtain ⟨text, htext, hreads⟩ := lookup_of_forall₂
    (R := fun id text => s.graph.Reads id (some text)) h.declared hid
  rw [hle.declared _ _ htext]
  exact hreads

theorem makes_name (hs : Holds names s) (hle : names.Within final) (scope : List String)
    (n : String) : Makes names s (name names.package scope n) fun g id =>
      g.Reads id (final.resolve? scope n) := by
  rw [name, Names.resolve?]
  split
  · refine (Makes.add hs ⟨0, rfl⟩).mono fun g id h => ⟨_, h, ?_⟩
    rw [Unfolding.text]
  · cases hkind : predeclaredKind? n with
    | some found =>
      obtain ⟨key, kind⟩ := found
      obtain ⟨hbuiltIn, hunfolds⟩ := builtIn?_of_some hkind
      obtain ⟨u, hu, htext⟩ := hunfolds s.graph
      rw [hbuiltIn]
      exact Makes.predeclaredNode hs hu htext
    | none =>
      rw [builtIn?_of_none hkind]
      intro id s' hrun
      obtain ⟨hid, rfl⟩ := lookup_qualify_of_ok hs.dotted hrun
      rw [Names.find?, hle.package]
      exact ⟨hs, .refl _, hs.lookup hle hid⟩

/-! ### Expressions -/

theorem exists_slice_of_unfolds {package : String} {scope : List String} {element : TypeExpr}
    {id : TypeId} {u : Unfolding} (hrun : type package scope (.slice element) s = .ok (id, s'))
    (hu : s'.graph.Unfolds id u) : ∃ v, u = .slice v := by
  rw [type] at hrun
  obtain ⟨_, s₁, _, hadd⟩ := bind_eq_ok hrun
  cases hadd
  exact TypeGraph.Unfolds.exists_slice hu (s₁.graph.node_add _)

/-- An expression with one part. -/
theorem Makes.part {m : LowerM TypeId} {text : Option String} {kind : TypeId → TypeKind}
    {make : Unfolding → Unfolding}
    (hkind : ∀ id unfold, (kind id).unfoldWith unfold = (do return make (← unfold id)))
    (hm : Makes names s m fun g id => g.Reads id text) :
    Makes names s (m >>= fun id => Lowering.add (kind id)) fun g id =>
      ∃ v, g.Unfolds id (make v) ∧ text = some v.text := by
  refine hm.bind fun id s' hs' _ ⟨v, hv, htext⟩ => ?_
  exact (Makes.add hs' (.of_part (hkind id) hv)).mono fun g id h => ⟨v, h, htext⟩

/-- The signature is made of nodes that are written as the parts of the function are spelled. -/
structure MakesSig (names : Names) (scope : List String) (f : FuncExpr) (g : TypeGraph)
    (sig : FuncSig) : Prop where
  receiver : sig.receiver = none
  typeParams : sig.typeParams = f.typeParams
  variadic : sig.variadic = f.variadic
  inputs : ∃ us, List.Forall₂ g.Unfolds (sig.params.map (·.type)) us ∧
    us.length = f.params.length ∧
    spellParams names scope f.variadic f.params = some (inputTexts f.variadic us)
  outputs : ∃ us, List.Forall₂ g.Unfolds (sig.results.map (·.type)) us ∧
    spellParams names scope false f.results = some (treeTexts us)

theorem MakesSig.spell {outer : List String} {f : FuncExpr} {g : TypeGraph} {sig : FuncSig}
    (h : MakesSig names (outer ++ f.typeParams) f g sig) :
    ∃ us vs, g.UnfoldsSig sig (.func us vs f.variadic f.typeParams) ∧
      f.spell names outer = some (signatureText f.typeParams (inputTexts f.variadic us)
        (treeTexts vs)) := by
  obtain ⟨typeParams, ps, rs, variadic⟩ := f
  obtain ⟨params, results, _, _, _⟩ := sig
  obtain ⟨rfl, rfl, rfl, ⟨us, hus, _, hinputs⟩, ⟨vs, hvs, houtputs⟩⟩ := h
  refine ⟨us, vs, TypeGraph.unfoldsSig_of_forall₂ hus hvs, ?_⟩
  rw [FuncExpr.spell, hinputs, houtputs]
  rfl

theorem methodsText_eq {us : List (String × Unfolding)} (hne : us ≠ []) :
    methodsText (us.map fun p => (p.1, p.2.sigText)) =
      (Unfolding.interface (us.mergeSort fun a b => a.1 ≤ b.1)).text := by
  have hsort := List.map_mergeSort (l := us) (r := fun a b => a.1 ≤ b.1)
    (s := fun a b : String × String => a.1 ≤ b.1) (f := fun p => (p.1, p.2.sigText))
    fun _ _ _ _ => rfl
  rw [methodsText, ← hsort, List.map_map, Unfolding.text, methodTexts_eq]
  · rfl
  · exact fun h => hne (List.map_eq_nil_iff.1 h)

theorem spellParams_cons {scope : List String} {variadic : Bool} {n : Option String} {t : TypeExpr}
    {rest : List ParamExpr} {u : Unfolding} {us : List Unfolding}
    (hend : variadic = true → rest = [] → ∃ element, t = .slice element)
    (htext : t.spell final scope = some u.text)
    (hslice : ∀ element, t = .slice element → ∃ v, u = .slice v)
    (hlength : us.length = rest.length)
    (hrest : spellParams final scope variadic rest = some (inputTexts variadic us)) :
    spellParams final scope variadic (⟨n, t⟩ :: rest) = some (inputTexts variadic (u :: us)) := by
  cases rest with
  | cons p rest =>
    cases us with
    | nil => cases hlength
    | cons v us =>
      rw [inputTexts_cons, spellParams, htext, hrest]
      · rfl
      · simp
  | nil =>
    obtain rfl := List.eq_nil_of_length_eq_zero hlength
    rw [inputTexts_singleton]
    by_cases hform : ∃ element, t = .slice element
    · obtain ⟨element, rfl⟩ := hform
      obtain ⟨v, rfl⟩ := hslice element rfl
      rw [TypeExpr.spell] at htext
      obtain ⟨text, htext, heq⟩ := Option.bind_eq_some_iff.1 htext
      have heq : "[]" ++ text = "[]" ++ v.text := by
        rw [← Unfolding.text]
        exact Option.some.inj heq
      rw [spellParams, htext, (String.append_right_inj _).1 heq]
      cases variadic <;> simp [Unfolding.elementText, Unfolding.text]
    · have hfixed : variadic = false := by
        cases variadic with
        | false => rfl
        | true => exact absurd (hend rfl rfl) hform
      rw [spellParams, htext, hfixed, spellParams]
      · rfl
      · exact fun element _ ht => hform ⟨element, ht⟩

mutual

theorem makes_type (hle : names.Within final) (scope : List String) :
    ∀ e : TypeExpr, e.WellFormed → ∀ s, Holds names s →
      Makes names s (type names.package scope e) fun g id => g.Reads id (e.spell final scope)
  | .name n [], _, s, hs => by
    rw [type, TypeExpr.spell]
    exact makes_name hs hle scope n
  | .name n (arg :: args), _, s, hs => by
    rw [type]
    exact .fail
  | .slice element, .slice h, s, hs => by
    rw [type, TypeExpr.spell]
    refine (Makes.part (fun _ _ => rfl) (makes_type hle scope element h s hs)).mono ?_
    rintro g id ⟨v, hv, htext⟩
    exact ⟨_, hv, by rw [htext, Unfolding.text]; rfl⟩
  | .array length element, .array _ h, s, hs => by
    rw [type, TypeExpr.spell]
    refine (Makes.part (fun _ _ => rfl) (makes_type hle scope element h s hs)).mono ?_
    rintro g id ⟨v, hv, htext⟩
    exact ⟨_, hv, by rw [htext, Unfolding.text]; rfl⟩
  | .pointer element, .pointer h, s, hs => by
    rw [type, TypeExpr.spell]
    refine (Makes.part (fun _ _ => rfl) (makes_type hle scope element h s hs)).mono ?_
    rintro g id ⟨v, hv, htext⟩
    exact ⟨_, hv, by rw [htext, Unfolding.text]; rfl⟩
  | .chan direction element, .chan _ h, s, hs => by
    rw [type, TypeExpr.spell]
    refine (Makes.part (fun _ _ => rfl) (makes_type hle scope element h s hs)).mono ?_
    rintro g id ⟨v, hv, htext⟩
    exact ⟨_, hv, by rw [htext, Unfolding.text]; rfl⟩
  | .map key value, .map hkey hvalue, s, hs => by
    rw [type, TypeExpr.spell]
    refine (makes_type hle scope key hkey s hs).bind fun k s₁ hs₁ _ ⟨v, hv, hvtext⟩ => ?_
    refine (makes_type hle scope value hvalue s₁ hs₁).bind fun w s₂ hs₂ hext ⟨u, hu, hutext⟩ => ?_
    refine (Makes.add hs₂ (.map (hext.unfolds hv) hu)).mono fun g id h => ⟨_, h, ?_⟩
    rw [hvtext, hutext, Unfolding.text]
    rfl
  | .func signature, .func h, s, hs => by
    rw [type, TypeExpr.spell]
    refine (makes_func hle scope signature h s hs).bind fun sig s' hs' _ hsig => ?_
    obtain ⟨us, vs, hunfolds, htext⟩ := hsig.spell
    have hunfolds : s'.graph.UnfoldsKind (.func sig) _ := hunfolds
    refine (Makes.add hs' hunfolds).mono fun g id h => ⟨_, h, ?_⟩
    rw [htext, Unfolding.text]
    rfl
  | .struct fs, .struct _ _ h, s, hs => by
    rw [type, TypeExpr.spell]
    refine (makes_fields hle scope fs h s hs).bind fun found s' hs' _ ⟨us, hus, htext⟩ => ?_
    refine (Makes.add hs' (.struct hus)).mono fun g id h => ⟨_, h, ?_⟩
    rw [htext, Unfolding.text]
    rfl
  | .interface ms, .interface _ _ _ h, s, hs => by
    rw [type, TypeExpr.spell]
    refine (makes_methods hle scope ms h s hs).bind fun found s' hs' _ ⟨us, hus, htext⟩ => ?_
    rw [htext]
    cases us with
    | nil =>
      cases hus
      refine (Makes.add hs' ⟨0, rfl⟩).mono fun g id h => ⟨_, h, ?_⟩
      rw [Unfolding.text]
      rfl
    | cons u us =>
      have hne : found ≠ [] := fun h => by cases h ▸ hus
      refine (Makes.add hs' (.interface hne hus)).mono fun g id h => ⟨_, h, ?_⟩
      rw [← methodsText_eq (List.cons_ne_nil u us)]
      rfl

theorem makes_fields (hle : names.Within final) (scope : List String) :
    ∀ fs : List FieldExpr, (∀ f ∈ fs, f.type.WellFormed) → ∀ s, Holds names s →
      Makes names s (fields names.package scope fs) fun g found =>
        ∃ us, List.Forall₂ (fun f p => p.1 = f.name ∧ g.Unfolds f.type p.2) found us ∧
          spellFields final scope fs = some (fieldTexts us)
  | [], _, s, hs => by
    rw [fields]
    exact .pure hs ⟨[], .nil, by rw [spellFields, fieldTexts]⟩
  | ⟨n, t⟩ :: rest, h, s, hs => by
    obtain ⟨ht, hrest⟩ := List.forall_mem_cons.1 h
    rw [fields, spellFields]
    refine (makes_type hle scope t ht s hs).bind fun id s₁ hs₁ _ ⟨u, hu, htext⟩ => ?_
    refine (makes_fields hle scope rest hrest s₁ hs₁).bind fun found s₂ hs₂ hext hfound => ?_
    obtain ⟨us, hus, htexts⟩ := hfound
    refine .pure hs₂ ⟨(n, u) :: us, .cons ⟨rfl, hext.unfolds hu⟩ hus, ?_⟩
    rw [htext, htexts, fieldTexts]
    rfl

theorem makes_methods (hle : names.Within final) (scope : List String) :
    ∀ ms : List MethodExpr, (∀ m ∈ ms, m.func.WellFormed) → ∀ s, Holds names s →
      Makes names s (methods names.package scope ms) fun g found =>
        ∃ us : List (String × Unfolding),
          List.Forall₂ (fun m p => p.1 = m.name ∧ g.UnfoldsSig m.sig p.2) found us ∧
          spellMethods final scope ms = some (us.map fun p => (p.1, p.2.sigText))
  | [], _, s, hs => by
    rw [methods]
    exact .pure hs ⟨[], .nil, by rw [spellMethods]; rfl⟩
  | ⟨n, f⟩ :: rest, h, s, hs => by
    obtain ⟨hf, hrest⟩ := List.forall_mem_cons.1 h
    rw [methods, spellMethods]
    refine (makes_func hle scope f hf s hs).bind fun sig s₁ hs₁ _ hsig => ?_
    refine (makes_methods hle scope rest hrest s₁ hs₁).bind fun found s₂ hs₂ hext hfound => ?_
    obtain ⟨us, vs, hunfolds, htext⟩ := hsig.spell
    obtain ⟨ms', hms', htexts⟩ := hfound
    refine .pure hs₂ ⟨(n, .func us vs f.variadic f.typeParams) :: ms',
      .cons ⟨rfl, hunfolds.mono hext⟩ hms', ?_⟩
    rw [htext, htexts]
    rfl

theorem makes_func (hle : names.Within final) (outer : List String) :
    ∀ f : FuncExpr, f.WellFormed → ∀ s, Holds names s →
      Makes names s (func names.package outer f) (MakesSig final (outer ++ f.typeParams) f)
  | ⟨typeParams, ps, rs, variadic⟩, .mk _ hps _ hrs _ hvariadic, s, hs => by
    rw [func]
    have hend : variadic = true → ∀ p, ps.getLast? = some p →
        ∃ element, p.type = .slice element := by
      intro h p hp
      obtain ⟨_, element, hlast⟩ := hvariadic h
      cases hlast.symm.trans hp
      exact ⟨element, rfl⟩
    refine (makes_params hle _ variadic ps hps hend s hs).bind
      fun inputs s₁ hs₁ _ ⟨us, hus, hlength, htexts⟩ => ?_
    refine (makes_params hle _ false rs hrs nofun s₁ hs₁).bind
      fun outputs s₂ hs₂ hext ⟨vs, hvs, _, htexts'⟩ => .pure hs₂ ⟨rfl, rfl, rfl, ?_, ?_⟩
    · exact ⟨us, hus.imp fun _ _ => hext.unfolds, hlength, htexts⟩
    · exact ⟨vs, hvs, inputTexts_false vs ▸ htexts'⟩

theorem makes_params (hle : names.Within final) (scope : List String) (variadic : Bool) :
    ∀ ps : List ParamExpr, (∀ p ∈ ps, p.WellFormed) →
      (variadic = true → ∀ p, ps.getLast? = some p → ∃ element, p.type = .slice element) →
      ∀ s, Holds names s → Makes names s (params names.package scope ps) fun g found =>
        ∃ us, List.Forall₂ g.Unfolds (found.map (·.type)) us ∧ us.length = ps.length ∧
          spellParams final scope variadic ps = some (inputTexts variadic us)
  | [], _, _, s, hs => by
    rw [params]
    exact .pure hs ⟨[], .nil, rfl, by rw [spellParams, inputTexts]⟩
  | ⟨n, t⟩ :: rest, h, hend, s, hs => by
    obtain ⟨⟨_, ht⟩, hrest⟩ := List.forall_mem_cons.1 h
    rw [params]
    have ht := (makes_type hle scope t ht s hs).and
      (R := fun g id => ∀ u element, g.Unfolds id u → t = .slice element → ∃ v, u = .slice v)
      (by rintro id s' hrun u element hu rfl; exact exists_slice_of_unfolds hrun hu)
    refine ht.bind fun id s₁ hs₁ _ ⟨⟨u, hu, htext⟩, hslice⟩ => ?_
    refine (makes_params hle scope variadic rest hrest (fun h p hp => hend h p ?_) s₁ hs₁).bind
      fun found s₂ hs₂ hext ⟨us, hus, hlength, htexts⟩ => ?_
    · rw [List.getLast?_cons, hp]
      rfl
    refine .pure hs₂ ⟨u :: us, .cons (hext.unfolds hu) hus, congrArg (· + 1) hlength, ?_⟩
    refine spellParams_cons (fun h hnil => ?_) htext (fun element => hslice u element hu) hlength
      htexts
    exact hend h ⟨n, t⟩ (by rw [hnil]; rfl)

end

end Lowering
end ScriptBind
