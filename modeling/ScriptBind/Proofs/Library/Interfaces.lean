import ScriptBind.Proofs.Library.Wrappers

/-!
# ScriptBind.Proofs.Library.Interfaces

The object that native code gets for a context of a script.

* `Context.Holds` - what is found where a method is looked for.
* `Context.Backs`, `Context.Lacks` - the function for a method, or what is wrong.
* `Implements` - what native code and scripts can do with the object.
* `Synthesizes` - when there is an object, and which method is to blame when there is none.
* `synthesize_synthesizes` - this is so for any interface and any context.
-/

namespace ScriptBind

variable {c : Context} {m : MethodShape} {interface : String} {methods done : List MethodShape}
  {bound : List (String × NativeFunc)}

/-! ### The function for a method -/

namespace Context

/-- What is found for a method: the slot of its name counts, whatever it holds, and the slot of its
snake case name only when there is no such slot. -/
def Holds (c : Context) (m : MethodShape) (x : Value) : Prop :=
  c.get? m.name = some x ∨ c.get? m.name = none ∧ c.get? (Text.snakeCase m.name) = some x

/-- The function that implements a method. -/
structure Backs (c : Context) (m : MethodShape) (f : ScriptFn) : Prop where
  held : c.Holds m (.function f)
  arity : f.arity = m.func.params.length

/-- What is wrong with a method that has no function. -/
inductive Lacks (c : Context) (m : MethodShape) : String → Prop
  | absent : c.get? m.name = none → c.get? (Text.snakeCase m.name) = none →
    Lacks c m ("no slot named " ++ m.name ++ " or " ++ Text.snakeCase m.name)
  | kind {x : Value} : c.Holds m x → (∀ f, x ≠ .function f) →
    Lacks c m ("slot holds " ++ x.describe ++ ", not a function")
  | arity {f : ScriptFn} : c.Holds m (.function f) → f.arity ≠ m.func.params.length →
    Lacks c m ("slot function takes " ++ toString f.arity ++ " arguments")

theorem Holds.unique {x y : Value} (hx : c.Holds m x) (hy : c.Holds m y) : x = y := by
  rcases hx with hx | ⟨hx, hx'⟩ <;> rcases hy with hy | ⟨hy, hy'⟩
  · exact Option.some.inj (hx.symm.trans hy)
  · rw [hx] at hy
    cases hy
  · rw [hx] at hy
    cases hy
  · exact Option.some.inj (hx'.symm.trans hy')

theorem Lacks.not_backs {problem : String} (h : c.Lacks m problem) (f : ScriptFn) :
    ¬ c.Backs m f := by
  intro hf
  cases h with
  | absent hname hsnake =>
    rcases hf.held with hheld | ⟨_, hheld⟩
    · rw [hname] at hheld
      cases hheld
    · rw [hsnake] at hheld
      cases hheld
  | kind hx hkind => exact hkind f (hx.unique hf.held)
  | arity hg harity =>
    cases hg.unique hf.held
    exact harity hf.arity

end Context

theorem methodFunction_of_function {f : ScriptFn} (h : c.Holds m (.function f)) :
    methodFunction c m =
      if f.arity = m.func.arity then .ok f
      else .error ("slot function takes " ++ toString f.arity ++ " arguments") := by
  rcases h with hname | ⟨hname, hsnake⟩
  · rw [methodFunction, hname]
  · rw [methodFunction, hname, hsnake]

theorem methodFunction_of_other {x : Value} (h : c.Holds m x) (hx : ∀ f, x ≠ .function f) :
    methodFunction c m = .error ("slot holds " ++ x.describe ++ ", not a function") := by
  rcases h with hname | ⟨hname, hsnake⟩
  · simp only [methodFunction, hname]
  · simp only [methodFunction, hname, hsnake]

theorem methodFunction_of_absent (hname : c.get? m.name = none)
    (hsnake : c.get? (Text.snakeCase m.name) = none) :
    methodFunction c m =
      .error ("no slot named " ++ m.name ++ " or " ++ Text.snakeCase m.name) := by
  rw [methodFunction, hname, hsnake]

/-- A method has a function, or something is wrong with it. -/
theorem methodFunction_cases (c : Context) (m : MethodShape) :
    (∃ f, methodFunction c m = .ok f ∧ c.Backs m f) ∨
      ∃ problem, methodFunction c m = .error problem ∧ c.Lacks m problem := by
  by_cases hheld : ∃ x, c.Holds m x
  swap
  · have hheld := not_exists.1 hheld
    have hname : c.get? m.name = none :=
      Option.eq_none_iff_forall_ne_some.2 fun x hx => hheld x (.inl hx)
    have hsnake : c.get? (Text.snakeCase m.name) = none :=
      Option.eq_none_iff_forall_ne_some.2 fun x hx => hheld x (.inr ⟨hname, hx⟩)
    exact .inr ⟨_, methodFunction_of_absent hname hsnake, .absent hname hsnake⟩
  obtain ⟨x, hx⟩ := hheld
  by_cases hfunction : ∃ f, x = .function f
  swap
  · have hkind := not_exists.1 hfunction
    exact .inr ⟨_, methodFunction_of_other hx hkind, .kind hx hkind⟩
  obtain ⟨f, rfl⟩ := hfunction
  rw [methodFunction_of_function hx]
  by_cases harity : f.arity = m.func.arity
  · exact .inl ⟨f, if_pos harity, hx, harity⟩
  · exact .inr ⟨_, if_neg harity, .arity hx harity⟩

/-- A slot of the name of the method is not passed over. -/
example :
    methodFunction ⟨0, [⟨"Area", .int 1⟩, ⟨"area", .function ⟨1, "area", 0⟩⟩]⟩
      ⟨"Area", [], [], false⟩ = .error "slot holds int, not a function" := by
  rfl

/-! ### The table of methods -/

theorem lookup_cons_eq (n k : String) (g : NativeFunc) (rest : List (String × NativeFunc)) :
    ((k, g) :: rest).lookup n = if n = k then some g else rest.lookup n := by
  rw [List.lookup_cons]
  by_cases h : n = k
  · rw [if_pos h, beq_iff_eq.2 h]
  · rw [if_neg h, beq_eq_false_iff_ne.2 h]

theorem lookup_insertMethod (name n : String) (f : NativeFunc)
    (bound : List (String × NativeFunc)) :
    (insertMethod name f bound).lookup n = if n = name then some f else bound.lookup n := by
  induction bound with
  | nil => rw [insertMethod, lookup_cons_eq]
  | cons entry rest ih =>
    obtain ⟨k, g⟩ := entry
    rw [insertMethod]
    by_cases hlt : name < k
    · rw [if_pos hlt, lookup_cons_eq]
    rw [if_neg hlt]
    by_cases hk : name = k
    · subst hk
      rw [if_pos rfl, lookup_cons_eq, lookup_cons_eq]
      split <;> rfl
    rw [if_neg hk, lookup_cons_eq, lookup_cons_eq, ih]
    by_cases h : n = k
    · have hne : n ≠ name := fun heq => hk (heq.symm.trans h)
      rw [if_pos h, if_pos h, if_neg hne]
    · rw [if_neg h, if_neg h]

theorem names_insertMethod {name : String} (f : NativeFunc) (h : name ∉ bound.map (·.1)) :
    ((insertMethod name f bound).map (·.1)).Perm (name :: bound.map (·.1)) := by
  induction bound with
  | nil => exact .refl _
  | cons entry rest ih =>
    obtain ⟨k, g⟩ := entry
    rw [List.map_cons, List.mem_cons, not_or] at h
    rw [insertMethod, if_neg h.1]
    by_cases hlt : name < k
    · rw [if_pos hlt]
      exact .refl _
    · rw [if_neg hlt]
      exact ((ih h.2).cons k).trans (.swap name k _)

/-- The methods have their functions, and nothing else is in the table. -/
structure Bound (c : Context) (methods : List MethodShape) (bound : List (String × NativeFunc)) :
    Prop where
  names : (bound.map (·.1)).Perm (methods.map (·.name))
  wrapped : ∀ m ∈ methods, ∃ f id, c.Backs m f ∧
    bound.lookup m.name = some ⟨id, f.name, .wrapper m.func f⟩

theorem bound_nil (c : Context) : Bound c [] [] := ⟨.refl _, List.forall_mem_nil _⟩

theorem Bound.insert (h : Bound c done bound) (hm : m.name ∉ done.map (·.name)) {f : ScriptFn}
    (hf : c.Backs m f) (id : Nat) :
    Bound c (done ++ [m]) (insertMethod m.name ⟨id, f.name, .wrapper m.func f⟩ bound) where
  names := by
    rw [List.map_append]
    exact (names_insertMethod _ fun hmem => hm (h.names.mem_iff.1 hmem)).trans
      ((h.names.cons m.name).trans (List.perm_append_singleton m.name _).symm)
  wrapped m' hm' := by
    rw [lookup_insertMethod]
    rcases List.mem_append.1 hm' with hdone | hlast
    · obtain ⟨g, id', hg, hlookup⟩ := h.wrapped m' hdone
      have hne : m'.name ≠ m.name := fun heq => hm (heq ▸ List.mem_map_of_mem hdone)
      exact ⟨g, id', hg, by rw [if_neg hne, hlookup]⟩
    · obtain rfl := List.mem_singleton.1 hlast
      exact ⟨f, id, hf, if_pos rfl⟩

/-- All methods get their functions, or the first one that has none is to blame. -/
theorem bindMethods_cases (interface : String) (h : Bound c done bound)
    (hnames : ((done ++ methods).map (·.name)).Nodup) (b : Boundary) :
    (∃ bound' b', bindMethods interface c bound methods b = (.ok bound', b') ∧
      Bound c (done ++ methods) bound') ∨
    ∃ before m after problem b', methods = before ++ m :: after ∧
      (∀ m' ∈ before, ∃ f, c.Backs m' f) ∧ c.Lacks m problem ∧
      bindMethods interface c bound methods b =
        (.error (.failed (.synthesis interface m.name m.func.params.length problem)), b') := by
  induction methods generalizing done bound b with
  | nil => exact .inl ⟨bound, b, rfl, by rwa [List.append_nil]⟩
  | cons m rest ih =>
    rcases methodFunction_cases c m with ⟨f, hfound, hf⟩ | ⟨problem, hfound, hlacks⟩
    swap
    · refine .inr ⟨[], m, rest, problem, b, rfl, List.forall_mem_nil _, hlacks, ?_⟩
      rw [bindMethods, hfound]
      rfl
    have hsplit : done ++ m :: rest = (done ++ [m]) ++ rest := by simp
    have hnew : m.name ∉ done.map (·.name) := by
      rw [List.map_append, List.nodup_append] at hnames
      exact fun hmem => hnames.2.2 _ hmem _ (List.mem_cons_self ..) rfl
    have hrun : bindMethods interface c bound (m :: rest) b =
        bindMethods interface c (insertMethod m.name ⟨b.nextId, f.name, .wrapper m.func f⟩ bound)
          rest { b with nextId := b.nextId + 1 } := by
      rw [bindMethods, hfound]
      rfl
    rw [hsplit] at hnames ⊢
    rw [hrun]
    rcases ih (h.insert hnew hf b.nextId) hnames { b with nextId := b.nextId + 1 } with
      hbound | ⟨before, m', after, problem, b', rfl, hbefore, hlacks, hfail⟩
    · exact .inl hbound
    · exact .inr ⟨m :: before, m', after, problem, b', rfl,
        List.forall_mem_cons.2 ⟨⟨f, hf⟩, hbefore⟩, hlacks, hfail⟩

/-! ### The object -/

/-- What native code and scripts can do with an object made from a context. -/
structure Implements (object : Object) (interface : String) (methods : List MethodShape)
    (c : Context) : Prop where
  typeName : object.typeName = interface
  names : object.methodNames.Perm (methods.map (·.name))
  /-- A call goes to the function of the context, with the signature of the method. -/
  calls : ∀ m ∈ methods, ∃ f, c.Backs m f ∧
    ∀ {σ : Type} (lib : Library) (host : Host σ) (bound : Nat) (args : List NativeValue)
      (s : Boundary × σ) (log : List (ScriptFn × List Value)), ∃ calls,
      lib.callObject host.recording (bound + 1) object m.name args (s.1, (s.2, log)) =
        withRecord (log ++ calls) (lib.callObject host (bound + 1) object m.name args s) ∧
      lib.Relays host m.func f args s calls (lib.callObject host (bound + 1) object m.name args s)
  /-- Whatever the host could run, nothing is run. -/
  others : ∀ name ∉ methods.map (·.name), ∀ {σ : Type} (lib : Library) (host : Host σ)
    (bound : Nat) (args : List NativeValue) (s : Boundary × σ),
    lib.callObject host bound object name args s =
      (.error (.failed (.failure (interface ++ " has no method " ++ name))), s)
  /-- The script gets its context back, with all that is in it. -/
  back : ∀ (lib : Library) (id : ShapeId) (shape : Shape), lib.shapes.get? id = some shape →
    (∃ ms, shape.kind = .interface ms) ∨ shape.kind = .scalar .any →
    ∀ b, lib.toScript id (.interface (some object)) b = (.ok (.context c), b)

theorem Bound.implements (h : Bound c methods bound) (id : Nat) (interface : String) :
    Implements (.synthesized id interface c bound) interface methods c where
  typeName := rfl
  names := h.names
  calls m hm := by
    obtain ⟨f, fid, hf, hlookup⟩ := h.wrapped m hm
    refine ⟨f, hf, fun lib host depth args s log => ?_⟩
    have hcall : ∀ {τ : Type} (host : Host τ),
        lib.callObject host (depth + 1) (.synthesized id interface c bound) m.name args =
          lib.callWrapped host m.func f args := by
      intro τ host
      simp only [Library.callObject, hlookup, Library.callFunc]
    rw [hcall, hcall]
    exact lib.callWrapped_relays host m.func f args s log
  others name hname {σ} lib host depth args s := by
    have hlookup : bound.lookup name = none := by
      rw [List.lookup_eq_none_iff]
      rintro ⟨k, g⟩ hmem
      have hne : name ≠ k := fun heq =>
        hname (h.names.mem_iff.1 (heq ▸ List.mem_map_of_mem (f := Prod.fst) hmem))
      simpa using hne
    simp only [Library.callObject, hlookup]
    rfl
  back lib sid shape hget hkind b := by
    refine CrossM.mapError_of_ok ?_
    rcases hkind with ⟨ms, hkind⟩ | hkind <;>
      simp only [convertTo, hget, Shape.toScript, hkind] <;>
      rfl

/-- What becomes of a context at an interface. -/
structure Synthesizes (interface : String) (methods : List MethodShape) (c : Context)
    (b : Boundary) (outcome : Except Stop Object × Boundary) : Prop where
  succeeds : (∃ object, outcome.1 = .ok object) ↔ ∀ m ∈ methods, ∃ f, c.Backs m f
  /-- In the order of the interface, the first method without a function is to blame. -/
  refused : ∀ stop, outcome.1 = .error stop → ∃ before m after problem,
    methods = before ++ m :: after ∧ (∀ m' ∈ before, ∃ f, c.Backs m' f) ∧
    (∀ f, ¬ c.Backs m f) ∧ c.Lacks m problem ∧
    stop = .failed (.synthesis interface m.name m.func.params.length problem)
  implements : ∀ object, outcome.1 = .ok object → Implements object interface methods c
  /-- An error is returned and not reported. -/
  quiet : outcome.2.reports = b.reports

theorem synthesize_synthesizes (interface : String) (methods : List MethodShape)
    (hnames : (methods.map (·.name)).Nodup) (c : Context) (b : Boundary) :
    Synthesizes interface methods c b (synthesize interface methods c b) := by
  have hquiet := CrossM.quiet_hereditary.synthesize interface methods c b
  rcases bindMethods_cases interface (bound_nil c) hnames b with
    ⟨bound, b', hrun, hbound⟩ | ⟨before, m, after, problem, b', rfl, hbefore, hlacks, hfail⟩
  · have hobject : synthesize interface methods c b =
        (.ok (.synthesized b'.nextId interface c bound), { b' with nextId := b'.nextId + 1 }) := by
      rw [synthesize, CrossM.bind_of_ok hrun]
      rfl
    rw [hobject] at hquiet ⊢
    refine ⟨iff_of_true ⟨_, rfl⟩ fun m hm => ?_, fun stop h => ?_, fun object h => ?_, hquiet⟩
    · obtain ⟨f, _, hf, _⟩ := hbound.wrapped m hm
      exact ⟨f, hf⟩
    · cases h
    · cases h
      exact hbound.implements b'.nextId interface
  · have herror : synthesize interface (before ++ m :: after) c b =
        (.error (.failed (.synthesis interface m.name m.func.params.length problem)), b') := by
      rw [synthesize, CrossM.bind_of_error hfail]
    rw [herror] at hquiet ⊢
    refine ⟨iff_of_false ?_ fun hall => ?_, fun stop h => ?_, fun object h => ?_, hquiet⟩
    · rintro ⟨object, h⟩
      cases h
    · obtain ⟨f, hf⟩ := hall m (List.mem_append_right before (List.mem_cons_self ..))
      exact hlacks.not_backs f hf
    · cases h
      exact ⟨before, m, after, problem, rfl, hbefore, hlacks.not_backs, hlacks, rfl⟩
    · cases h

/-- Two of the methods share a slot. -/
def figureMethods : List MethodShape :=
  [⟨"Area", [], [0], false⟩, ⟨"area", [], [0], false⟩, ⟨"ScaleBy", [0], [], false⟩]

def figure : Context :=
  ⟨5, [⟨"area", .function ⟨1, "area", 0⟩⟩, ⟨"scale_by", .function ⟨2, "scale_by", 1⟩⟩]⟩

theorem synthesizes_figure :
    (figureMethods.map (·.name)).Nodup ∧
      Synthesizes "Figure" figureMethods figure .empty
        (synthesize "Figure" figureMethods figure .empty) ∧
      ∃ object, (synthesize "Figure" figureMethods figure .empty).1 = .ok object ∧
        Implements object "Figure" figureMethods figure := by
  have hnames : (figureMethods.map (·.name)).Nodup := by decide
  have hfigure := synthesize_synthesizes "Figure" figureMethods hnames figure .empty
  have hbacked : ∀ m ∈ figureMethods, ∃ f, figure.Backs m f :=
    List.forall_mem_cons.2 ⟨⟨⟨1, "area", 0⟩, .inr ⟨rfl, rfl⟩, rfl⟩,
      List.forall_mem_cons.2 ⟨⟨⟨1, "area", 0⟩, .inl rfl, rfl⟩,
        List.forall_mem_cons.2 ⟨⟨⟨2, "scale_by", 1⟩, .inr ⟨rfl, rfl⟩, rfl⟩,
          List.forall_mem_nil _⟩⟩⟩
  obtain ⟨object, hobject⟩ := hfigure.succeeds.2 hbacked
  exact ⟨hnames, hfigure, object, hobject, hfigure.implements object hobject⟩

end ScriptBind
