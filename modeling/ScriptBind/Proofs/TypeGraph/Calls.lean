import ScriptBind.Proofs.TypeGraph.Later

/-!
# ScriptBind.Proofs.TypeGraph.Calls

The operations on a type graph, one step after the other. What an operation has done when it fails
stays done.

* `GraphM` - a computation that changes a graph and can fail.
* `GraphM.declare`, `define`, `named`, `addAlias` - the checks and the changes, in their order.
* `TypeGraph.Call` - a call of an operation, which is the operation on the graph
  (`TypeGraph.Call.run_eq_outcome`). `TypeGraph.after` is the graph after some calls.
* `TypeGraph.Call.Halves` - the call that has declared its name when it fails.
* `TypeGraph.after_atomic_iff` - any other call that fails leaves the graph as it was.
* `TypeGraph.named_not_atomic` - that one does not.
-/

namespace ScriptBind

abbrev GraphM (α : Type) := ExceptT GraphError (StateM TypeGraph) α

namespace GraphM

variable {α β : Type} {g g' : TypeGraph}

/-! ### Steps -/

/-- Fail when there is no such node. -/
def expect (id : TypeId) : GraphM Unit := fun g =>
  match g.get id with
  | .error e => (.error e, g)
  | .ok _ => (.ok (), g)

/-- Fail when the name is taken. -/
def expectNew (name : String) : GraphM Unit := fun g =>
  match g.lookup name with
  | some _ => (.error (.duplicateName name), g)
  | none => (.ok (), g)

def add (kind : TypeKind) : GraphM TypeId := fun g => (.ok (g.add kind).2, (g.add kind).1)

def enter (name : String) (id : TypeId) : GraphM Unit := fun g =>
  (.ok (), { g with names := g.names ++ [(name, id)] })

/-- Give a body to a node, when it is a name without one. -/
def complete (id underlying : TypeId) : GraphM Unit := fun g =>
  match g.nodes[id]? with
  | some (.named name none typeParams) =>
    (.ok (), { g with
      nodes := g.nodes.setIfInBounds id (.named name (some underlying) typeParams) })
  | some (.named name (some _) _) => (.error (.alreadyDefined name), g)
  | some _ => (.error (.notNamed id), g)
  | none => (.error (.unknownType id), g)

/-! ### Operations -/

def declare (name : String) (typeParams : List String) : GraphM TypeId := do
  expectNew name
  let id ← add (.named name none typeParams)
  enter name id
  return id

def define (id underlying : TypeId) : GraphM Unit := do
  expect underlying
  complete id underlying

def named (name : String) (underlying : TypeId) : GraphM TypeId := do
  let id ← declare name []
  define id underlying
  return id

def addAlias (name : String) (target : TypeId) : GraphM TypeId := do
  expect target
  expectNew name
  let id ← add (.aliasOf name target)
  enter name id
  return id

theorem bind_apply (m : GraphM α) (k : α → GraphM β) (g : TypeGraph) :
    (m >>= k) g =
      match m g with
      | (.ok a, g) => k a g
      | (.error e, g) => (.error e, g) := by
  simp only [bind, ExceptT.bind, ExceptT.mk, StateT.bind, ExceptT.bindCont]
  rcases m g with ⟨_ | _, _⟩ <;> rfl

theorem bind_of_ok {m : GraphM α} {k : α → GraphM β} {a : α} (h : m g = (.ok a, g')) :
    (m >>= k) g = k a g' := by
  rw [bind_apply, h]

theorem bind_of_error {m : GraphM α} {k : α → GraphM β} {e : GraphError}
    (h : m g = (.error e, g')) : (m >>= k) g = (.error e, g') := by
  rw [bind_apply, h]

/-- The outcome of an operation that changes the graph only when it succeeds. -/
def committed (g : TypeGraph) : Except GraphError (TypeGraph × α) → Except GraphError α × TypeGraph
  | .ok (g', a) => (.ok a, g')
  | .error e => (.error e, g)

theorem expect_of_lt {id : TypeId} (h : id < g.size) : expect id g = (.ok (), g) := by
  rw [expect, TypeGraph.get, Array.getElem?_eq_getElem h]

theorem expect_of_le {id : TypeId} (h : g.size ≤ id) :
    expect id g = (.error (.unknownType id), g) := by
  rw [expect, TypeGraph.get, Array.getElem?_eq_none h]

theorem expectNew_of_none {name : String} (h : g.lookup name = none) :
    expectNew name g = (.ok (), g) := by
  rw [expectNew, h]

theorem expectNew_of_some {name : String} {id : TypeId} (h : g.lookup name = some id) :
    expectNew name g = (.error (.duplicateName name), g) := by
  rw [expectNew, h]

theorem declare_apply (name : String) (typeParams : List String) (g : TypeGraph) :
    declare name typeParams g = committed g (g.declare name typeParams) := by
  cases h : g.lookup name with
  | some id =>
    rw [declare, bind_of_error (expectNew_of_some h), TypeGraph.declare, h]
    rfl
  | none =>
    rw [declare, bind_of_ok (expectNew_of_none h), TypeGraph.declare, h]
    rfl

theorem define_apply (id underlying : TypeId) (g : TypeGraph) :
    define id underlying g =
      committed g ((g.define id underlying).map fun g' => (g', ())) := by
  cases h : g.get underlying with
  | error e =>
    have hexpect : expect underlying g = (.error e, g) := by rw [expect, h]
    rw [define, bind_of_error hexpect, TypeGraph.define, h]
    rfl
  | ok kind =>
    have hexpect : expect underlying g = (.ok (), g) := by rw [expect, h]
    rw [define, bind_of_ok hexpect, complete, TypeGraph.define, h]
    cases hnode : g.nodes[id]? with
    | none => rfl
    | some found =>
      cases found with
      | named name body typeParams => cases body <;> rfl
      | _ => rfl

theorem named_apply (name : String) (underlying : TypeId) (g : TypeGraph) :
    named name underlying g = ((g.named name underlying).2, (g.named name underlying).1) := by
  rw [TypeGraph.named]
  cases hdeclare : g.declare name [] with
  | error e =>
    have hrun : declare name [] g = (.error e, g) := by rw [declare_apply, hdeclare]; rfl
    rw [named, bind_of_error hrun]
  | ok declared =>
    obtain ⟨g', id⟩ := declared
    have hrun : declare name [] g = (.ok id, g') := by rw [declare_apply, hdeclare]; rfl
    rw [named, bind_of_ok hrun]
    cases hdefine : g'.define id underlying with
    | error e =>
      have hrun' : define id underlying g' = (.error e, g') := by rw [define_apply, hdefine]; rfl
      simp only [bind_of_error hrun', hdefine]
    | ok g'' =>
      have hrun' : define id underlying g' = (.ok (), g'') := by rw [define_apply, hdefine]; rfl
      simp only [bind_of_ok hrun', hdefine]
      rfl

theorem addAlias_apply (name : String) (target : TypeId) (g : TypeGraph) :
    addAlias name target g = committed g (g.addAlias name target) := by
  cases h : g.get target with
  | error e =>
    have hexpect : expect target g = (.error e, g) := by rw [expect, h]
    rw [addAlias, bind_of_error hexpect, TypeGraph.addAlias, h]
    rfl
  | ok kind =>
    have hexpect : expect target g = (.ok (), g) := by rw [expect, h]
    rw [addAlias, bind_of_ok hexpect]
    cases hname : g.lookup name with
    | some id =>
      rw [bind_of_error (expectNew_of_some hname), TypeGraph.addAlias, h, hname]
      rfl
    | none =>
      rw [bind_of_ok (expectNew_of_none hname), TypeGraph.addAlias, h, hname]
      rfl

end GraphM

namespace TypeGraph

/-! ### Calls -/

inductive Call where
  | add (kind : TypeKind)
  | declare (name : String) (typeParams : List String)
  | define (id underlying : TypeId)
  | named (name : String) (underlying : TypeId)
  | addAlias (name : String) (target : TypeId)

/-- The answer is the node that is added, if the operation adds one. -/
def Call.run : Call → GraphM (Option TypeId)
  | .add kind => return some (← GraphM.add kind)
  | .declare name typeParams => return some (← GraphM.declare name typeParams)
  | .define id underlying => do
    GraphM.define id underlying
    return none
  | .named name underlying => return some (← GraphM.named name underlying)
  | .addAlias name target => return some (← GraphM.addAlias name target)

/-- The call with the operations of graphs as one step each. -/
def Call.outcome (g : TypeGraph) : Call → Except GraphError (Option TypeId) × TypeGraph
  | .add kind => (.ok (some (g.add kind).2), (g.add kind).1)
  | .declare name typeParams =>
    GraphM.committed g ((g.declare name typeParams).map fun done => (done.1, some done.2))
  | .define id underlying => GraphM.committed g ((g.define id underlying).map fun g' => (g', none))
  | .named name underlying => ((g.named name underlying).2.map some, (g.named name underlying).1)
  | .addAlias name target =>
    GraphM.committed g ((g.addAlias name target).map fun done => (done.1, some done.2))

theorem Call.run_eq_outcome (c : Call) (g : TypeGraph) : c.run g = c.outcome g := by
  cases c with
  | add kind => rfl
  | declare name typeParams =>
    rw [run, outcome, GraphM.bind_apply, GraphM.declare_apply]
    cases g.declare name typeParams <;> rfl
  | define id underlying =>
    rw [run, outcome, GraphM.bind_apply, GraphM.define_apply]
    cases g.define id underlying <;> rfl
  | named name underlying =>
    rw [run, outcome, GraphM.bind_apply, GraphM.named_apply]
    rcases g.named name underlying with ⟨g', _ | id⟩ <;> rfl
  | addAlias name target =>
    rw [run, outcome, GraphM.bind_apply, GraphM.addAlias_apply]
    cases g.addAlias name target <;> rfl

/-- The graph after some calls. Those that fail are followed by the next as well. -/
def after : List Call → TypeGraph → TypeGraph
  | [], g => g
  | c :: rest, g => after rest (c.run g).2

def Succeed : List Call → TypeGraph → Prop
  | [], _ => True
  | c :: rest, g => (∃ answer, (c.run g).1 = .ok answer) ∧ Succeed rest (c.run g).2

namespace Call

variable {g g' : TypeGraph} {c : Call} {name : String} {underlying : TypeId}

/-- If the call fails, the graph is as before. -/
def Atomic (c : Call) (g : TypeGraph) : Prop :=
  ∀ e g', c.run g = (.error e, g') → g'.nodes = g.nodes ∧ g'.names = g.names

/-- A new name for a type that does not exist, and is not the one that is being declared. -/
def Halves (g : TypeGraph) : Call → Prop
  | .named name underlying => g.lookup name = none ∧ g.size < underlying
  | _ => False

theorem ok_or_error_of_committed {α : Type} {result : Except GraphError (TypeGraph × α)}
    {outcome : Except GraphError α × TypeGraph} (h : outcome = GraphM.committed g result) :
    (∃ answer, outcome.1 = .ok answer) ∨ ∃ e, outcome = (.error e, g) := by
  cases result with
  | error e => exact .inr ⟨e, h⟩
  | ok done => exact .inl ⟨done.2, by rw [h]; rfl⟩

theorem named_of_some {id : TypeId} (hname : g.lookup name = some id) :
    (Call.named name underlying).run g = (.error (.duplicateName name), g) := by
  have hdeclare : GraphM.declare name [] g = (.error (.duplicateName name), g) :=
    GraphM.bind_of_error (GraphM.expectNew_of_some hname)
  exact GraphM.bind_of_error (GraphM.bind_of_error hdeclare)

/-- The graph in which the name is declared. -/
theorem declare_of_none (hname : g.lookup name = none) :
    GraphM.declare name [] g = (.ok g.size, (g.addName name (.named name none [])).1) := by
  rw [GraphM.declare, GraphM.bind_of_ok (GraphM.expectNew_of_none hname)]
  rfl

theorem size_addName (g : TypeGraph) (name : String) (kind : TypeKind) :
    (g.addName name kind).1.size = g.size + 1 :=
  Array.size_push _

theorem named_of_le (hname : g.lookup name = none) (hle : underlying ≤ g.size) :
    ∃ answer, ((Call.named name underlying).run g).1 = .ok answer := by
  have hlt : underlying < (g.addName name (.named name none [])).1.size := by
    rw [size_addName]
    exact Nat.lt_succ_of_le hle
  have hnode : (g.addName name (.named name none [])).1.nodes[g.size]? =
      some (.named name none []) := Array.getElem?_push_size
  refine ⟨some g.size, ?_⟩
  rw [run, GraphM.named, GraphM.bind_apply, GraphM.bind_of_ok (declare_of_none hname),
    GraphM.define, GraphM.bind_apply, GraphM.bind_of_ok (GraphM.expect_of_lt hlt),
    GraphM.complete, hnode]
  rfl

/-- The name is declared before it turns out that the type does not exist. -/
theorem named_of_lt (hname : g.lookup name = none) (hlt : g.size < underlying) :
    (Call.named name underlying).run g =
      (.error (.unknownType underlying), (g.addName name (.named name none [])).1) := by
  have hle : (g.addName name (.named name none [])).1.size ≤ underlying := by
    rw [size_addName]
    exact hlt
  rw [run, GraphM.named, GraphM.bind_apply, GraphM.bind_of_ok (declare_of_none hname),
    GraphM.define, GraphM.bind_apply, GraphM.bind_of_error (GraphM.expect_of_le hle)]

/-- A call succeeds, or fails without a trace, or leaves a declaration behind. -/
theorem run_cases (c : Call) (g : TypeGraph) :
    (∃ answer, (c.run g).1 = .ok answer) ∨ (∃ e, c.run g = (.error e, g)) ∨ c.Halves g := by
  cases c with
  | add kind => exact .inl ⟨some g.size, rfl⟩
  | named name underlying =>
    cases hname : g.lookup name with
    | some id => exact .inr (.inl ⟨_, named_of_some hname⟩)
    | none =>
      by_cases hle : underlying ≤ g.size
      · exact .inl (named_of_le hname hle)
      · exact .inr (.inr ⟨hname, Nat.lt_of_not_le hle⟩)
  | declare name typeParams =>
    exact (ok_or_error_of_committed ((Call.declare name typeParams).run_eq_outcome g)).imp_right .inl
  | define id underlying =>
    exact (ok_or_error_of_committed ((Call.define id underlying).run_eq_outcome g)).imp_right .inl
  | addAlias name target =>
    exact (ok_or_error_of_committed ((Call.addAlias name target).run_eq_outcome g)).imp_right .inl

theorem Halves.exists_named (h : c.Halves g) : ∃ name underlying, c = .named name underlying ∧
    g.lookup name = none ∧ g.size < underlying := by
  cases c with
  | named name underlying => exact ⟨name, underlying, rfl, h⟩
  | _ => exact h.elim

theorem atomic_iff (c : Call) (g : TypeGraph) : c.Atomic g ↔ ¬ c.Halves g := by
  constructor
  · intro hatomic hhalves
    obtain ⟨name, underlying, rfl, hname, hlt⟩ := hhalves.exists_named
    have hnodes : g.nodes.push (.named name none []) = g.nodes :=
      (hatomic _ _ (named_of_lt hname hlt)).1
    have hsize := congrArg Array.size hnodes
    rw [Array.size_push] at hsize
    omega
  · intro hhalves e g' hrun
    rcases c.run_cases g with ⟨answer, hok⟩ | ⟨e', herror⟩ | hhalves'
    · rw [hrun] at hok
      cases hok
    · cases hrun.symm.trans herror
      exact ⟨rfl, rfl⟩
    · exact absurd hhalves' hhalves

end Call

/-! ### Runs -/

/-- What is left of a call when its failures are left out. -/
theorem exists_succeed_of_call (c : Call) (g : TypeGraph) :
    ∃ calls, Succeed calls g ∧ after calls g = (c.run g).2 := by
  rcases c.run_cases g with hok | ⟨e, herror⟩ | hhalves
  · exact ⟨[c], ⟨hok, trivial⟩, rfl⟩
  · exact ⟨[], trivial, by rw [herror]; rfl⟩
  · obtain ⟨name, underlying, rfl, hname, hlt⟩ := hhalves.exists_named
    have hdeclare : (Call.declare name []).run g =
        (.ok (some g.size), (g.addName name (.named name none [])).1) := by
      rw [Call.run, GraphM.bind_of_ok (Call.declare_of_none hname)]
      rfl
    refine ⟨[.declare name []], ⟨⟨some g.size, by rw [hdeclare]⟩, trivial⟩, ?_⟩
    rw [Call.named_of_lt hname hlt, after, hdeclare]
    rfl

theorem after_append (calls rest : List Call) (g : TypeGraph) :
    after (calls ++ rest) g = after rest (after calls g) := by
  induction calls generalizing g with
  | nil => rfl
  | cons c calls ih => exact ih _

theorem Succeed.append {calls rest : List Call} {g : TypeGraph} (h : Succeed calls g)
    (h' : Succeed rest (after calls g)) : Succeed (calls ++ rest) g := by
  induction calls generalizing g with
  | nil => exact h'
  | cons c calls ih => exact ⟨h.1, ih h.2 h'⟩

theorem exists_succeed (calls : List Call) (g : TypeGraph) :
    ∃ done, Succeed done g ∧ after done g = after calls g := by
  induction calls generalizing g with
  | nil => exact ⟨[], trivial, rfl⟩
  | cons c rest ih =>
    obtain ⟨first, hfirst, heq⟩ := exists_succeed_of_call c g
    obtain ⟨done, hdone, hrest⟩ := ih (c.run g).2
    rw [← heq] at hdone hrest
    exact ⟨first ++ done, hfirst.append hdone, by rw [after_append, hrest, heq, after]⟩

/-- After any calls: which call leaves something behind when it fails, and what. No graph is made
by failures that calls without failures would not make. -/
theorem after_atomic_iff (calls : List Call) (c : Call) :
    c.run (after calls .empty) = c.outcome (after calls .empty) ∧
      (c.Atomic (after calls .empty) ↔ ¬ c.Halves (after calls .empty)) ∧
      (c.Halves (after calls .empty) → ∃ name underlying, c = .named name underlying ∧
        c.run (after calls .empty) = (.error (.unknownType underlying),
          ((after calls .empty).addName name (.named name none [])).1)) ∧
      ∃ done, Succeed done .empty ∧ after done .empty = after calls .empty := by
  refine ⟨c.run_eq_outcome _, c.atomic_iff _, fun h => ?_, exists_succeed calls .empty⟩
  obtain ⟨name, underlying, rfl, hname, hlt⟩ := h.exists_named
  exact ⟨name, underlying, rfl, Call.named_of_lt hname hlt⟩

/-- A name for a type that does not exist, in the empty graph. -/
theorem named_not_atomic :
    empty.named "p.T" 5 = (⟨#[.named "p.T" none []], [("p.T", 0)]⟩, .error (.unknownType 5)) ∧
      (Call.named "p.T" 5).run .empty =
        (.error (.unknownType 5), ⟨#[.named "p.T" none []], [("p.T", 0)]⟩) ∧
      ¬ ∀ (calls : List Call) (c : Call), c.Atomic (after calls .empty) := by
  have hrun : (Call.named "p.T" 5).run .empty =
    (.error (.unknownType 5), ⟨#[.named "p.T" none []], [("p.T", 0)]⟩) := rfl
  refine ⟨rfl, hrun, fun h => ?_⟩
  obtain ⟨-, hnames⟩ := h [] (.named "p.T" 5) _ _ hrun
  cases hnames

end TypeGraph
end ScriptBind
