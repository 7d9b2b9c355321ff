import ScriptBind.Proofs.Binding.Runs
import ScriptBind.Proofs.Canon.Lettering

/-!
# ScriptBind.Proofs.Binding.Upkeep

What a whole run keeps, given that each change that it can make to its state does. A run makes few
kinds of changes, and what it puts into words comes from the names in the session and from fixed
texts.

* `Generator.Upkeep` - a property that each change keeps, and the characters that it may rely on.
* `GenM.Upholds` - a step that keeps a property, with a claim about its answer.
* `Generator.Upkeep.after` - any calls keep the property, whether they fail or not.
-/

namespace ScriptBind

namespace Generator

/-- Each change keeps `P`. A name or a reason that is noted is made of characters of `Q` as long as
`P` holds, since the names in the session are. -/
structure Upkeep (graph : TypeGraph) (Q : Char → Prop) (P : Generator → Prop) : Prop extends
    Text.Shows Q where
  kinds : ∀ g, P g → ∀ id kind, g.canon.kind? id = some kind → kind.Over Q
  canonical : ∀ g type, P g → P (canonical graph type g).2
  degrade : ∀ g name reason, P g → Text.Over Q name → Text.Over Q reason →
    P (degrade name reason g).2
  registerBridge : ∀ g element direction, P g → P (registerBridge element direction g).2
  reserveShape : ∀ g c name, P g → Text.Over Q name → P (reserveShape c name g).2
  setKind : ∀ g id name kind, P g → Text.Over Q name → P (g.setKind id name kind)
  reserveEntry : ∀ g shape direction, P g → P (reserveEntry shape direction g).2
  setDeps : ∀ g id deps, P g → P (g.setDeps id deps)
  addExport : ∀ g e, P g → P (g.addExport e)

end Generator

/-! ### Steps -/

namespace GenM

variable {α β : Type} {P : Generator → Prop} {R : α → Prop} {R' : β → Prop}

/-- The step keeps `P`, and while `P` holds its answer is as `R` says. -/
def Upholds (P : Generator → Prop) (m : GenM α) (R : α → Prop) : Prop :=
  ∀ g, P g → P (m g).2 ∧ R (m g).1

namespace Upholds

theorem pure {a : α} (h : R a) : Upholds P (Pure.pure a) R := fun _ hg => ⟨hg, h⟩

theorem bind {m : GenM α} {k : α → GenM β} (hm : Upholds P m R)
    (hk : ∀ a, R a → Upholds P (k a) R') : Upholds P (m >>= k) R' := by
  intro g hg
  obtain ⟨hg', ha⟩ := hm g hg
  exact hk (m g).1 ha (m g).2 hg'

theorem get {k : Generator → GenM β} (hk : ∀ g, P g → Upholds P (k g) R') :
    Upholds P (MonadState.get >>= k) R' := fun g hg => hk g hg g hg

theorem ite {p : Prop} [Decidable p] {m m' : GenM α} (hm : Upholds P m R) (hm' : Upholds P m' R) :
    Upholds P (if p then m else m') R := by
  split
  · exact hm
  · exact hm'

theorem modify {f : Generator → Generator} (hf : ∀ g, P g → P (f g)) :
    Upholds P (modify f : GenM PUnit) fun _ => True := fun g hg => ⟨hf g hg, trivial⟩

theorem mapM {f : α → GenM β} (hf : ∀ x, Upholds P (f x) fun _ => True) (xs : List α) :
    Upholds P (xs.mapM f) fun _ => True := by
  induction xs with
  | nil => exact .pure trivial
  | cons x rest ih =>
    rw [List.mapM_cons]
    exact (hf x).bind fun y _ => ih.bind fun ys _ => .pure trivial

end Upholds
end GenM

namespace Generator

open GenM (Upholds)

variable {graph : TypeGraph} {Q : Char → Prop} {P : Generator → Prop}

/-- Why there is no shape is said in such characters. -/
def Said {α : Type} (Q : Char → Prop) (result : Except String α) : Prop :=
  ∀ reason, result = .error reason → Text.Over Q reason

theorem said_ok {α : Type} (a : α) : Said Q (.ok a : Except String α) := nofun

theorem said_error {α : Type} {reason : String} (hreason : Text.Over Q reason) :
    Said Q (.error reason : Except String α) := by
  rintro _ ⟨⟩
  exact hreason

theorem upholds_entriesFor {entry : ShapeId → Direction → GenM ConverterId}
    (hentry : ∀ shape direction, Upholds P (entry shape direction) fun _ => True)
    (needed : List (ShapeId × Direction)) : ∀ found,
    Upholds P (entriesFor entry needed found) fun _ => True := by
  induction needed with
  | nil => exact fun _ => .pure trivial
  | cons key rest ih =>
    intro found
    rw [entriesFor]
    exact .get fun g _ => .ite (ih found) ((hentry key.1 key.2).bind fun id _ => ih _)

namespace Upkeep

variable (h : Upkeep graph Q P)

include h

theorem typeString {g : Generator} (hg : P g) (c : CanonId) : Text.Over Q (g.canon.typeString c) :=
  Session.typeString_over h.toShows (h.kinds g hg) c

/-! ### Shapes -/

theorem upholds_degrade {name reason : String} (hname : Text.Over Q name)
    (hreason : Text.Over Q reason) : Upholds P (Generator.degrade name reason) fun _ => True :=
  fun g hg => ⟨h.degrade g name reason hg hname hreason, trivial⟩

section Parts

variable {shape : CanonId → GenM ShapeId} (hshape : ∀ d, Upholds P (shape d) fun _ => True)

include hshape

theorem upholds_funcShape {f : CanonFunc} (hf : f.Over Q) :
    Upholds P (funcShape shape f) (Said Q) := by
  rw [funcShape]
  refine .ite (.pure (said_error ?_)) (.get fun g _ => .ite (.pure (said_error ?_)) ?_)
  · exact ((h.fixed (by decide)).append (Text.over_intercalate (h.fixed (by decide)) hf)).append
      (h.fixed (by decide))
  · exact h.fixed (by decide)
  · exact (Upholds.mapM hshape f.params).bind fun params _ =>
      (Upholds.mapM hshape f.results).bind fun results _ => .pure (said_ok _)

theorem upholds_methodShapes (methods : List CanonMethod)
    (hmethods : ∀ m ∈ methods, Text.Over Q m.name ∧ m.func.Over Q) :
    Upholds P (methodShapes shape methods) (Said Q) := by
  induction methods with
  | nil => exact .pure (said_ok _)
  | cons m rest ih =>
    obtain ⟨⟨hname, hfunc⟩, hrest⟩ := List.forall_mem_cons.1 hmethods
    refine (h.upholds_funcShape hshape hfunc).bind fun result hresult => ?_
    split
    · exact .pure (said_error ((((h.fixed (by decide)).append hname).append
        (h.fixed (by decide))).append (hresult _ rfl)))
    · refine (ih hrest).bind fun result hresult => ?_
      split
      · exact .pure hresult
      · exact .pure (said_ok _)

theorem upholds_fieldShapes (fields : List (String × CanonId))
    (hfields : ∀ f ∈ fields, Text.Over Q f.1) :
    Upholds P (fieldShapes shape fields) (Said Q) := by
  induction fields with
  | nil => exact .pure (said_ok _)
  | cons f rest ih =>
    obtain ⟨hname, hrest⟩ := List.forall_mem_cons.1 hfields
    refine (hshape f.2).bind fun id _ => .get fun g hg => .ite (.pure (said_error ?_)) ?_
    · exact (((h.fixed (by decide)).append hname).append (h.fixed (by decide))).append
        (h.typeString hg f.2)
    · refine (ih hrest).bind fun result hresult => ?_
      split
      · exact .pure hresult
      · exact .pure (said_ok _)

theorem upholds_kindFor {name : String} (hname : Text.Over Q name) {kind : Option CanonKind}
    (hkind : ∀ found, kind = some found → found.Over Q) :
    Upholds P (kindFor shape name kind) fun _ => True := by
  cases kind with
  | none => exact h.upholds_degrade hname (h.fixed (by decide))
  | some kind =>
    have hover := hkind kind rfl
    cases kind with
    | bool | int width signedness | float precision | string | any | error => exact .pure trivial
    | complex bits =>
      exact h.upholds_degrade hname (((h.fixed (by decide)).append
        (h.number bits)).append (h.fixed (by decide)))
    | unsafePointer | named other underlying =>
      exact h.upholds_degrade hname (h.fixed (by decide))
    | typeParam param =>
      exact h.upholds_degrade hname (((h.fixed (by decide)).append hover).append
        (h.fixed (by decide)))
    | slice element | array length element | pointer element =>
      exact (hshape element).bind fun _ _ => .pure trivial
    | map key value =>
      refine .get fun g hg => .ite ((hshape value).bind fun _ _ => .pure trivial) ?_
      exact h.upholds_degrade hname (((h.fixed (by decide)).append (h.typeString hg key)).append
        (h.fixed (by decide)))
    | func f =>
      refine (h.upholds_funcShape hshape hover).bind fun result hresult => ?_
      split
      · exact .pure trivial
      · exact h.upholds_degrade hname (hresult _ rfl)
    | chan direction element =>
      refine (hshape element).bind fun id _ => ?_
      have hbridge : Upholds P (Generator.registerBridge id direction) fun _ => True :=
        fun g hg => ⟨h.registerBridge g id direction hg, trivial⟩
      exact hbridge.bind fun _ _ => .pure trivial
    | interface methods =>
      refine (h.upholds_methodShapes hshape methods hover).bind fun result hresult => ?_
      split
      · exact .pure trivial
      · exact h.upholds_degrade hname (hresult _ rfl)
    | struct aliasName fields =>
      refine (h.upholds_fieldShapes hshape fields hover.2).bind fun result hresult => ?_
      split
      · exact .pure trivial
      · exact h.upholds_degrade hname (hresult _ rfl)

end Parts

theorem upholds_shapeIn (fuel : Nat) : ∀ c, Upholds P (shapeIn fuel c) fun _ => True := by
  induction fuel with
  | zero => exact fun _ => .pure trivial
  | succ fuel ih =>
    intro c
    rw [shapeIn]
    refine .get fun g hg => ?_
    cases g.shapeOf.lookup c with
    | some id => exact .pure trivial
    | none =>
      have hname := h.typeString hg c
      have hreserve : Upholds P (Generator.reserveShape c (g.canon.typeString c)) fun _ => True :=
        fun g' hg' => ⟨h.reserveShape g' c _ hg' hname, trivial⟩
      refine hreserve.bind fun id _ => ?_
      refine (h.upholds_kindFor ih hname (h.kinds g hg _)).bind fun kind _ => ?_
      refine (Upholds.modify fun g' hg' => ?_).bind fun _ _ => .pure trivial
      exact h.setKind g' id _ kind hg' hname

/-! ### Converters -/

theorem upholds_entryIn (fuel : Nat) : ∀ shape direction,
    Upholds P (entryIn fuel shape direction) fun _ => True := by
  induction fuel with
  | zero => exact fun _ _ => .pure trivial
  | succ fuel ih =>
    intro shape direction
    rw [entryIn]
    refine .get fun g _ => ?_
    cases g.findEntry shape direction with
    | some id => exact .pure trivial
    | none =>
      have hreserve : Upholds P (Generator.reserveEntry shape direction) fun _ => True :=
        fun g' hg' => ⟨h.reserveEntry g' shape direction hg', trivial⟩
      refine hreserve.bind fun id _ => (upholds_entriesFor ih _ _).bind fun deps _ => ?_
      exact (Upholds.modify fun g' hg' => h.setDeps g' id deps hg').bind fun _ _ => .pure trivial

/-! ### Calls -/

theorem upholds_shape (type : TypeId) : Upholds P (shape graph type) fun _ => True := by
  have hcanonical : Upholds P (Generator.canonical graph type) fun _ => True :=
    fun g hg => ⟨h.canonical g type hg, trivial⟩
  refine hcanonical.bind fun result _ => ?_
  cases result with
  | error e => exact .pure trivial
  | ok c => exact (Upholds.get fun g _ => h.upholds_shapeIn _ c).bind fun _ _ => .pure trivial

theorem upholds_add (type : TypeId) (direction : Direction) :
    Upholds P (add graph type direction) fun _ => True := by
  refine (h.upholds_shape type).bind fun result _ => ?_
  cases result with
  | error e => exact .pure trivial
  | ok id =>
    exact (Upholds.get fun g _ => h.upholds_entryIn _ id direction).bind fun _ _ => .pure trivial

theorem upholds_call (call : Call) : Upholds P (call.run graph) fun _ => True := by
  cases call with
  | add type direction => exact h.upholds_add type direction
  | shape type => exact h.upholds_shape type
  | request r =>
    refine (h.upholds_add r.type r.direction).bind fun result _ => ?_
    cases result with
    | error e => exact .pure trivial
    | ok id =>
      exact (Upholds.modify fun g hg => h.addExport g _ hg).bind fun _ _ => .pure trivial

theorem after (calls : List Call) {g : Generator} (hg : P g) : P (after graph calls g) := by
  induction calls generalizing g with
  | nil => exact hg
  | cons call rest ih => exact ih (h.upholds_call call g hg).1

end Upkeep
end Generator
end ScriptBind
