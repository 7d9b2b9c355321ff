import ScriptBind.Proofs.Canon.Aliases
import ScriptBind.Proofs.Canon.Interning
import ScriptBind.Proofs.TypeGraph.Reach

/-!
# ScriptBind.Proofs.Canon.Steps

What a step of a session does, whether it succeeds or fails.

* `Session.Represents` - a canonical type means what a graph node means.
* `Session.Settled` - what holds of a named type once it is resolved.
* `Session.Valid` - the table is interned, and what a session remembers is right.
* `Session.Grows` - a later session in which no further name waits for its underlying type.
* `CanonM.Meets` - a step keeps a session valid; its answer and its error are as stated.
* `CanonM.Meets.bind`, `CanonM.Meets.mapM` - steps one after the other.
-/

namespace ScriptBind
namespace Session

variable {g : TypeGraph} {s s' s'' : Session}

/-! ### Sessions -/

def Knows (s : Session) (name : String) : Prop :=
  ∃ id underlying, s.kind? id = some (.named name underlying)

def Resolved (s : Session) (name : String) : Prop :=
  ∃ id underlying, s.kind? id = some (.named name (some underlying))

/-- The name is in the table, but what it stands for is not known yet. -/
def Unresolved (s : Session) (name : String) : Prop :=
  ∃ id, s.kind? id = some (.named name none)

/-- The names in a type are in the table. -/
def Entered (g : TypeGraph) (s : Session) (type : TypeId) : Prop :=
  ∀ id name, Relation.ReflTransGen g.Inside type id → g.IsNamed id name → s.Knows name

/-- The canonical type has the tree of the node. -/
structure Represents (g : TypeGraph) (s : Session) (type : TypeId) (id : CanonId) : Prop where
  lt_size : id < s.size
  unfolds : g.Unfolds type (s.unfold id)
  entered : s.Entered g type

/-- The names in the body of a named type are in the table, and it is not defined by a type that is
unresolved. -/
structure Settled (g : TypeGraph) (s : Session) (type : TypeId) : Prop where
  entered : ∀ body, g.BodyHop type body → s.Entered g body
  direct : ∀ id name, g.DefinedBy type id → g.IsNamed id name → ¬ s.Unresolved name

/-- The canonical type has the tree of what stands behind the name, and is no named type itself. -/
structure Underlies (g : TypeGraph) (s : Session) (name : String) (id : CanonId) : Prop where
  lt_size : id < s.size
  plain : ∀ kind, s.kind? id = some kind → kind.isNominal = false
  behind : g.UniqueNames →
    ∃ type last, g.IsNamed type name ∧ g.Behind type last ∧ g.Unfolds last (s.unfold id)

structure Valid (g : TypeGraph) (s : Session) : Prop where
  interned : s.Interned
  memo : ∀ p ∈ s.memo, s.Represents g p.1 p.2
  settled : g.UniqueNames → ∀ type name, g.IsNamed type name → s.Resolved name → s.Settled g type
  /-- Each canonical type was made for some node. -/
  origin : ∀ id < s.size, ∃ type, g.Unfolds type (s.unfold id)
  underlying : ∀ id name u, s.kind? id = some (.named name (some u)) → s.Underlies g name u

structure Grows (s s' : Session) : Prop where
  extend : s.Extends s'
  unresolved : ∀ name, s'.Unresolved name → s.Unresolved name

theorem Grows.refl (s : Session) : s.Grows s := ⟨.refl s, fun _ h => h⟩

theorem Grows.trans (h : s.Grows s') (h' : s'.Grows s'') : s.Grows s'' :=
  ⟨h.extend.trans h'.extend, fun name hname => h.unresolved name (h'.unresolved name hname)⟩

theorem Grows.of_kinds_eq (h : s'.kinds = s.kinds) : s.Grows s' where
  extend := .of_kinds_eq h
  unresolved name := fun ⟨id, hid⟩ => ⟨id, by rw [kind?, ← h]; exact hid⟩

theorem Entered.mono {type : TypeId} (h : s.Entered g type) (hext : s.Extends s') :
    s'.Entered g type := by
  intro id name hin hname
  obtain ⟨i, underlying, hi⟩ := h id name hin hname
  exact ⟨i, hext.named hi⟩

/-- From the parts of a node that is not a named type. -/
theorem entered_of_refs {type : TypeId} {node : TypeKind} (hnode : g.nodes[type]? = some node)
    (hnamed : node.isNamed = false) (h : ∀ child ∈ node.refs, s.Entered g child) :
    s.Entered g type := by
  intro id name hin hname
  cases hin using Relation.ReflTransGen.head_induction_on with
  | refl =>
    obtain ⟨_, _, hname⟩ := hname
    rw [hnode] at hname
    cases hname
    cases hnamed
  | head hin hrest =>
    obtain ⟨kind, hkind, _, hchild⟩ := hin
    rw [hnode] at hkind
    cases hkind
    exact h _ hchild id name hrest hname

theorem entered_of_named {type : TypeId} {name : String} (hname : g.IsNamed type name)
    (h : s.Knows name) : s.Entered g type := by
  intro id other hin hother
  obtain ⟨body, typeParams, hnode⟩ := hname
  cases hin using Relation.ReflTransGen.head_induction_on with
  | refl =>
    obtain ⟨_, _, hother⟩ := hother
    rw [hnode] at hother
    cases hother
    exact h
  | head hin _ =>
    obtain ⟨kind, hkind, hnamed, _⟩ := hin
    rw [hnode] at hkind
    cases hkind
    cases hnamed

theorem Represents.mono {type : TypeId} {id : CanonId} (h : s.Represents g type id)
    (hs : s.Interned) (hs' : s'.Interned) (hext : s.Extends s') : s'.Represents g type id where
  lt_size := hext.lt_size h.lt_size
  unfolds := by
    rw [hext.unfold_eq hs hs' h.lt_size]
    exact h.unfolds
  entered := h.entered.mono hext

theorem Settled.mono {type : TypeId} (h : s.Settled g type) (hgrows : s.Grows s') :
    s'.Settled g type where
  entered body hbody := (h.entered body hbody).mono hgrows.extend
  direct id name hdef hname hwait := h.direct id name hdef hname (hgrows.unresolved name hwait)

theorem Underlies.mono {name : String} {id : CanonId} (h : s.Underlies g name id)
    (hs : s.Interned) (hs' : s'.Interned) (hext : s.Extends s') : s'.Underlies g name id where
  lt_size := hext.lt_size h.lt_size
  plain kind hkind := by
    obtain ⟨kind₀, hkind₀⟩ := exists_kind? h.lt_size
    have hplain := h.plain kind₀ hkind₀
    cases (hext.kind?_of_not_isNominal hkind₀ hplain).symm.trans hkind
    exact hplain
  behind := by
    rw [hext.unfold_eq hs hs' h.lt_size]
    exact h.behind

/-- What was there before still has the tree of its node. -/
theorem Valid.origin_of_extends (h : s.Valid g) (hs' : s'.Interned) (hext : s.Extends s')
    {id : CanonId} (hid : id < s.size) : ∃ type, g.Unfolds type (s'.unfold id) := by
  rw [hext.unfold_eq h.interned hs' hid]
  exact h.origin id hid

/-- After a change in which no named type is new or changed. -/
theorem Valid.of_extends (h : s.Valid g) (hs' : s'.Interned) (hext : s.Extends s')
    (hmemo : s'.memo = s.memo) (hnamed : ∀ id name underlying,
      s'.kind? id = some (.named name underlying) → s.kind? id = some (.named name underlying))
    (hnew : ∀ id < s'.size, id < s.size ∨ ∃ type, g.Unfolds type (s'.unfold id)) :
    s'.Valid g where
  interned := hs'
  memo p hp := (h.memo p (hmemo ▸ hp)).mono h.interned hs' hext
  settled hunique type name hname := fun ⟨id, underlying, hid⟩ =>
    (h.settled hunique type name hname ⟨id, underlying, hnamed _ _ _ hid⟩).mono
      ⟨hext, fun _ ⟨i, hi⟩ => ⟨i, hnamed _ _ _ hi⟩⟩
  origin id hid := (hnew id hid).elim (h.origin_of_extends hs' hext) fun h => h
  underlying id name u hid :=
    (h.underlying id name u (hnamed _ _ _ hid)).mono h.interned hs' hext

theorem Valid.of_kinds_eq (h : s.Valid g) (hkinds : s'.kinds = s.kinds)
    (hmemo : s'.memo = s.memo) : s'.Valid g :=
  h.of_extends (h.interned.of_kinds_eq hkinds) (.of_kinds_eq hkinds) hmemo
    (fun id name underlying hid => by rw [kind?, ← hkinds]; exact hid)
    fun id hid => .inl (by rw [size, ← hkinds]; exact hid)

theorem valid_empty (g : TypeGraph) : empty.Valid g where
  interned := interned_empty
  memo p hp := by simp [empty] at hp
  settled _ _ _ _ := fun ⟨id, underlying, hid⟩ => by simp [kind?, empty] at hid
  origin id hid := by simp [size, empty] at hid
  underlying id name u hid := by simp [kind?, empty] at hid

theorem kinds_registerAlias (id : CanonId) (s : Session) :
    (s.registerAlias id).kinds = s.kinds := by
  rw [registerAlias]
  split
  · split <;> rfl
  · rfl

/-- A call leaves each entry as it was, also one of a name that waits: only the end of its own
definition changes that. -/
theorem stable_kind? (id : CanonId) (kind : CanonKind) : Stable fun s => s.kind? id = some kind where
  intern s _ h _ := by
    rw [intern]
    split
    · exact h
    · exact (kind?_push_of_lt (lt_size_of_kind? h)).trans h
  remember _ _ _ h := h
  registerAlias s i h := by
    rw [kind?, kinds_registerAlias]
    exact h
  reserve s _ _ h := (kind?_push_of_lt (lt_size_of_kind? h)).trans h
  setUnderlying s s' type other underlying h h' := by
    have hne : s.kinds.size ≠ id := Nat.ne_of_gt (lt_size_of_kind? h)
    rw [kind?, setUnderlying, reserve, Array.getElem?_setIfInBounds, if_neg hne]
    exact h'

theorem memo_registerAlias (id : CanonId) (s : Session) :
    (s.registerAlias id).memo = s.memo := by
  rw [registerAlias]
  split
  · split <;> rfl
  · rfl

theorem Valid.remember {type : TypeId} {id : CanonId} (h : s.Valid g)
    (hid : s.Represents g type id) : (s.remember type id).Valid g := by
  have hkinds : (s.remember type id).kinds = s.kinds := rfl
  have hinterned := h.interned.of_kinds_eq hkinds
  refine ⟨hinterned, fun p hp => ?_, fun hunique type name hname hres =>
    (h.settled hunique type name hname hres).mono (.of_kinds_eq hkinds),
    fun i hi => h.origin_of_extends hinterned (.of_kinds_eq hkinds) hi,
    fun i name u hi =>
      (h.underlying i name u hi).mono h.interned hinterned (.of_kinds_eq hkinds)⟩
  have hp : s.Represents g p.1 p.2 := by
    rcases List.mem_cons.1 hp with rfl | hp
    · exact hid
    · exact h.memo p hp
  exact hp.mono h.interned hinterned (.of_kinds_eq hkinds)

/-- Stated through the node and the kind, each with the trees of their parts. -/
theorem represents_of_kind {type : TypeId} {id : CanonId} {node : TypeKind} {kind : CanonKind}
    (hs : s.Interned) (hnode : g.nodes[type]? = some node) (hkind : s.kind? id = some kind)
    (hentered : s.Entered g type)
    (h : ∃ depth, node.unfoldWith (g.unfoldIn depth) = some (kind.unfoldWith s.unfold)) :
    s.Represents g type id := by
  obtain ⟨depth, h⟩ := h
  refine ⟨lt_size_of_kind? hkind, ?_, hentered⟩
  rw [hs.unfold_eq hkind]
  exact TypeGraph.unfolds_of_unfoldWith hnode h

end Session

/-! ### Steps -/

namespace CanonM

open Session

variable {α β : Type} {g : TypeGraph} {s s' : Session} {E : CanonError → Prop}
  {Q : α → Session → Prop} {Q' : β → Session → Prop}

/-- Taken from `s`, the step leaves a valid session that extends `s`. If it succeeds, no further
name is unresolved and the answer is as `Q` says; if it fails, the error is as `E` says. -/
structure Meets (g : TypeGraph) (s : Session) (m : CanonM α) (E : CanonError → Prop)
    (Q : α → Session → Prop) : Prop where
  valid : (m s).2.Valid g
  extend : s.Extends (m s).2
  ok : ∀ a, (m s).1 = .ok a → s.Grows (m s).2 ∧ Q a (m s).2
  error : ∀ e, (m s).1 = .error e → E e

namespace Meets

theorem pure {a : α} (hs : s.Valid g) (h : Q a s) : Meets g s (Pure.pure a) E Q where
  valid := hs
  extend := .refl s
  ok b hb := by
    cases hb
    exact ⟨.refl s, h⟩
  error e he := by cases he

theorem throw {e : CanonError} (hs : s.Valid g) (h : E e) :
    Meets g s (MonadExcept.throw e : CanonM α) E Q where
  valid := hs
  extend := .refl s
  ok a ha := by cases ha
  error e' he := by
    cases he
    exact h

theorem bind {m : CanonM α} {k : α → CanonM β} (hm : Meets g s m E Q)
    (hk : ∀ a s', s'.Valid g → s.Grows s' → Q a s' → Meets g s' (k a) E Q') :
    Meets g s (m >>= k) E Q' := by
  have hrun := bind_apply m k s
  obtain ⟨hvalid, hext, hok, herror⟩ := hm
  rcases hms : m s with ⟨e | a, s'⟩
  · rw [hms] at hrun hvalid hext herror
    refine ⟨hrun ▸ hvalid, hrun ▸ hext, fun b hb => ?_, fun e' he => ?_⟩
    · rw [hrun] at hb
      cases hb
    · rw [hrun] at he
      cases he
      exact herror e rfl
  · rw [hms] at hrun hvalid hext hok
    obtain ⟨hgrows, hQ⟩ := hok a rfl
    obtain ⟨hvalid', hext', hok', herror'⟩ := hk a s' hvalid hgrows hQ
    refine ⟨hrun ▸ hvalid', hrun ▸ hext.trans hext', fun b hb => ?_, fun e he => ?_⟩
    · rw [hrun] at hb ⊢
      exact ⟨hgrows.trans (hok' b hb).1, (hok' b hb).2⟩
    · rw [hrun] at he
      exact herror' e he

theorem mono {E' : CanonError → Prop} {m : CanonM α} (h : Meets g s m E Q)
    (hE : ∀ e, E e → E' e) : Meets g s m E' Q :=
  ⟨h.valid, h.extend, h.ok, fun e he => hE e (h.error e he)⟩

theorem preserves {P : Session → Prop} {m : CanonM α} (h : Meets g s m E Q)
    (hm : CanonM.Preserves P m) (hs : P s) : Meets g s m E fun a s' => Q a s' ∧ P s' :=
  ⟨h.valid, h.extend, fun a ha => ⟨(h.ok a ha).1, (h.ok a ha).2, hm s hs⟩, h.error⟩

theorem get {k : Session → CanonM β} (h : Meets g s (k s) E Q') :
    Meets g s (MonadState.get >>= k) E Q' :=
  ⟨h.valid, h.extend, h.ok, h.error⟩

/-- A change after which further names may be unresolved, until the rest is done. -/
theorem set {s₁ : Session} {k : PUnit → CanonM β} {R : β → Session → Prop}
    (hext : s.Extends s₁) (h : Meets g s₁ (k ⟨⟩) E R)
    (hQ : ∀ a s₂, s₁.Grows s₂ → R a s₂ → s.Grows s₂ ∧ Q' a s₂) :
    Meets g s (MonadState.set s₁ >>= k) E Q' :=
  ⟨h.valid, hext.trans h.extend, fun a ha => hQ a _ (h.ok a ha).1 (h.ok a ha).2, h.error⟩

/-- A change that leaves the table alone. -/
theorem modify {f : Session → Session} (hvalid : (f s).Valid g) (hkinds : (f s).kinds = s.kinds) :
    Meets g s (modify f : CanonM PUnit) E fun _ s' => s' = f s where
  valid := hvalid
  extend := .of_kinds_eq hkinds
  ok _ _ := ⟨.of_kinds_eq hkinds, rfl⟩
  error e he := by cases he

theorem ite {p : Prop} [Decidable p] {m m' : CanonM α} (hm : p → Meets g s m E Q)
    (hm' : ¬ p → Meets g s m' E Q) : Meets g s (if p then m else m') E Q := by
  split
  · exact hm ‹_›
  · exact hm' ‹_›

theorem mapM {f : α → CanonM β} {P : α → β → Session → Prop} {xs : List α}
    (hmono : ∀ x y s s', s.Valid g → s'.Valid g → s.Extends s' → P x y s → P x y s')
    (hs : s.Valid g)
    (hf : ∀ x ∈ xs, ∀ s', s'.Valid g → s.Grows s' → Meets g s' (f x) E (P x)) :
    Meets g s (xs.mapM f) E fun ys s' => List.Forall₂ (fun x y => P x y s') xs ys := by
  induction xs generalizing s with
  | nil => exact .pure hs .nil
  | cons x xs ih =>
    rw [List.mapM_cons]
    refine (hf x List.mem_cons_self s hs (.refl s)).bind fun y s₁ hs₁ hgrows hy => ?_
    have hrest := ih hs₁ fun x' hx' s' hs' hgrows' =>
      hf x' (List.mem_cons_of_mem _ hx') s' hs' (hgrows.trans hgrows')
    refine hrest.bind fun ys s₂ hs₂ hgrows₂ hys => .pure hs₂ (.cons ?_ hys)
    exact hmono x y s₁ s₂ hs₁ hs₂ hgrows₂.extend hy

theorem node {type : TypeId} {k : TypeKind → CanonM β} (hs : s.Valid g)
    (hnone : g.nodes[type]? = none → E (.graph (.unknownType type)))
    (hk : ∀ kind, g.nodes[type]? = some kind → Meets g s (k kind) E Q') :
    Meets g s (Session.node g type >>= k) E Q' := by
  rw [Session.node, TypeGraph.get]
  cases hnode : g.nodes[type]? with
  | none => exact (throw (Q := fun _ _ => False) hs (hnone hnode)).bind fun _ _ _ _ h => h.elim
  | some kind => exact hk kind hnode

theorem internM {type : TypeId} {node : TypeKind} {kind : CanonKind} (hs : s.Valid g)
    (hnode : g.nodes[type]? = some node) (hnamed : node.isNamed = false)
    (hentered : ∀ child ∈ node.refs, s.Entered g child) (hnominal : kind.isNominal = false)
    (hbelow : ∀ r ∈ kind.refs, r < s.size)
    (halias : ∀ name fields, kind = .struct name fields →
      name = structAlias (s.fieldListing fields))
    (h : ∃ depth, node.unfoldWith (g.unfoldIn depth) = some (kind.unfoldWith s.unfold)) :
    Meets g s (Session.internM kind) E fun id s' => s'.Represents g type id := by
  obtain ⟨hinterned, hext, hkind, hmemo, hsame, hnew⟩ := hs.interned.intern hnominal hbelow halias
  have hgrows : s.Grows (s.intern kind).1 := ⟨hext, fun name ⟨id, hid⟩ => ⟨id, hsame _ _ _ hid⟩⟩
  obtain ⟨depth, h⟩ := h
  have hunfold : kind.unfoldWith (s.intern kind).1.unfold = kind.unfoldWith s.unfold :=
    CanonKind.unfoldWith_congr fun r hr => hext.unfold_eq hs.interned hinterned (hbelow r hr)
  have hentered := (entered_of_refs hnode hnamed hentered).mono hext
  have hrep : (s.intern kind).1.Represents g type (s.intern kind).2 :=
    represents_of_kind hinterned hnode hkind hentered
      ⟨depth, h.trans (congrArg some hunfold.symm)⟩
  refine ⟨hs.of_extends hinterned hext hmemo hsame fun id hid => ?_, hext, fun id hid => ?_,
    fun e he => by cases he⟩
  · rcases hnew id hid with hid | rfl
    · exact .inl hid
    · exact .inr ⟨type, hrep.unfolds⟩
  · cases hid
    exact ⟨hgrows, hrep⟩

end Meets
end CanonM
end ScriptBind
