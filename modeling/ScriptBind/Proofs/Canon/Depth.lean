import Mathlib.Data.Fintype.Card
import ScriptBind.Proofs.Canon.Completion
import ScriptBind.Proofs.Canon.Errors
import ScriptBind.Proofs.Canon.Sessions

/-!
# ScriptBind.Proofs.Canon.Depth

How deep the recursion over a type goes, and how large the table becomes.

* `CanonM.Deepens` - a step that differs from another one at most where this stops at its bound.
* `Session.deepens_normalizeIn` - a higher bound changes nothing but the answer at the bound, by
  induction on the bound.
* `Session.normalizeIn_eq_normalize` - any bound that is high enough leads to the same.
* `Session.normalizeIn_of_knows` - the body of a named type is looked at once.
* `Session.Valid.size_le` - there are no more canonical types than nodes.
-/

namespace ScriptBind
namespace CanonM

variable {α β : Type}

/-- Where the first step does not stop at its bound, the second one does the same. -/
def Deepens (m m' : CanonM α) : Prop :=
  ∀ s : Session, (∀ type, (m s).1 ≠ .error (.endless type)) → m' s = m s

namespace Deepens

theorem refl (m : CanonM α) : Deepens m m := fun _ _ => rfl

theorem bind {m m' : CanonM α} {k k' : α → CanonM β} (hm : Deepens m m')
    (hk : ∀ a, Deepens (k a) (k' a)) : Deepens (m >>= k) (m' >>= k') := by
  intro s hrun
  rw [bind_apply] at hrun
  rcases hms : m s with ⟨e | a, s'⟩
  · rw [hms] at hrun
    have hends : ∀ type, (m s).1 ≠ .error (.endless type) := fun type heq => by
      rw [hms] at heq
      cases heq
      exact hrun type rfl
    have hms' : m' s = (.error e, s') := (hm s hends).trans hms
    rw [bind_apply, bind_apply, hms, hms']
  · rw [hms] at hrun
    have hms' : m' s = (.ok a, s') := (hm s (hms ▸ nofun)).trans hms
    rw [bind_apply, bind_apply, hms, hms']
    exact hk a s' hrun

theorem get {k k' : Session → CanonM β} (hk : ∀ s, Deepens (k s) (k' s)) :
    Deepens (MonadState.get >>= k) (MonadState.get >>= k') :=
  (refl _).bind hk

theorem congruence : Congruence Deepens where
  pure _ := refl _
  bind := bind
  get := refl _
  graph _ := refl _
  conflicting _ _ _ := refl _
  internM _ _ := refl _
  registerAlias _ := refl _
  remember _ _ := refl _

end Deepens
end CanonM

namespace Session

open CanonM (Deepens)

/-! ### The bound of the recursion -/

variable {g : TypeGraph} {s : Session} {type : TypeId} {fuel : Nat}

theorem deepens_normalizeNamed (g : TypeGraph) {normalIn normalIn' : Bool → TypeId → CanonM CanonId}
    (hin : ∀ register type, Deepens (normalIn register type) (normalIn' register type))
    (type : TypeId) (name : String) (body : Option TypeId) :
    Deepens (normalizeNamed g normalIn type name body)
      (normalizeNamed g normalIn' type name body) := by
  refine .get fun s => ?_
  cases s.findNamed name with
  | some id => exact .refl _
  | none =>
    refine .get fun s => (Deepens.refl _).bind fun _ => ?_
    cases body with
    | none => exact .refl _
    | some body =>
      exact (Deepens.refl _).bind fun kind => (hin (!isStruct kind) body).bind fun _ => .refl _

theorem deepens_normalizeIn (g : TypeGraph) : ∀ (fuel fuel' : Nat) (register : Bool)
    (type : TypeId), fuel ≤ fuel' →
    Deepens (normalizeIn g fuel register type) (normalizeIn g fuel' register type) := by
  intro fuel
  induction fuel with
  | zero =>
    intro fuel' register type _ s hrun
    exact absurd rfl (hrun type)
  | succ fuel ih =>
    intro fuel' register type hle
    obtain ⟨fuel', rfl⟩ := Nat.exists_eq_succ_of_ne_zero (Nat.ne_zero_of_lt hle)
    have hdeeper := fun register type => ih fuel' register type (Nat.le_of_succ_le_succ hle)
    exact Deepens.congruence.normalizeIn fuel fuel' hdeeper register type
      fun name body => deepens_normalizeNamed g hdeeper type name body

/-- The bound is not reached, so it does not matter. -/
theorem normalizeIn_eq_normalize (hguarded : ∀ id, ¬ Relation.TransGen g.Inside id id)
    (hs : s.Valid g) (hfuel : (g.size + 1) * (g.size + 1) ≤ fuel) (type : TypeId) :
    normalizeIn g fuel true type s = normalize g type s :=
  deepens_normalizeIn g _ fuel true type hfuel s (normalize_ne_endless hguarded hs)

/-- A name that is in the table is not defined again: the recursion does not even reach the body,
whether what is behind the name is known or not. -/
theorem normalizeIn_of_knows {name : String} (hname : g.IsNamed type name) (h : s.Knows name)
    (register : Bool) : ∃ id s', normalizeIn g 1 register type s = (.ok id, s') ∧
      s'.kinds = s.kinds := by
  obtain ⟨body, typeParams, hnode⟩ := hname
  have hkind : node g type = pure (.named name body typeParams) := by
    rw [node, TypeGraph.get, hnode]
  have hget : (MonadState.get : CanonM Session) s = (.ok s, s) := rfl
  have hpure : (pure (.named name body typeParams) : CanonM TypeKind) s = (.ok _, s) := rfl
  -- With this bound the run fails as soon as it goes from the node to another one.
  rw [normalizeIn, hkind, CanonM.bind_apply, hget]
  cases hmemo : s.memo.lookup type with
  | some id =>
    simp only [hmemo]
    cases register with
    | false => exact ⟨id, s, rfl, rfl⟩
    | true => exact ⟨id, s.registerAlias id, rfl, kinds_registerAlias id s⟩
  | none =>
    simp only [hmemo, CanonM.bind_apply, hpure, hget]
    cases hfind : s.findNamed name with
    | some id => exact ⟨id, s.remember type id, rfl, rfl⟩
    | none => exact absurd h (not_knows_of_findNamed hfind)

/-! ### The table -/

/-- Each canonical type has a node of its own that it was made for. -/
theorem Valid.size_le (hs : s.Valid g) : s.size ≤ g.size := by
  choose origin horigin using fun id : Fin s.size => hs.origin id id.isLt
  have hlt : ∀ id, origin id < g.size := fun id => by
    obtain ⟨kind, hkind⟩ := TypeGraph.Unfolds.exists_node (horigin id)
    exact (Array.getElem?_eq_some_iff.1 hkind).1
  have hinjective : Function.Injective fun id => (⟨origin id, hlt id⟩ : Fin g.size) := by
    intro a b hab
    have hsame : origin a = origin b := congrArg Fin.val hab
    refine Fin.ext (hs.interned.eq_of_unfold_eq a.isLt b.isLt ?_)
    exact (horigin a).unique (hsame ▸ horigin b)
  simpa using Fintype.card_le_of_injective _ hinjective

end Session
end ScriptBind
