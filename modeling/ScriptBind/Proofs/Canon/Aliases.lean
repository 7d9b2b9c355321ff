import Mathlib.Data.List.Basic
import ScriptBind.Canon.Normalize

/-!
# ScriptBind.Proofs.Canon.Aliases

What is true of a session whatever it has normalized and wherever it has failed, and so what stands
among its aliases.

* `IsStructAlias` - the form of the names that are made from the fields of a struct.
* `Session.NamesStructs` - the structs of a session go by such names, and nothing else is an alias.
* `Session.Stable` - a property that each change of a session keeps.
* `CanonM.Congruence` - a relation between steps that passes from their parts to the whole.
* `CanonM.Congruence.normalizeIn` - one step of the recursion over a type, by cases on the node.
* `CanonM.Preserves` - a step that keeps a property.
* `Session.Stable.normalize` - to normalize a type is one, by induction on the bound.
-/

namespace ScriptBind

/-- Begins like the names made from the fields of a struct, and is one word. -/
def IsStructAlias (name : String) : Prop :=
  structAliasStem.toList <+: name.toList ∧ ' ' ∉ name.toList

theorem mem_of_lookup {α β : Type} [BEq α] [LawfulBEq α] {items : List (α × β)} {a : α} {b : β}
    (h : items.lookup a = some b) : (a, b) ∈ items := by
  obtain ⟨before, after, rfl, _⟩ := List.lookup_eq_some_iff.1 h
  simp

theorem lookup_eq_none_iff_not_mem {α β : Type} [BEq α] [LawfulBEq α] {items : List (α × β)}
    {a : α} : items.lookup a = none ↔ a ∉ items.map (·.1) := by
  rw [List.lookup_eq_none_iff]
  constructor
  · intro h hmem
    obtain ⟨p, hp, rfl⟩ := List.mem_map.1 hmem
    exact absurd (h p hp) (by simp)
  · intro h p hp
    exact bne_iff_ne.2 fun heq => h (heq ▸ List.mem_map_of_mem hp)

theorem mem_toDigits {c : Char} {n : Nat} (h : c ∈ Nat.toDigits 16 n) :
    ∃ d < 16, c = Nat.digitChar d := by
  induction n using Nat.strongRecOn with
  | _ n ih =>
    rw [Nat.toDigits_eq_if (by decide)] at h
    split at h
    · rename_i hlt
      exact ⟨n, hlt, List.mem_singleton.1 h⟩
    · rcases List.mem_append.1 h with h | h
      · exact ih (n / 16) (by omega) h
      · exact ⟨n % 16, Nat.mod_lt _ (by decide), List.mem_singleton.1 h⟩

theorem mem_hexPadded {c : Char} {width n : Nat} (h : c ∈ (Text.hexPadded width n).toList) :
    ∃ d < 16, c = Nat.digitChar d := by
  rw [Text.hexPadded, String.toList_ofList, List.mem_append] at h
  rcases h with h | h
  · exact ⟨0, by decide, List.eq_of_mem_replicate h⟩
  · exact mem_toDigits h

theorem blank_not_mem_hexPadded (width n : Nat) : ' ' ∉ (Text.hexPadded width n).toList := by
  intro hmem
  obtain ⟨d, _, hd⟩ := mem_hexPadded hmem
  exact Nat.digitChar_ne ' ' (by decide) hd.symm

theorem isStructAlias_structAlias (listing : String) : IsStructAlias (structAlias listing) := by
  constructor
  · rw [structAlias, String.toList_append]
    exact List.prefix_append _ _
  · simp [structAlias, structAliasStem, blank_not_mem_hexPadded]

namespace Session

structure NamesStructs (s : Session) : Prop where
  kinds : ∀ id aliasName fields, s.kind? id = some (.struct aliasName fields) →
    IsStructAlias aliasName
  aliases : ∀ p ∈ s.aliases, IsStructAlias p.1

theorem namesStructs_empty : empty.NamesStructs where
  kinds id aliasName fields h := by simp [kind?, empty] at h
  aliases p hp := by simp [empty] at hp

namespace NamesStructs

variable {s : Session} (h : s.NamesStructs)

include h

theorem push {kind : CanonKind}
    (hkind : ∀ aliasName fields, kind = .struct aliasName fields → IsStructAlias aliasName) :
    ({ s with kinds := s.kinds.push kind } : Session).NamesStructs where
  kinds id aliasName fields hid := by
    rw [kind?, Array.getElem?_push] at hid
    split at hid
    · exact hkind aliasName fields (Option.some.inj hid)
    · exact h.kinds id aliasName fields hid
  aliases := h.aliases

theorem intern {kind : CanonKind}
    (hkind : ∀ aliasName fields, kind = .struct aliasName fields → IsStructAlias aliasName) :
    (s.intern kind).1.NamesStructs := by
  rw [Session.intern]
  split
  · exact h
  · exact h.push hkind

theorem remember (type : TypeId) (id : CanonId) : (s.remember type id).NamesStructs :=
  ⟨h.kinds, h.aliases⟩

theorem reserve (type : TypeId) (name : String) : (s.reserve type name).1.NamesStructs :=
  (h.push fun _ _ hkind => by cases hkind).remember type _

theorem registerAlias (id : CanonId) : (s.registerAlias id).NamesStructs := by
  rw [Session.registerAlias]
  split
  · rename_i aliasName fields hid
    split
    · exact h
    · refine ⟨h.kinds, ?_⟩
      intro p hp
      rcases List.mem_append.1 hp with hp | hp
      · exact h.aliases p hp
      · rw [List.mem_singleton.1 hp]
        exact h.kinds id aliasName fields hid
  · exact h

theorem setUnderlying (id : CanonId) (name : String) (underlying : CanonId) :
    (s.setUnderlying id name underlying).NamesStructs where
  kinds i aliasName fields hi := by
    rw [kind?, Session.setUnderlying, Array.getElem?_setIfInBounds] at hi
    split at hi
    · split at hi <;> cases hi
    · exact h.kinds i aliasName fields hi
  aliases := h.aliases

theorem mem_sortedAliases {p : String × String} (hp : p ∈ s.sortedAliases) :
    IsStructAlias p.1 := by
  rw [sortedAliases, List.mem_mergeSort] at hp
  exact h.aliases p hp

end NamesStructs

/-- A property that each way to change a session keeps. The underlying type of a named type is set
in a later session than the one in which its name was reserved. -/
structure Stable (P : Session → Prop) : Prop where
  intern : ∀ s kind, P s →
    (∀ aliasName fields, kind = .struct aliasName fields → IsStructAlias aliasName) →
    P (s.intern kind).1
  remember : ∀ s type id, P s → P (s.remember type id)
  registerAlias : ∀ s id, P s → P (s.registerAlias id)
  reserve : ∀ s type name, P s → P (s.reserve type name).1
  setUnderlying : ∀ s s' type name underlying, P s → P s' →
    P (s'.setUnderlying (s.reserve type name).2 name underlying)

theorem stable_namesStructs : Stable NamesStructs where
  intern _ _ h := h.intern
  remember _ type id h := h.remember type id
  registerAlias _ id h := h.registerAlias id
  reserve _ type name h := h.reserve type name
  setUnderlying _ _ _ name underlying _ h := h.setUnderlying _ name underlying

end Session

/-! ### Steps -/

namespace CanonM

variable {α β : Type}

theorem bind_apply (m : CanonM α) (k : α → CanonM β) (s : Session) :
    (m >>= k) s =
      match m s with
      | (.ok a, s) => k a s
      | (.error e, s) => (.error e, s) := by
  simp only [Bind.bind, ExceptT.bind, ExceptT.mk, StateT.bind, ExceptT.bindCont]
  rcases m s with ⟨_ | _, _⟩ <;> rfl

/-- A relation between steps that passes from their parts to the whole, and that each change of a
session is related by to itself, unless it enters or completes a named type. -/
structure Congruence (R : ∀ {α : Type}, CanonM α → CanonM α → Prop) : Prop where
  pure : ∀ {α : Type} (a : α), R (Pure.pure a : CanonM α) (Pure.pure a)
  bind : ∀ {α β : Type} {m m' : CanonM α} {k k' : α → CanonM β}, R m m' →
    (∀ a, R (k a) (k' a)) → R (m >>= k) (m' >>= k')
  get : R (MonadState.get : CanonM Session) MonadState.get
  graph : ∀ {α : Type} (e : GraphError), R (throw (.graph e) : CanonM α) (throw (.graph e))
  conflicting : ∀ {α : Type} (receiver : String) (ofReceiver own : List String),
    R (throw (.conflictingTypeParams receiver ofReceiver own) : CanonM α)
      (throw (.conflictingTypeParams receiver ofReceiver own))
  internM : ∀ kind, (∀ aliasName fields, kind = .struct aliasName fields →
    IsStructAlias aliasName) → R (Session.internM kind) (Session.internM kind)
  registerAlias : ∀ id, R (modify (Session.registerAlias id)) (modify (Session.registerAlias id))
  remember : ∀ type id, R (modify fun s => s.remember type id) (modify fun s => s.remember type id)

end CanonM

namespace Session

/-- What `normalizeIn` does at the node of a named type, given what it does at others. -/
def normalizeNamed (g : TypeGraph) (normalIn : Bool → TypeId → CanonM CanonId) (type : TypeId)
    (name : String) (body : Option TypeId) : CanonM CanonId := do
  match (← get).findNamed name with
  | some id => pure id
  | none =>
    let (s, id) := (← get).reserve type name
    set s
    match body with
    | none => throw (.undefinedNamed name)
    | some body =>
      let direct := isStruct (← node g body)
      let found ← normalIn (!direct) body
      let underlying ← underlyingOf name found
      modify (setUnderlying id name underlying)
      pure id

/-- With what follows in each of the cases. -/
theorem normalizeNamed_bind {α : Type} (g : TypeGraph) (normalIn : Bool → TypeId → CanonM CanonId)
    (type : TypeId) (name : String) (body : Option TypeId) (k : CanonId → CanonM α) :
    normalizeNamed g normalIn type name body >>= k = (do
      match (← get).findNamed name with
      | some id => pure id >>= k
      | none =>
        let (s, id) := (← get).reserve type name
        set s
        match body with
        | none => throw (.undefinedNamed name) >>= k
        | some body =>
          let kind ← node g body
          let found ← normalIn (!isStruct kind) body
          let underlying ← underlyingOf name found
          modify (setUnderlying id name underlying)
          pure id >>= k) := by
  rw [normalizeNamed, bind_assoc]
  refine congrArg (get >>= ·) (funext fun s => ?_)
  cases s.findNamed name with
  | some id => rfl
  | none =>
    cases body <;> simp only [bind_assoc]

end Session

namespace CanonM.Congruence

open Session

variable {R : ∀ {α : Type}, CanonM α → CanonM α → Prop} (h : Congruence R) {α β : Type}

include h

theorem mapM {f f' : α → CanonM β} (hf : ∀ x, R (f x) (f' x)) (items : List α) :
    R (items.mapM f) (items.mapM f') := by
  induction items with
  | nil => exact h.pure _
  | cons x rest ih =>
    rw [List.mapM_cons, List.mapM_cons]
    exact h.bind (hf x) fun y => h.bind ih fun ys => h.pure _

theorem node (g : TypeGraph) (type : TypeId) : R (Session.node g type) (Session.node g type) := by
  rw [Session.node]
  split
  · exact h.pure _
  · exact h.graph _

section Normal

variable {normal normal' : TypeId → CanonM CanonId} (hnormal : ∀ type, R (normal type) (normal' type))

include hnormal

theorem funcWith (sig : FuncSig) :
    R (Session.funcWith normal sig) (Session.funcWith normal' sig) := by
  have hrest : ∀ k : List CanonId → List CanonId → CanonFunc, R
      (do
        let params ← sig.params.mapM fun p => normal p.type
        let results ← sig.results.mapM fun r => normal r.type
        return k params results)
      (do
        let params ← sig.params.mapM fun p => normal' p.type
        let results ← sig.results.mapM fun r => normal' r.type
        return k params results) := fun k =>
    h.bind (h.mapM (fun p : Param => hnormal p.type) _) fun params =>
      h.bind (h.mapM (fun r : Param => hnormal r.type) _) fun results => h.pure _
  rw [Session.funcWith, Session.funcWith]
  cases sig.receiver with
  | none => exact hrest _
  | some receiver =>
    refine h.bind (hnormal receiver.type) fun first => ?_
    cases !receiver.typeParams.isEmpty && !sig.typeParams.isEmpty with
    | true => exact h.bind h.get fun s => h.bind (h.conflicting _ _ _) fun _ => hrest _
    | false => exact hrest _

theorem methodsWith (methods : List Method) :
    R (Session.methodsWith normal methods) (Session.methodsWith normal' methods) :=
  h.bind (h.mapM (fun m : Method => h.bind (h.funcWith hnormal m.sig) fun _ => h.pure _) _)
    fun _ => h.pure _

end Normal

/-- One step further, given the relation at the parts of the node and, if the node is a named type,
at the way this is normalized. -/
theorem normalizeIn {g : TypeGraph} (fuel fuel' : Nat)
    (hin : ∀ register type, R (normalizeIn g fuel register type) (normalizeIn g fuel' register type))
    (register : Bool) (type : TypeId)
    (hnamed : ∀ name body, R (normalizeNamed g (normalizeIn g fuel) type name body)
      (normalizeNamed g (normalizeIn g fuel') type name body)) :
    R (normalizeIn g (fuel + 1) register type) (normalizeIn g (fuel' + 1) register type) := by
  have hnormal := hin true
  have hdone : ∀ id : CanonId, R
      (do
        modify fun s => s.remember type id
        return id)
      (do
        modify fun s => s.remember type id
        return id) :=
    fun id => h.bind (h.remember type id) fun _ => h.pure _
  rw [Session.normalizeIn, Session.normalizeIn]
  refine h.bind h.get fun s => ?_
  cases s.memo.lookup type with
  | some id =>
    cases register with
    | false => exact h.pure _
    | true => exact h.bind (h.registerAlias id) fun _ => h.pure _
  | none =>
    refine h.bind (h.node g type) fun kind => ?_
    cases kind with
    | slice element | array length element | pointer element | chan direction element =>
      exact h.bind (hnormal element) fun _ => h.bind (h.internM _ (by simp)) hdone
    | map key value =>
      exact h.bind (hnormal key) fun _ => h.bind (hnormal value) fun _ =>
        h.bind (h.internM _ (by simp)) hdone
    | func sig =>
      exact h.bind (h.funcWith hnormal sig) fun _ => h.bind (h.internM _ (by simp)) hdone
    | interface methods =>
      cases methods with
      | nil => exact h.bind (h.internM _ (by simp)) hdone
      | cons m rest =>
        exact h.bind (h.methodsWith hnormal (m :: rest)) fun _ =>
          h.bind (h.internM _ (by simp)) hdone
    | struct fields =>
      refine h.bind (h.mapM (fun f : Field => h.bind (hnormal f.type) fun _ => h.pure _) _)
        fun found => h.bind h.get fun s => ?_
      have halias : ∀ aliasName fields, CanonKind.struct (structAlias (s.fieldListing found)) found =
          .struct aliasName fields → IsStructAlias aliasName := by
        rintro aliasName fields ⟨⟩
        exact isStructAlias_structAlias _
      refine h.bind (h.internM _ halias) fun id => ?_
      cases register with
      | false => exact h.bind (h.pure _) hdone
      | true => exact h.bind (h.registerAlias id) fun _ => h.bind (h.pure _) hdone
    | aliasOf name target => exact h.bind (hin register target) hdone
    | named name body typeParams =>
      have hbind := h.bind (hnamed name body) hdone
      rw [normalizeNamed_bind, normalizeNamed_bind] at hbind
      exact hbind
    | _ => exact h.bind (h.internM _ (by simp)) hdone

end CanonM.Congruence

/-! ### Steps that keep a property -/

namespace CanonM

variable {α β : Type}

/-- Also when the step fails. -/
def Preserves (P : Session → Prop) (m : CanonM α) : Prop := ∀ s : Session, P s → P (m s).2

namespace Preserves

variable {P : Session → Prop}

theorem pure (a : α) : Preserves P (Pure.pure a) := fun _ h => h

theorem throw (e : CanonError) : Preserves P (MonadExcept.throw e : CanonM α) := fun _ h => h

theorem bind {m : CanonM α} {k : α → CanonM β} (hm : Preserves P m)
    (hk : ∀ a, Preserves P (k a)) : Preserves P (m >>= k) := by
  intro s h
  have hs := hm s h
  rw [bind_apply]
  rcases hrun : m s with ⟨e | a, s'⟩
  · rw [hrun] at hs
    exact hs
  · rw [hrun] at hs
    exact hk a s' hs

theorem get {k : Session → CanonM β} (hk : ∀ s, P s → Preserves P (k s)) :
    Preserves P (MonadState.get >>= k) :=
  fun s h => hk s h s h

theorem set {s : Session} (h : P s) : Preserves P (MonadState.set s : CanonM PUnit) :=
  fun _ _ => h

theorem modify {f : Session → Session} (hf : ∀ s, P s → P (f s)) :
    Preserves P (modify f : CanonM PUnit) :=
  fun s h => hf s h

end Preserves
end CanonM

namespace Session

open CanonM (Preserves)

variable {P : Session → Prop}

theorem preserves_node (g : TypeGraph) (type : TypeId) : Preserves P (node g type) := by
  rw [node]
  split
  · exact .pure _
  · exact .throw _

theorem preserves_underlyingOf (name : String) (body : CanonId) :
    Preserves P (underlyingOf name body) := by
  refine Preserves.get fun s h => ?_
  split
  · exact .pure _
  · exact .throw _
  · exact .pure _

namespace Stable

variable (hP : Stable P)

include hP

theorem congruence : CanonM.Congruence fun m _ => Preserves P m where
  pure := .pure
  bind := .bind
  get := fun _ h => h
  graph _ := .throw _
  conflicting _ _ _ := .throw _
  internM kind hkind := fun s h => hP.intern s kind h hkind
  registerAlias id := .modify fun s => hP.registerAlias s id
  remember type id := .modify fun s => hP.remember s type id

theorem normalizeNamed (g : TypeGraph) {normalIn : Bool → TypeId → CanonM CanonId}
    (hin : ∀ register type, Preserves P (normalIn register type)) (type : TypeId) (name : String)
    (body : Option TypeId) : Preserves P (Session.normalizeNamed g normalIn type name body) := by
  refine Preserves.get fun s _ => ?_
  split
  · exact .pure _
  · refine Preserves.get fun s h => (Preserves.set (hP.reserve s type name h)).bind fun _ => ?_
    split
    · exact .throw _
    · rename_i body
      refine (preserves_node g body).bind fun kind => (hin _ body).bind fun found => ?_
      refine (preserves_underlyingOf name found).bind fun underlying => ?_
      exact (Preserves.modify fun s' => hP.setUnderlying s s' type name underlying h).bind
        fun _ => .pure _

theorem normalizeIn (g : TypeGraph) : ∀ (fuel : Nat) (register : Bool) (type : TypeId),
    Preserves P (Session.normalizeIn g fuel register type) := by
  intro fuel
  induction fuel with
  | zero =>
    intro register type
    exact .throw _
  | succ fuel ih =>
    intro register type
    exact hP.congruence.normalizeIn fuel fuel ih register type (hP.normalizeNamed g ih type)

theorem normalize (g : TypeGraph) (type : TypeId) : Preserves P (Session.normalize g type) :=
  hP.normalizeIn g _ true type

end Stable

end Session
end ScriptBind
