import ScriptBind.Canon.Indexed
import ScriptBind.Proofs.Canon.Steps

/-!
# ScriptBind.Proofs.Canon.Indexed

An indexed session does what a session does that goes through its table.

* `Indexed.Sound` - the indices find what going through the table finds.
* `Indexed.Sound.intern`, `Indexed.Sound.reserve`, `Indexed.Sound.setUnderlying` - each way to
  change the table keeps them so.
* `Indexed.Agrees` - two steps, one with indices and one without, do the same.
* `Indexed.agrees_normalizeIn` - to normalize a node is one, by induction on the bound.
-/

namespace ScriptBind

/-! ### Going through the table -/

namespace Session

variable {s : Session} {name : String} {id : CanonId} {before : Option CanonId}

/-- What a change of an underlying type does not show. -/
theorem findIdx?_setUnderlying {p : CanonKind → Bool} {underlying : CanonId}
    (hid : s.kind? id = some (.named name before))
    (hp : p (.named name (some underlying)) = p (.named name before)) :
    (s.setUnderlying id name underlying).kinds.findIdx? p = s.kinds.findIdx? p := by
  have hmap : (s.setUnderlying id name underlying).kinds.map p = s.kinds.map p := by
    refine Array.ext_getElem? fun i => ?_
    have hkind := kind?_setUnderlying hid underlying i
    rw [Array.getElem?_map, Array.getElem?_map, ← kind?, ← kind?, hkind]
    by_cases hi : i = id
    · rw [if_pos hi, hi, hid, Option.map_some, Option.map_some, hp]
    · rw [if_neg hi]
  have hfind := congrArg (Array.findIdx? fun b => b) hmap
  rwa [Array.findIdx?_map, Array.findIdx?_map] at hfind

theorem isNamed_of_not_isNominal {kind : CanonKind} (h : kind.isNominal = false) (name : String) :
    isNamed name kind = false := by
  cases kind with
  | named => cases h
  | _ => rfl

end Session

/-! ### Indices -/

namespace Indexed

variable {x : Indexed}

structure Sound (x : Indexed) : Prop where
  interned : ∀ kind, kind.isNominal = false →
    x.interned.lookup kind = x.session.kinds.findIdx? (· = kind)
  structural : ∀ p ∈ x.interned, p.1.isNominal = false
  names : ∀ name, x.names.lookup name = x.session.findNamed name

theorem sound_empty : empty.Sound where
  interned kind _ := by simp [empty, Session.empty]
  structural p hp := by simp [empty] at hp
  names name := by simp [empty, Session.findNamed, Session.empty]

namespace Sound

variable (h : x.Sound)

include h

theorem of_kinds_eq {s : Session} (hkinds : s.kinds = x.session.kinds) :
    Sound { x with session := s } where
  interned kind hkind := by
    rw [hkinds]
    exact h.interned kind hkind
  structural := h.structural
  names name := by
    rw [Session.findNamed, hkinds]
    exact h.names name

/-- An index gains exactly what the table gains. -/
theorem intern {kind : CanonKind} (hkind : kind.isNominal = false) :
    (x.intern kind).1.session = (x.session.intern kind).1 ∧
      (x.intern kind).2 = (x.session.intern kind).2 ∧ (x.intern kind).1.Sound := by
  have hlookup := h.interned kind hkind
  rw [Indexed.intern, Session.intern, ← hlookup]
  cases hfound : x.interned.lookup kind with
  | some id => exact ⟨rfl, rfl, h⟩
  | none =>
    refine ⟨rfl, rfl, fun other hother => ?_, ?_, fun name => ?_⟩
    · rw [List.lookup_cons, Array.findIdx?_push]
      by_cases heq : other = kind
      · rw [heq, ← hlookup, hfound]
        simp [Session.size]
      · have hne : kind ≠ other := fun h => heq h.symm
        rw [beq_false_of_ne heq, h.interned other hother]
        simp [hne]
    · exact List.forall_mem_cons.2 ⟨hkind, h.structural⟩
    · have hname := h.names name
      rw [Session.findNamed] at hname ⊢
      rw [Array.findIdx?_push, Session.isNamed_of_not_isNominal hkind]
      simpa using hname

theorem reserve (type : TypeId) {name : String} (hname : x.session.findNamed name = none) :
    (x.reserve type name).1.Sound where
  interned kind hkind := by
    show x.interned.lookup kind = (x.session.kinds.push (.named name none)).findIdx? (· = kind)
    have hne : CanonKind.named name none ≠ kind := by
      rintro rfl
      cases hkind
    rw [Array.findIdx?_push]
    simpa [hne] using h.interned kind hkind
  structural := h.structural
  names other := by
    show ((name, x.session.size) :: x.names).lookup other =
      (x.session.kinds.push (.named name none)).findIdx? (Session.isNamed other)
    rw [List.lookup_cons, Array.findIdx?_push, h.names other]
    by_cases heq : other = name
    · subst heq
      rw [Session.findNamed] at hname
      simp [hname, Session.isNamed, Session.size]
    · have hne : name ≠ other := fun h => heq h.symm
      rw [beq_false_of_ne heq]
      simp [hne, Session.findNamed, Session.isNamed]

theorem setUnderlying {id : CanonId} {name : String} {before : Option CanonId}
    (hid : x.session.kind? id = some (.named name before)) (underlying : CanonId) :
    Sound { x with session := x.session.setUnderlying id name underlying } where
  interned kind hkind := by
    have hnamed : ∀ v, decide (CanonKind.named name v = kind) = false := by
      intro v
      refine decide_eq_false ?_
      rintro rfl
      cases hkind
    rw [Session.findIdx?_setUnderlying hid (by rw [hnamed, hnamed])]
    exact h.interned kind hkind
  structural := h.structural
  names other := by
    rw [Session.findNamed, Session.findIdx?_setUnderlying hid rfl]
    exact h.names other

end Sound

/-! ### Steps -/

variable {α β : Type}

theorem bind_apply (m : IndexedM α) (k : α → IndexedM β) (x : Indexed) :
    (m >>= k) x =
      match m x with
      | (.ok a, x) => k a x
      | (.error e, x) => (.error e, x) := by
  simp only [Bind.bind, ExceptT.bind, ExceptT.mk, StateT.bind, ExceptT.bindCont]
  rcases m x with ⟨_ | _, _⟩ <;> rfl

/-- Taken from `x`, the step answers what `m'` answers and leaves the same session, also when it
fails. -/
structure Agrees (x : Indexed) (m : IndexedM α) (m' : CanonM α) : Prop where
  run_eq : m' x.session = ((m x).1, (m x).2.session)
  sound : (m x).2.Sound

namespace Agrees

variable {m : IndexedM α} {m' : CanonM α} {k : α → IndexedM β} {k' : α → CanonM β}

theorem pure (h : x.Sound) (a : α) : Agrees x (Pure.pure a) (Pure.pure a) := ⟨rfl, h⟩

theorem throw (h : x.Sound) (e : CanonError) :
    Agrees x (MonadExcept.throw e : IndexedM α) (MonadExcept.throw e) := ⟨rfl, h⟩

/-- The second step starts where the first one ends, in both runs, and what the first one keeps
holds there. -/
theorem bindKeeping {P : Session → Prop} (hm : Agrees x m m') (hP : CanonM.Preserves P m')
    (hx : P x.session) (hk : ∀ a y, y.Sound → P y.session → Agrees y (k a) (k' a)) :
    Agrees x (m >>= k) (m' >>= k') := by
  obtain ⟨hrun, hsound⟩ := hm
  have hkept := hP x.session hx
  have hleft := bind_apply m k x
  have hright := CanonM.bind_apply m' k' x.session
  rw [hrun] at hright hkept
  rcases hms : m x with ⟨e | a, y⟩
  · simp only [hms] at hleft hright hsound
    exact ⟨by rw [hleft, hright], by rwa [hleft]⟩
  · simp only [hms] at hleft hright hsound hkept
    obtain ⟨hrun', hsound'⟩ := hk a y hsound hkept
    exact ⟨by rw [hleft, hright, hrun'], by rwa [hleft]⟩

theorem bind (hm : Agrees x m m') (hk : ∀ a y, y.Sound → Agrees y (k a) (k' a)) :
    Agrees x (m >>= k) (m' >>= k') :=
  hm.bindKeeping (P := fun _ => True) (fun _ _ => trivial) trivial fun a y hy _ => hk a y hy

theorem get {k : Indexed → IndexedM β} {k' : Session → CanonM β}
    (h : Agrees x (k x) (k' x.session)) :
    Agrees x (MonadState.get >>= k) (MonadState.get >>= k') := ⟨h.run_eq, h.sound⟩

theorem set {y : Indexed} {s : Session} {k : PUnit → IndexedM β} {k' : PUnit → CanonM β}
    (hs : y.session = s) (h : Agrees y (k ⟨⟩) (k' ⟨⟩)) :
    Agrees x (MonadState.set y >>= k) (MonadState.set s >>= k') := by
  subst hs
  exact ⟨h.run_eq, h.sound⟩

theorem lift (h : x.Sound) (hkinds : (m' x.session).2.kinds = x.session.kinds) :
    Agrees x (Indexed.lift m') m' := ⟨rfl, h.of_kinds_eq hkinds⟩

theorem ite {p : Prop} [Decidable p] {n : IndexedM α} {n' : CanonM α} (hm : Agrees x m m')
    (hn : Agrees x n n') : Agrees x (if p then m else n) (if p then m' else n') := by
  by_cases h : p
  · rwa [if_pos h, if_pos h]
  · rwa [if_neg h, if_neg h]

theorem mapM {f : α → IndexedM β} {f' : α → CanonM β} (h : x.Sound) (items : List α)
    (hf : ∀ a ∈ items, ∀ y : Indexed, y.Sound → Agrees y (f a) (f' a)) :
    Agrees x (items.mapM f) (items.mapM f') := by
  induction items generalizing x with
  | nil => exact .pure h []
  | cons a rest ih =>
    rw [List.mapM_cons, List.mapM_cons]
    refine (hf a List.mem_cons_self x h).bind fun b y hy => ?_
    have hrest := ih hy fun a' ha' => hf a' (List.mem_cons_of_mem _ ha')
    exact hrest.bind fun bs z hz => .pure hz (b :: bs)

theorem internM (h : x.Sound) {kind : CanonKind} (hkind : kind.isNominal = false) :
    Agrees x (Indexed.internM kind) (Session.internM kind) := by
  obtain ⟨hsession, hid, hsound⟩ := h.intern hkind
  refine ⟨?_, hsound⟩
  show (Except.ok (x.session.intern kind).2, (x.session.intern kind).1) =
    (Except.ok (x.intern kind).2, (x.intern kind).1.session)
  rw [hsession, hid]

end Agrees

/-! ### Steps that leave the table alone -/

theorem agrees_node (h : x.Sound) (g : TypeGraph) (type : TypeId) :
    Agrees x (lift (Session.node g type)) (Session.node g type) :=
  .lift h (Session.preserves_node (P := fun s => s.kinds = x.session.kinds) g type x.session rfl)

theorem agrees_underlyingOf (h : x.Sound) (name : String) (body : CanonId) :
    Agrees x (lift (Session.underlyingOf name body)) (Session.underlyingOf name body) :=
  .lift h (Session.preserves_underlyingOf (P := fun s => s.kinds = x.session.kinds) name body
    x.session rfl)

theorem agrees_registerAlias (h : x.Sound) (id : CanonId) :
    Agrees x (lift (modify (Session.registerAlias id))) (modify (Session.registerAlias id)) :=
  .lift h (Session.kinds_registerAlias id x.session)

/-- The end of a call: the answer is remembered. -/
theorem agrees_remember (h : x.Sound) (type : TypeId) (id : CanonId) :
    Agrees x (do lift (modify fun s => s.remember type id); return id)
      (do modify fun s => s.remember type id; return id) :=
  (Agrees.lift h rfl).bind fun _ _ hy => .pure hy id

/-! ### Nodes -/

section Normal

variable {normal : TypeId → IndexedM CanonId} {normal' : TypeId → CanonM CanonId}
  (hnormal : ∀ type, ∀ y : Indexed, y.Sound → Agrees y (normal type) (normal' type))

include hnormal

theorem agrees_funcWith (h : x.Sound) (sig : FuncSig) :
    Agrees x (funcWith normal sig) (Session.funcWith normal' sig) := by
  -- the operands and what is made of them, with or without a receiver in front
  have hrest : ∀ (y : Indexed) (k : List CanonId → List CanonId → CanonFunc), y.Sound →
      Agrees y (do
        let params ← sig.params.mapM fun p => normal p.type
        let results ← sig.results.mapM fun r => normal r.type
        return k params results) (do
        let params ← sig.params.mapM fun p => normal' p.type
        let results ← sig.results.mapM fun r => normal' r.type
        return k params results) := fun y k hy =>
    (Agrees.mapM hy sig.params fun p _ => hnormal p.type).bind fun params z hz =>
      (Agrees.mapM hz sig.results fun r _ => hnormal r.type).bind fun results w hw =>
        .pure hw (k params results)
  rw [funcWith, Session.funcWith]
  cases sig.receiver with
  | none => exact hrest x (fun params results => ⟨params, results, sig.variadic, sig.typeParams⟩) h
  | some receiver =>
    let typeParams := if sig.typeParams.isEmpty then receiver.typeParams else sig.typeParams
    let withReceiver := fun first params results =>
      CanonFunc.mk (first :: params) results sig.variadic typeParams
    refine (hnormal receiver.type x h).bind fun first y hy => .ite (.get ?_) ?_
    · exact (Agrees.throw hy _).bind fun _ z hz => hrest z (withReceiver first) hz
    · exact hrest y (withReceiver first) hy

theorem agrees_methodsWith (h : x.Sound) (methods : List Method) :
    Agrees x (methodsWith normal methods) (Session.methodsWith normal' methods) := by
  have hmethods := Agrees.mapM h methods fun m _ y hy =>
    (agrees_funcWith hnormal hy m.sig).bind fun f z hz => .pure hz (CanonMethod.mk m.name f)
  exact hmethods.bind fun found y hy => .pure hy _

end Normal

theorem agrees_normalizeIn (g : TypeGraph) : ∀ (fuel : Nat) (register : Bool) (type : TypeId)
    (x : Indexed), x.Sound →
      Agrees x (normalizeIn g fuel register type) (Session.normalizeIn g fuel register type) := by
  intro fuel
  induction fuel with
  | zero =>
    intro register type x h
    exact .throw h _
  | succ fuel ih =>
    intro register type x h
    have hnormal := ih true
    rw [normalizeIn, Session.normalizeIn]
    refine .get ?_
    cases hmemo : x.session.memo.lookup type with
    | some id =>
      refine .ite ?_ (.pure h id)
      exact (agrees_registerAlias h id).bind fun _ y hy => .pure hy id
    | none =>
      have hdone := fun id (z : Indexed) (hz : z.Sound) => agrees_remember hz type id
      refine (agrees_node h g type).bind fun kind y hy => ?_
      cases kind with
      | slice element | array length element | pointer element | chan direction element =>
        exact (hnormal element y hy).bind fun _ z hz => (Agrees.internM hz rfl).bind hdone
      | map key value =>
        exact (hnormal key y hy).bind fun _ z hz => (hnormal value z hz).bind fun _ w hw =>
          (Agrees.internM hw rfl).bind hdone
      | func sig =>
        exact (agrees_funcWith hnormal hy sig).bind fun _ z hz =>
          (Agrees.internM hz rfl).bind hdone
      | interface methods =>
        cases methods with
        | nil => exact (Agrees.internM hy rfl).bind hdone
        | cons m rest =>
          exact (agrees_methodsWith hnormal hy (m :: rest)).bind fun _ z hz =>
            (Agrees.internM hz rfl).bind hdone
      | struct fields =>
        have hfields := Agrees.mapM hy fields fun f _ z hz =>
          (hnormal f.type z hz).bind fun id w hw => .pure hw (f.name, id)
        refine hfields.bind fun found z hz => .get ?_
        refine (Agrees.internM hz rfl).bind fun id w hw => ?_
        by_cases hregister : register = true
        · rw [if_pos hregister, if_pos hregister]
          exact (agrees_registerAlias hw id).bind fun _ v hv => hdone id v hv
        · rw [if_neg hregister, if_neg hregister]
          exact hdone id w hw
      | aliasOf _ target => exact (ih register target y hy).bind hdone
      | named name body _ =>
        refine .get ?_
        dsimp only
        rw [hy.names name]
        cases hfound : y.session.findNamed name with
        | some id => exact hdone id y hy
        | none =>
          have hz := hy.reserve type hfound
          refine .get (.set rfl ?_)
          cases body with
          | none => exact (Agrees.throw hz _).bind hdone
          | some body =>
            -- the entry waits until the end of the definition, whatever comes in between
            let id := (y.session.reserve type name).2
            let Waits : Session → Prop := fun s => s.kind? id = some (.named name none)
            have hstable : Session.Stable Waits := Session.stable_kind? id (.named name none)
            have hwaits : Waits (y.session.reserve type name).1 := Session.kind?_reserve type
            refine (agrees_node hz g body).bindKeeping (P := Waits) (Session.preserves_node g body)
              hwaits fun node w hw hwaits => ?_
            refine (ih _ body w hw).bindKeeping (hstable.normalizeIn g fuel _ body) hwaits
              fun found v hv hwaits => ?_
            refine (agrees_underlyingOf hv name found).bindKeeping
              (Session.preserves_underlyingOf name found) hwaits fun underlying u hu hwaits => ?_
            refine Agrees.bind ⟨rfl, hu.setUnderlying hwaits underlying⟩ fun _ t ht => ?_
            exact hdone id t ht
      | _ => exact (Agrees.internM hy rfl).bind hdone

end Indexed
end ScriptBind
