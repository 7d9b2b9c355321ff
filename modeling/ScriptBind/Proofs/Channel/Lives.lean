import ScriptBind.Proofs.Channel.Events
import Mathlib.Data.List.Pairwise

/-!
# ScriptBind.Proofs.Channel.Lives

Every bridge starts, stops and goes once, in this order, and no two bridges of one table share a
channel.

* `Life` - the events of one link, in the only order in which they occur.
* `Registered` - the invariant.
* `Turn` - what a step does to the tables.
* `Turn.registered`, `Boundary.Step.turn` - each step keeps the invariant.
* `Boundary.Run.registered` - so does a run.
-/

namespace ScriptBind

/-! ### Bridges that are kept apart -/

/-- Bridges of one table have no channel in common. -/
def Apart (bridges : List Bridge) : Prop := bridges.Pairwise fun x y => ¬ x.link.Meets y.link

/-- The bridge of a link. -/
def bridgeAt (bridges : List Bridge) (l : Link) : Option Bridge := bridges.find? (·.link = l)

theorem Link.Meets.symm {l l' : Link} (h : l.Meets l') : l'.Meets l :=
  ⟨h.1.symm, h.2.1.symm, h.2.2.imp Eq.symm Eq.symm⟩

theorem Link.meets_self (l : Link) : l.Meets l := ⟨rfl, rfl, .inl rfl⟩

section Apart

variable {bs bs' : List Bridge} {x y old new : Bridge} {l : Link} {i : Nat}

theorem Apart.index_eq {j : Nat} (h : Apart bs) (hi : bs[i]? = some x) (hj : bs[j]? = some y)
    (hm : x.link.Meets y.link) : i = j := by
  obtain ⟨hilt, rfl⟩ := List.getElem?_eq_some_iff.1 hi
  obtain ⟨hjlt, rfl⟩ := List.getElem?_eq_some_iff.1 hj
  have hpairs := List.pairwise_iff_getElem.1 h
  rcases Nat.lt_trichotomy i j with hij | hij | hij
  · exact absurd hm (hpairs i j hilt hjlt hij)
  · exact hij
  · exact absurd hm.symm (hpairs j i hjlt hilt hij)

theorem Apart.eq (h : Apart bs) (hx : x ∈ bs) (hy : y ∈ bs) (hm : x.link.Meets y.link) : x = y := by
  obtain ⟨i, hi⟩ := List.mem_iff_getElem?.1 hx
  obtain ⟨j, hj⟩ := List.mem_iff_getElem?.1 hy
  obtain rfl := h.index_eq hi hj hm
  exact Option.some.inj (hi.symm.trans hj)

theorem mem_of_bridgeAt (h : bridgeAt bs l = some x) : x ∈ bs ∧ x.link = l :=
  ⟨List.mem_of_find?_eq_some h, by simpa using List.find?_some h⟩

theorem bridgeAt_eq_none : bridgeAt bs l = none ↔ ∀ x ∈ bs, x.link ≠ l := by
  simp [bridgeAt]

theorem Apart.bridgeAt_eq (h : Apart bs) (hx : x ∈ bs) : bridgeAt bs x.link = some x := by
  cases hfind : bridgeAt bs x.link with
  | none => exact absurd rfl (bridgeAt_eq_none.1 hfind x hx)
  | some y =>
    obtain ⟨hy, hlink⟩ := mem_of_bridgeAt hfind
    rw [h.eq hy hx (hlink ▸ y.link.meets_self)]

theorem Apart.bridgeAt_congr (h' : Apart bs') (hmem : ∀ x, x.link = l → (x ∈ bs' ↔ x ∈ bs)) :
    bridgeAt bs' l = bridgeAt bs l := by
  cases hfind : bridgeAt bs l with
  | none =>
    rw [bridgeAt_eq_none] at hfind ⊢
    exact fun x hx hl => hfind x ((hmem x hl).1 hx) hl
  | some x =>
    obtain ⟨hx, rfl⟩ := mem_of_bridgeAt hfind
    exact h'.bridgeAt_eq ((hmem x rfl).2 hx)

theorem map_link_set (hold : bs[i]? = some old) (hlink : new.link = old.link) :
    (bs.set i new).map (·.link) = bs.map (·.link) := by
  obtain ⟨hi, rfl⟩ := List.getElem?_eq_some_iff.1 hold
  rw [List.map_set, hlink]
  exact List.ext_getElem (by simp) fun j _ _ => by
    rw [List.getElem_set]
    split
    · subst i; simp
    · rfl

theorem Apart.set (h : Apart bs) (hold : bs[i]? = some old) (hlink : new.link = old.link) :
    Apart (bs.set i new) := by
  have hmap (bs : List Bridge) :
      Apart bs ↔ (bs.map (·.link)).Pairwise fun l l' => ¬ l.Meets l' := by
    rw [List.pairwise_map, Apart]
  rw [hmap] at h ⊢
  rwa [map_link_set hold hlink]

theorem mem_set_iff (hold : bs[i]? = some old) (hlink : new.link = old.link)
    (hx : x.link ≠ old.link) : x ∈ bs.set i new ↔ x ∈ bs := by
  constructor
  · intro hmem
    refine (List.mem_or_eq_of_mem_set hmem).resolve_right ?_
    rintro rfl
    exact hx hlink
  · intro hmem
    obtain ⟨j, hj⟩ := List.mem_iff_getElem?.1 hmem
    have hij : i ≠ j := by
      rintro rfl
      exact hx (congrArg _ (Option.some.inj (hj.symm.trans hold)))
    exact List.mem_iff_getElem?.2 ⟨j, by rw [List.getElem?_set_ne hij, hj]⟩

theorem mem_eraseIdx_iff (h : Apart bs) (hold : bs[i]? = some old) :
    x ∈ bs.eraseIdx i ↔ x ∈ bs ∧ x.link ≠ old.link := by
  rw [List.mem_eraseIdx_iff_getElem?]
  constructor
  · rintro ⟨j, hji, hj⟩
    refine ⟨List.mem_iff_getElem?.2 ⟨j, hj⟩, fun hlink => hji ?_⟩
    exact h.index_eq hj hold (hlink ▸ x.link.meets_self)
  · rintro ⟨hmem, hx⟩
    obtain ⟨j, hj⟩ := List.mem_iff_getElem?.1 hmem
    refine ⟨j, ?_, hj⟩
    rintro rfl
    exact hx (congrArg _ (Option.some.inj (hj.symm.trans hold)))

end Apart

/-! ### The invariant -/

/-- What the worker of a bridge saw closed, and what it closed before it stopped. -/
def Boundary.Closing (b : Boundary) (x : Bridge) : Prop :=
  match x.worker.mode with
  | .drainingNative => b.NativeClosed x.native
  | .drainingScript => b.OutgoingClosed x.script
  | .stopped => x.worker.isFree ∧ b.Closed x.link
  | _ => True

/-- The events of a link, with its bridge. -/
inductive Life (l : Link) : List Event → Option Bridge → Prop
  | unknown : Life l [] none
  | active {x : Bridge} (h : x.worker.mode ≠ .stopped) : Life l [.started l] (some x)
  | terminated {x : Bridge} (h : x.worker.mode = .stopped) :
      Life l [.started l, .stopped l] (some x)
  | gone : Life l [.started l, .stopped l, .removed l] none

structure Registered (events : List Event) (b : Boundary) : Prop where
  apart : Apart b.bridges
  known : ∀ l, .started l ∈ events → l.native < b.natives.size ∧ l.script < b.scripts.size
  closing : ∀ x ∈ b.bridges, b.Closing x
  life : ∀ l, Life l (history l events) (bridgeAt b.bridges l)
  closed : ∀ l, .stopped l ∈ events → b.Closed l

/-- What a step does to the tables. -/
inductive Turn (b : Boundary) : List Event → Boundary → Prop
  | same {b' : Boundary} (h : b'.bridges = b.bridges) : Turn b [] b'
  | opened {b' : Boundary} {x : Bridge} (h : b'.bridges = b.bridges ++ [x])
      (hstart : x.worker = .start) (hnative : x.native < b'.natives.size)
      (hscript : x.script < b'.scripts.size)
      (hnew : b.natives.size ≤ x.native ∨ b.scripts.size ≤ x.script)
      (hfree : ∀ y ∈ b.bridges, ¬ y.link.Meets x.link) : Turn b [.started x.link] b'
  | worked {b' : Boundary} {i : Nat} {old new : Bridge} (hold : b.bridges[i]? = some old)
      (h : b'.bridges = b.bridges.set i new) (hlink : new.link = old.link)
      (hclosing : b'.Closing new) (hactive : old.worker.mode ≠ .stopped) :
      Turn b (if new.worker.mode = .stopped then [.stopped old.link] else []) b'
  | removed {b' : Boundary} {i : Nat} {old : Bridge} (hold : b.bridges[i]? = some old)
      (h : b'.bridges = b.bridges.eraseIdx i) (hmode : old.worker.mode = .stopped) :
      Turn b [.removed old.link] b'

section Invariant

variable {lib : Library} {b b' : Boundary} {events new : List Event} {l : Link} {x : Bridge}

theorem Boundary.Later.closing (h : b.Later b') (hx : b.Closing x) : b'.Closing x := by
  rw [Boundary.Closing] at hx ⊢
  split at hx
  · exact h.native _ hx
  · exact h.outgoing _ hx
  · exact ⟨hx.1, h.closed hx.2⟩
  · trivial

theorem mem_history {e : Event} : e ∈ history l events ↔ e ∈ events ∧ e.link = l := by
  simp [history]

theorem history_append (l : Link) (events new : List Event) :
    history l (events ++ new) = history l events ++ history l new :=
  List.filter_append _ _

theorem history_self {e : Event} (h : e.link = l) : history l [e] = [e] := by
  simp [history, h]

theorem history_other {e : Event} (h : e.link ≠ l) : history l [e] = [] := by
  simp [history, h]

/-- What is registered has started. -/
theorem Registered.started_of_bridgeAt (h : Registered events b)
    (hx : bridgeAt b.bridges l = some x) : .started l ∈ events := by
  have hlife := h.life l
  rw [hx] at hlife
  refine (mem_history (l := l)).1 ?_ |>.1
  generalize history l events = evs at hlife
  cases hlife <;> simp

theorem Registered.history_eq_nil (h : Registered events b)
    (hnew : b.natives.size ≤ l.native ∨ b.scripts.size ≤ l.script) : history l events = [] := by
  have hmem : .started l ∉ history l events := by
    intro hmem
    have hknown := h.known l (mem_history.1 hmem).1
    omega
  have hlife := h.life l
  generalize history l events = evs, bridgeAt b.bridges l = found at hlife hmem
  cases hlife with
  | unknown => rfl
  | _ => exact absurd (by simp) hmem

theorem Registered.bridge_lt (h : Registered events b) (hx : x ∈ b.bridges) :
    x.native < b.natives.size ∧ x.script < b.scripts.size :=
  h.known x.link (h.started_of_bridgeAt (h.apart.bridgeAt_eq hx))

/-- Nothing is new for a link whose bridge is the same. -/
theorem Registered.life_elsewhere {bs' : List Bridge} (hr : Registered events b)
    (hapart : Apart bs') (hnew : history l new = [])
    (hmem : ∀ x, x.link = l → (x ∈ bs' ↔ x ∈ b.bridges)) :
    Life l (history l (events ++ new)) (bridgeAt bs' l) := by
  rw [history_append, hnew, List.append_nil, hapart.bridgeAt_congr hmem]
  exact hr.life l

section Later

variable (hr : Registered events b) (hlater : b.Later b')

include hr hlater

theorem Registered.known_later (hl : .started l ∈ events) :
    l.native < b'.natives.size ∧ l.script < b'.scripts.size :=
  ⟨Nat.lt_of_lt_of_le (hr.known l hl).1 hlater.natives,
    Nat.lt_of_lt_of_le (hr.known l hl).2 hlater.scripts⟩

theorem Registered.opened (h : b'.bridges = b.bridges ++ [x]) (hstart : x.worker = .start)
    (hnative : x.native < b'.natives.size) (hscript : x.script < b'.scripts.size)
    (hnew : b.natives.size ≤ x.native ∨ b.scripts.size ≤ x.script)
    (hfree : ∀ y ∈ b.bridges, ¬ y.link.Meets x.link) :
    Registered (events ++ [.started x.link]) b' := by
  have hapart : Apart b'.bridges := by
    rw [h]
    exact List.pairwise_append.2 ⟨hr.apart, List.pairwise_singleton _ _, by simpa using hfree⟩
  refine ⟨hapart, fun l hl => ?_, fun y hy => ?_, fun l => ?_, fun l hl => ?_⟩
  · rcases List.mem_append.1 hl with hl | hl
    · exact hr.known_later hlater hl
    · cases List.mem_singleton.1 hl
      exact ⟨hnative, hscript⟩
  · rw [h] at hy
    rcases List.mem_append.1 hy with hy | hy
    · exact hlater.closing (hr.closing y hy)
    · cases List.mem_singleton.1 hy
      rw [Boundary.Closing, hstart]
      trivial
  · by_cases hl : x.link = l
    · subst hl
      rw [history_append, hr.history_eq_nil hnew, history_self (l := x.link) rfl,
        hapart.bridgeAt_eq (by rw [h]; simp)]
      exact .active (by rw [hstart]; simp [Worker.start])
    · refine hr.life_elsewhere hapart (history_other (e := .started x.link) hl) fun y hy => ?_
      rw [h, List.mem_append, List.mem_singleton, or_iff_left]
      rintro rfl
      exact hl hy
  · exact hlater.closed (hr.closed l (by simpa using hl))

theorem Registered.worked {i : Nat} {y : Bridge} (hold : b.bridges[i]? = some x)
    (h : b'.bridges = b.bridges.set i y) (hlink : y.link = x.link) (hclosing : b'.Closing y)
    (hactive : x.worker.mode ≠ .stopped) :
    Registered (events ++ if y.worker.mode = .stopped then [.stopped x.link] else []) b' := by
  have hmem : x ∈ b.bridges := List.mem_of_getElem? hold
  have hapart : Apart b'.bridges := h ▸ hr.apart.set hold hlink
  have hy : y ∈ b'.bridges := by
    rw [h]
    exact List.mem_iff_getElem?.2 ⟨i, List.getElem?_set_self (List.getElem?_eq_some_iff.1 hold).1⟩
  refine ⟨hapart, fun l hl => ?_, fun z hz => ?_, fun l => ?_, fun l hl => ?_⟩
  · refine hr.known_later hlater ((List.mem_append.1 hl).resolve_right ?_)
    split <;> simp
  · rw [h] at hz
    rcases List.mem_or_eq_of_mem_set hz with hz | rfl
    · exact hlater.closing (hr.closing z hz)
    · exact hclosing
  · by_cases hl : x.link = l
    · subst hl
      rw [history_append, ← hlink, hapart.bridgeAt_eq hy, hlink]
      have hlife := hr.life x.link
      rw [hr.apart.bridgeAt_eq hmem] at hlife
      generalize history x.link events = evs at hlife
      cases hlife with
      | terminated hmode => exact absurd hmode hactive
      | active =>
        split
        · rw [history_self (l := x.link) rfl]
          exact .terminated ‹_›
        · exact .active ‹_›
    · refine hr.life_elsewhere hapart ?_ fun z hz => ?_
      · split
        · exact history_other hl
        · rfl
      · rw [h]
        exact mem_set_iff hold hlink fun hz' => hl (hz'.symm.trans hz)
  · rcases List.mem_append.1 hl with hl | hl
    · exact hlater.closed (hr.closed l hl)
    · split at hl
      · cases List.mem_singleton.1 hl
        simp only [Boundary.Closing, ‹y.worker.mode = .stopped›] at hclosing
        exact hlink ▸ hclosing.2
      · cases hl

theorem Registered.removed {i : Nat} (hold : b.bridges[i]? = some x)
    (h : b'.bridges = b.bridges.eraseIdx i) (hmode : x.worker.mode = .stopped) :
    Registered (events ++ [.removed x.link]) b' := by
  have hmem : x ∈ b.bridges := List.mem_of_getElem? hold
  have hiff (y : Bridge) : y ∈ b'.bridges ↔ y ∈ b.bridges ∧ y.link ≠ x.link := by
    rw [h, mem_eraseIdx_iff hr.apart hold]
  have hapart : Apart b'.bridges := h ▸ hr.apart.sublist (List.eraseIdx_sublist _ _)
  refine ⟨hapart, fun l hl => ?_, fun y hy => ?_, fun l => ?_, fun l hl => ?_⟩
  · exact hr.known_later hlater (by simpa using hl)
  · exact hlater.closing (hr.closing y ((hiff y).1 hy).1)
  · by_cases hl : x.link = l
    · subst hl
      have hnone : bridgeAt b'.bridges x.link = none :=
        bridgeAt_eq_none.2 fun y hy => ((hiff y).1 hy).2
      have hlife := hr.life x.link
      rw [hr.apart.bridgeAt_eq hmem] at hlife
      rw [history_append, hnone, history_self (l := x.link) rfl]
      generalize history x.link events = evs at hlife
      cases hlife with
      | active hactive => exact absurd hmode hactive
      | terminated => exact .gone
    · refine hr.life_elsewhere hapart (history_other (e := .removed x.link) hl) fun y hy => ?_
      rw [hiff, and_iff_left]
      exact fun hy' => hl (hy'.symm.trans hy)
  · exact hlater.closed (hr.closed l (by simpa using hl))

theorem Turn.registered (h : Turn b new b') : Registered (events ++ new) b' := by
  cases h with
  | same h =>
    rw [List.append_nil]
    refine ⟨h ▸ hr.apart, fun l => hr.known_later hlater,
      fun x hx => hlater.closing (hr.closing x (h ▸ hx)), ?_,
      fun l hl => hlater.closed (hr.closed l hl)⟩
    rw [h]
    exact hr.life
  | opened h hstart hnative hscript hnew hfree =>
    exact hr.opened hlater h hstart hnative hscript hnew hfree
  | worked hold h hlink hclosing hactive => exact hr.worked hlater hold h hlink hclosing hactive
  | removed hold h hmode => exact hr.removed hlater hold h hmode

end Later

end Invariant

/-! ### What each step does -/

namespace Boundary

variable {lib : Library} {b b' : Boundary} {e : ShapeId} {d : ChanDir}

theorem serves_iff {x : Bridge} : x.serves e d ↔ x.element = e ∧ x.direction = d := by
  simp [Bridge.serves]

theorem find?_bridgesOf_eq_some {p : Bridge → Bool} {x : Bridge}
    (h : (b.bridgesOf e d).find? p = some x) :
    x ∈ b.bridges ∧ x.element = e ∧ x.direction = d ∧ p x := by
  obtain ⟨hx, hserves⟩ := List.mem_filter.1 (List.mem_of_find?_eq_some h)
  obtain ⟨he, hd⟩ := serves_iff.1 hserves
  exact ⟨hx, he, hd, List.find?_some h⟩

theorem find?_bridgesOf_eq_none {p : Bridge → Bool} (h : (b.bridgesOf e d).find? p = none)
    {x : Bridge} (hx : x ∈ b.bridges) (he : x.element = e) (hd : x.direction = d) : ¬ p x :=
  List.find?_eq_none.1 h x (List.mem_filter.2 ⟨hx, serves_iff.2 ⟨he, hd⟩⟩)

theorem scriptSide_cases (b : Boundary) (e : ShapeId) (d : ChanDir) (n : Nat) :
    (∃ x ∈ b.bridges, x.link = ⟨e, d, n, x.script⟩ ∧ b.scriptSide e d n = (x.script, b)) ∨
      (∀ x ∈ b.bridges, x.element = e → x.direction = d → x.native ≠ n) ∧
        b.scriptSide e d n = (b.scripts.size, b.newScript.2.addBridge e d n b.scripts.size) := by
  rw [scriptSide]
  cases hfind : (b.bridgesOf e d).find? (·.native = n) with
  | none =>
    right
    exact ⟨fun x hx he hd => by simpa using find?_bridgesOf_eq_none hfind hx he hd, rfl⟩
  | some x =>
    left
    obtain ⟨hx, rfl, rfl, hn⟩ := find?_bridgesOf_eq_some hfind
    obtain rfl : x.native = n := of_decide_eq_true hn
    exact ⟨x, hx, rfl, rfl⟩

theorem nativeSide_cases (b : Boundary) (e : ShapeId) (d : ChanDir) (k : Nat) :
    (∃ x ∈ b.bridges, x.link = ⟨e, d, x.native, k⟩ ∧ b.nativeSide e d k = (x.native, b)) ∨
      (∀ x ∈ b.bridges, x.element = e → x.direction = d → x.script ≠ k) ∧
        b.nativeSide e d k =
          (b.natives.size, (b.newNative none).2.addBridge e d b.natives.size k) := by
  rw [nativeSide]
  cases hfind : (b.bridgesOf e d).find? (·.script = k) with
  | none =>
    right
    exact ⟨fun x hx he hd => by simpa using find?_bridgesOf_eq_none hfind hx he hd, rfl⟩
  | some x =>
    left
    obtain ⟨hx, rfl, rfl, hk⟩ := find?_bridgesOf_eq_some hfind
    obtain rfl : x.script = k := of_decide_eq_true hk
    exact ⟨x, hx, rfl, rfl⟩

theorem startedBy_self : b.startedBy b = [] := by
  simp [startedBy]

theorem startedBy_of_eq_concat {x : Bridge} (h : b'.bridges = b.bridges ++ [x]) :
    b.startedBy b' = [.started x.link] := by
  simp [startedBy, h]

section Worked

variable {i : Nat} {bridge : Bridge} {c : Chan NativeValue} {s : ScriptChan} {p : Pairing}

theorem later_worked (hc : b.natives[bridge.native]? = some c)
    (hs : b.scripts[bridge.script]? = some s) (hlink : p.bridge.link = bridge.link)
    (hn : c.closed = true → p.ends.native.closed = true)
    (hout : s.outgoing.closed = true → p.ends.script.outgoing.closed = true)
    (hin : s.incoming.closed = true → p.ends.script.incoming.closed = true) :
    b.Later (b.worked i p) := by
  have hnative : p.bridge.native = bridge.native := congrArg Link.native hlink
  have hscript : p.bridge.script = bridge.script := congrArg Link.script hlink
  have hfirst : b.Later (b.setNative p.bridge.native p.ends.native) :=
    later_setNative (by rw [hnative, hc]) hn
  have hsecond : (b.setNative p.bridge.native p.ends.native).Later
      ((b.setNative p.bridge.native p.ends.native).setScript p.bridge.script p.ends.script) :=
    later_setScript (by rw [setNative, hscript, hs]) hout hin
  exact (hfirst.trans hsecond).trans (.of_eq rfl rfl)

theorem nativeClosed_iff (hc : b.natives[i]? = some c) : b.NativeClosed i ↔ c.closed = true := by
  simp [NativeClosed, hc]

theorem outgoingClosed_iff (hs : b.scripts[i]? = some s) :
    b.OutgoingClosed i ↔ s.outgoing.closed = true := by
  simp [OutgoingClosed, hs]

theorem incomingClosed_iff (hs : b.scripts[i]? = some s) :
    b.IncomingClosed i ↔ s.incoming.closed = true := by
  simp [IncomingClosed, hs]

theorem closing_iff (reports : List ConversionError) (hc : b.natives[bridge.native]? = some c)
    (hs : b.scripts[bridge.script]? = some s) :
    b.Closing bridge ↔ (⟨bridge, ⟨c, s⟩, reports⟩ : Pairing).Closing := by
  cases hmode : bridge.worker.mode <;>
    simp [Closing, Pairing.Closing, Pairing.worker, hmode, Closed, Bridge.link,
      nativeClosed_iff hc, outgoingClosed_iff hs, incomingClosed_iff hs]

theorem closing_worked (hc : b.natives[bridge.native]? = some c)
    (hs : b.scripts[bridge.script]? = some s) (hlink : p.bridge.link = bridge.link)
    (hp : p.Closing) : (b.worked i p).Closing p.bridge := by
  have hnative : (b.worked i p).natives[p.bridge.native]? = some p.ends.native := by
    have hsame : p.bridge.native = bridge.native := congrArg Link.native hlink
    exact Array.getElem?_setIfInBounds_self_of_lt (hsame ▸ (Array.getElem?_eq_some_iff.1 hc).1)
  have hscript : (b.worked i p).scripts[p.bridge.script]? = some p.ends.script := by
    have hsame : p.bridge.script = bridge.script := congrArg Link.script hlink
    exact Array.getElem?_setIfInBounds_self_of_lt (hsame ▸ (Array.getElem?_eq_some_iff.1 hs).1)
  exact (closing_iff p.reports hnative hscript).2 hp

end Worked

theorem Step.later {new : List Event} (h : Step lib b new b') : b.Later b' := by
  cases h with
  | newNative => exact later_newNative _
  | newScript => exact later_newScript
  | @scriptSide e d n =>
    rcases b.scriptSide_cases e d n with ⟨x, _, _, heq⟩ | ⟨_, heq⟩ <;> rw [heq]
    · exact .of_eq rfl rfl
    · exact later_newScript.trans (.of_eq rfl rfl)
  | @nativeSide e d k =>
    rcases b.nativeSide_cases e d k with ⟨x, _, _, heq⟩ | ⟨_, heq⟩ <;> rw [heq]
    · exact .of_eq rfl rfl
    · exact (later_newNative none).trans (.of_eq rfl rfl)
  | useNative hc h => exact later_setNative hc h.closed
  | useScript hs h => exact later_setScript hs h.outgoing_closed h.incoming_closed
  | works hbridge hc hs h =>
    have hchange := h.change
    exact later_worked hc hs (by rw [hchange.bridge]; rfl) hchange.native_closed
      hchange.outgoing_closed hchange.incoming_closed
  | hands hbridge hc hs h =>
    exact later_worked hc hs (by rw [h.bridge_eq]; rfl) (by rw [h.ends_eq]; exact id)
      (by rw [h.ends_eq]; exact id) (by rw [h.ends_eq]; exact id)
  | remove => exact .of_eq rfl rfl

theorem Step.turn {events new : List Event} (h : Step lib b new b') (hr : Registered events b) :
    Turn b new b' := by
  cases h with
  | newNative => exact .same rfl
  | newScript => exact .same rfl
  | @scriptSide e d n hn =>
    rcases b.scriptSide_cases e d n with ⟨x, _, _, heq⟩ | ⟨hnone, heq⟩ <;> rw [heq]
    · rw [startedBy_self]
      exact .same rfl
    · rw [startedBy_of_eq_concat rfl]
      refine .opened rfl rfl hn (size_newScript b ▸ Nat.lt_succ_self _) (.inr (Nat.le_refl _)) ?_
      rintro y hy ⟨he, hd, hmeets | hmeets⟩
      · exact hnone y hy he hd hmeets
      · exact Nat.ne_of_lt (hr.bridge_lt hy).2 hmeets
  | @nativeSide e d k hk =>
    rcases b.nativeSide_cases e d k with ⟨x, _, _, heq⟩ | ⟨hnone, heq⟩ <;> rw [heq]
    · rw [startedBy_self]
      exact .same rfl
    · rw [startedBy_of_eq_concat rfl]
      refine .opened rfl rfl (size_newNative b none ▸ Nat.lt_succ_self _) hk
        (.inl (Nat.le_refl _)) ?_
      rintro y hy ⟨he, hd, hmeets | hmeets⟩
      · exact Nat.ne_of_lt (hr.bridge_lt hy).1 hmeets
      · exact hnone y hy he hd hmeets
  | useNative => exact .same rfl
  | useScript => exact .same rfl
  | @works i bridge c s m p hbridge hc hs h =>
    have hlink : p.bridge.link = bridge.link := by rw [h.change.bridge]; rfl
    have hp := (closing_iff b.reports hc hs).1 (hr.closing _ (List.mem_of_getElem? hbridge))
    obtain ⟨hp', hactive, hiff⟩ := h.closing hp
    have hstopped : stoppedBy bridge m =
        if p.bridge.worker.mode = .stopped then [.stopped bridge.link] else [] := by
      split
      · rw [hiff.1 ‹_›]
        rfl
      · cases m with
        | finish => exact absurd (hiff.2 rfl) ‹_›
        | _ => rfl
    rw [hstopped]
    exact .worked hbridge rfl hlink (closing_worked hc hs hlink hp') hactive
  | @hands i bridge c s p hbridge hc hs h =>
    have hlink : p.bridge.link = bridge.link := by rw [h.bridge_eq]; rfl
    have hp := (closing_iff b.reports hc hs).1 (hr.closing _ (List.mem_of_getElem? hbridge))
    obtain ⟨hp', hactive, hmode⟩ := h.closing hp
    have hturn : Turn b (if p.bridge.worker.mode = .stopped then [.stopped bridge.link] else [])
        (b.worked i p) := .worked hbridge rfl hlink (closing_worked hc hs hlink hp') hactive
    rwa [if_neg (show p.bridge.worker.mode ≠ .stopped from hmode)] at hturn
  | remove hbridge hstopped => exact .removed hbridge rfl hstopped

theorem Run.registered {b₀ : Boundary} {events new : List Event} (hrun : Run lib b₀ new b)
    (hr : Registered events b₀) : Registered (events ++ new) b := by
  induction hrun with
  | nil => rwa [List.append_nil]
  | snoc _ hstep ih =>
    rw [← List.append_assoc]
    exact (hstep.turn ih).registered ih hstep.later

end Boundary

end ScriptBind
