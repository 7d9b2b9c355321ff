import ScriptBind.Proofs.Channel.Moves

/-!
# ScriptBind.Proofs.Channel.Events

What happens to the tables of bridges, while channels cross, are used and close, and workers move,
stop and go.

* `Link` - what a bridge connects, and in which table.
* `Boundary.Step`, `Boundary.Run` - what native code, scripts and workers do, in any order, with the
  events in which a bridge comes, stops or goes.
* `Boundary.Later` - channels stay, and stay closed.
* `Pairing.Closing` - what a worker has closed.
-/

namespace ScriptBind

structure Link where
  element : ShapeId
  direction : ChanDir
  native : Nat
  script : Nat
deriving DecidableEq, Repr

namespace Link

def keys (l : Link) : List ChanKey := [.native l.native, .script l.script]

/-- Both are in one table and have a channel in common. -/
def Meets (l l' : Link) : Prop :=
  l.element = l'.element ∧ l.direction = l'.direction ∧
    (l.native = l'.native ∨ l.script = l'.script)

end Link

def Bridge.link (b : Bridge) : Link := ⟨b.element, b.direction, b.native, b.script⟩

inductive Event where
  /-- A bridge is registered, and its worker starts. -/
  | started (link : Link)
  | stopped (link : Link)
  | removed (link : Link)
deriving DecidableEq, Repr

def Event.link : Event → Link
  | .started l => l
  | .stopped l => l
  | .removed l => l

/-- What happened to the bridge of a link. -/
def history (l : Link) (events : List Event) : List Event := events.filter (·.link = l)

def Live (events : List Event) (l : Link) : Prop := .started l ∈ events ∧ .removed l ∉ events

/-! ### Steps -/

inductive Chan.Uses {α : Type} (c : Chan α) : Chan α → Prop
  | send {v : α} {c' : Chan α} (h : c.send v = .accepted c') : Uses c c'
  | takeSent {v : α} {c' : Chan α} (h : c.takeSent = some (v, c')) : Uses c c'
  | takeDelivered {v : α} {c' : Chan α} (h : c.takeDelivered = some (v, c')) : Uses c c'
  | close : Uses c c.close.2

inductive ScriptChan.Uses (s : ScriptChan) : ScriptChan → Prop
  | send {v : Value} {c : Chan Value} (h : s.outgoing.send v = .accepted c) :
      Uses s { s with outgoing := c }
  | receive {v : Value} {c : Chan Value} (h : s.incoming.takeSent = some (v, c)) :
      Uses s { s with incoming := c }
  | close : Uses s { s with outgoing := s.outgoing.close.2 }

/-- On a channel without room a value goes from hand to hand. -/
inductive Pairing.Hands (lib : Library) : Pairing → Pairing → Prop
  | fromSender {p : Pairing} {v : NativeValue} {r : Except Stop Value}
      (hreads : p.worker.readsNative p.bridge.direction)
      (hr : (lib.toScript p.bridge.element v).MayGive r) :
      Hands lib p ((p.failed r).moved p.ends (p.worker.goOn .toScript r))
  | toReceiver {p : Pairing} {v : NativeValue} (hload : p.worker.load = .toNative v) :
      Hands lib p (p.moved p.ends { p.worker with load := .none })

namespace Boundary

/-- A worker moved on. -/
def worked (b : Boundary) (position : Nat) (p : Pairing) : Boundary :=
  { (b.setNative p.bridge.native p.ends.native).setScript p.bridge.script p.ends.script with
    bridges := b.bridges.set position p.bridge, reports := p.reports }

/-- A worker starts for each bridge that is new. -/
def startedBy (b b' : Boundary) : List Event :=
  (b'.bridges.drop b.bridges.length).map (.started ·.link)

def stoppedBy (bridge : Bridge) : Move → List Event
  | .finish => [.stopped bridge.link]
  | _ => []

inductive Step (lib : Library) (b : Boundary) : List Event → Boundary → Prop
  | newNative {capacity : Option Nat} : Step lib b [] (b.newNative capacity).2
  | newScript : Step lib b [] b.newScript.2
  | scriptSide {e : ShapeId} {d : ChanDir} {n : Nat} (hn : n < b.natives.size) :
      Step lib b (b.startedBy (b.scriptSide e d n).2) (b.scriptSide e d n).2
  | nativeSide {e : ShapeId} {d : ChanDir} {k : Nat} (hk : k < b.scripts.size) :
      Step lib b (b.startedBy (b.nativeSide e d k).2) (b.nativeSide e d k).2
  | useNative {i : Nat} {c c' : Chan NativeValue} (hc : b.natives[i]? = some c) (h : c.Uses c') :
      Step lib b [] (b.setNative i c')
  | useScript {i : Nat} {s s' : ScriptChan} (hs : b.scripts[i]? = some s) (h : s.Uses s') :
      Step lib b [] (b.setScript i s')
  | works {i : Nat} {bridge : Bridge} {c : Chan NativeValue} {s : ScriptChan} {m : Move}
      {p : Pairing} (hbridge : b.bridges[i]? = some bridge)
      (hc : b.natives[bridge.native]? = some c) (hs : b.scripts[bridge.script]? = some s)
      (h : Pairing.Works lib ⟨bridge, ⟨c, s⟩, b.reports⟩ m p) :
      Step lib b (stoppedBy bridge m) (b.worked i p)
  | hands {i : Nat} {bridge : Bridge} {c : Chan NativeValue} {s : ScriptChan} {p : Pairing}
      (hbridge : b.bridges[i]? = some bridge)
      (hc : b.natives[bridge.native]? = some c) (hs : b.scripts[bridge.script]? = some s)
      (h : Pairing.Hands lib ⟨bridge, ⟨c, s⟩, b.reports⟩ p) :
      Step lib b [] (b.worked i p)
  | remove {i : Nat} {bridge : Bridge} (hbridge : b.bridges[i]? = some bridge)
      (hstopped : bridge.worker.mode = .stopped) :
      Step lib b [.removed bridge.link] { b with bridges := b.bridges.eraseIdx i }

inductive Run (lib : Library) (b₀ : Boundary) : List Event → Boundary → Prop
  | nil : Run lib b₀ [] b₀
  | snoc {events new : List Event} {b b' : Boundary} (hrun : Run lib b₀ events b)
      (hstep : Step lib b new b') : Run lib b₀ (events ++ new) b'

end Boundary

/-! ### Channels stay, and stay closed -/

namespace Boundary

def NativeClosed (b : Boundary) (i : Nat) : Prop := ∃ c, b.natives[i]? = some c ∧ c.closed = true

def OutgoingClosed (b : Boundary) (i : Nat) : Prop :=
  ∃ s, b.scripts[i]? = some s ∧ s.outgoing.closed = true

def IncomingClosed (b : Boundary) (i : Nat) : Prop :=
  ∃ s, b.scripts[i]? = some s ∧ s.incoming.closed = true

/-- All three channels of a link are closed. -/
def Closed (b : Boundary) (l : Link) : Prop :=
  b.NativeClosed l.native ∧ b.OutgoingClosed l.script ∧ b.IncomingClosed l.script

structure Later (b b' : Boundary) : Prop where
  natives : b.natives.size ≤ b'.natives.size
  scripts : b.scripts.size ≤ b'.scripts.size
  native : ∀ i, b.NativeClosed i → b'.NativeClosed i
  outgoing : ∀ i, b.OutgoingClosed i → b'.OutgoingClosed i
  incoming : ∀ i, b.IncomingClosed i → b'.IncomingClosed i

variable {b b' b'' : Boundary}

theorem Later.of_eq (hn : b'.natives = b.natives) (hs : b'.scripts = b.scripts) : b.Later b' := by
  constructor <;> simp [NativeClosed, OutgoingClosed, IncomingClosed, hn, hs]

theorem Later.trans (h : b.Later b') (h' : b'.Later b'') : b.Later b'' :=
  ⟨Nat.le_trans h.natives h'.natives, Nat.le_trans h.scripts h'.scripts,
    fun i hi => h'.native i (h.native i hi),
    fun i hi => h'.outgoing i (h.outgoing i hi), fun i hi => h'.incoming i (h.incoming i hi)⟩

theorem Later.closed {l : Link} (h : b.Later b') (hl : b.Closed l) : b'.Closed l :=
  ⟨h.native _ hl.1, h.outgoing _ hl.2.1, h.incoming _ hl.2.2⟩

theorem getElem?_push_of_eq_some {α : Type} {xs : Array α} {i : Nat} {a x : α}
    (h : xs[i]? = some a) : (xs.push x)[i]? = some a := by
  obtain ⟨hi, _⟩ := Array.getElem?_eq_some_iff.1 h
  rw [Array.getElem?_push, if_neg (Nat.ne_of_lt hi), h]

theorem size_newNative (b : Boundary) (capacity : Option Nat) :
    (b.newNative capacity).2.natives.size = b.natives.size + 1 :=
  Array.size_push _

theorem size_newScript (b : Boundary) : b.newScript.2.scripts.size = b.scripts.size + 1 :=
  Array.size_push _

theorem later_newNative (capacity : Option Nat) : b.Later (b.newNative capacity).2 where
  natives := size_newNative b capacity ▸ Nat.le_succ _
  scripts := Nat.le_refl _
  native := fun _ ⟨c, hc, hclosed⟩ => ⟨c, getElem?_push_of_eq_some hc, hclosed⟩
  outgoing := fun _ h => h
  incoming := fun _ h => h

theorem later_newScript : b.Later b.newScript.2 where
  natives := Nat.le_refl _
  scripts := size_newScript b ▸ Nat.le_succ _
  native := fun _ h => h
  outgoing := fun _ ⟨s, hs, hclosed⟩ => ⟨s, getElem?_push_of_eq_some hs, hclosed⟩
  incoming := fun _ ⟨s, hs, hclosed⟩ => ⟨s, getElem?_push_of_eq_some hs, hclosed⟩

theorem getElem?_set_cases {α : Type} {xs : Array α} {i j : Nat} {a a' x : α}
    (hi : xs[i]? = some a) (hj : xs[j]? = some x) :
    (xs.setIfInBounds i a')[j]? = some a' ∧ x = a ∨ (xs.setIfInBounds i a')[j]? = some x := by
  obtain ⟨hlt, _⟩ := Array.getElem?_eq_some_iff.1 hi
  rw [Array.getElem?_setIfInBounds]
  by_cases hij : i = j
  · subst hij
    exact .inl ⟨by simp [hlt], Option.some.inj (hj.symm.trans hi)⟩
  · exact .inr (by rw [if_neg hij, hj])

theorem later_setNative {i : Nat} {c c' : Chan NativeValue} (hc : b.natives[i]? = some c)
    (h : c.closed = true → c'.closed = true) : b.Later (b.setNative i c') where
  natives := by simp [setNative]
  scripts := Nat.le_refl _
  native := fun j ⟨x, hx, hclosed⟩ => by
    rcases getElem?_set_cases hc hx with ⟨hset, rfl⟩ | hset
    · exact ⟨c', hset, h hclosed⟩
    · exact ⟨x, hset, hclosed⟩
  outgoing := fun _ h => h
  incoming := fun _ h => h

theorem later_setScript {i : Nat} {s s' : ScriptChan} (hs : b.scripts[i]? = some s)
    (hout : s.outgoing.closed = true → s'.outgoing.closed = true)
    (hin : s.incoming.closed = true → s'.incoming.closed = true) : b.Later (b.setScript i s') where
  natives := Nat.le_refl _
  scripts := by simp [setScript]
  native := fun _ h => h
  outgoing := fun j ⟨x, hx, hclosed⟩ => by
    rcases getElem?_set_cases hs hx with ⟨hset, rfl⟩ | hset
    · exact ⟨s', hset, hout hclosed⟩
    · exact ⟨x, hset, hclosed⟩
  incoming := fun j ⟨x, hx, hclosed⟩ => by
    rcases getElem?_set_cases hs hx with ⟨hset, rfl⟩ | hset
    · exact ⟨s', hset, hin hclosed⟩
    · exact ⟨x, hset, hclosed⟩

end Boundary

theorem Chan.Uses.closed {α : Type} {c c' : Chan α} (h : c.Uses c') (hc : c.closed = true) :
    c'.closed = true := by
  cases h with
  | send h => rw [(Chan.send_eq_accepted h).2]; exact hc
  | takeSent h => obtain ⟨_, _, rfl⟩ := Chan.takeSent_eq_some h; exact hc
  | takeDelivered h => obtain ⟨_, _, rfl⟩ := Chan.takeDelivered_eq_some h; exact hc
  | close => rfl

theorem ScriptChan.Uses.outgoing_closed {s s' : ScriptChan} (h : s.Uses s')
    (hs : s.outgoing.closed = true) : s'.outgoing.closed = true := by
  cases h with
  | send h => rw [(Chan.send_eq_accepted h).2]; exact hs
  | receive h => exact hs
  | close => rfl

theorem ScriptChan.Uses.incoming_closed {s s' : ScriptChan} (h : s.Uses s')
    (hs : s.incoming.closed = true) : s'.incoming.closed = true := by
  cases h with
  | send h => exact hs
  | receive h => obtain ⟨_, _, rfl⟩ := Chan.takeSent_eq_some h; exact hs
  | close => exact hs

/-! ### What a worker has closed -/

/-- What the worker saw closed, and what it closed before it stopped. -/
def Pairing.Closing (p : Pairing) : Prop :=
  match p.worker.mode with
  | .drainingNative => p.ends.native.closed = true
  | .drainingScript => p.ends.script.outgoing.closed = true
  | .stopped =>
    p.worker.isFree ∧ p.ends.native.closed = true ∧ p.ends.script.outgoing.closed = true ∧
      p.ends.script.incoming.closed = true
  | _ => True

namespace Pairing

variable {lib : Library} {p p' : Pairing} {m : Move}

theorem Closing.not_stopped (hp : p.Closing) (h : p.worker.isFree = false) :
    p.worker.mode ≠ .stopped := by
  intro hmode
  simp only [Closing, hmode] at hp
  exact Bool.false_ne_true (h.symm.trans hp.1)

theorem mode_goOn_ne {α : Type} {r : Except Stop α} {carry : α → Load} {w : Worker}
    (hmode : w.mode ≠ .stopped) : (w.goOn carry r).mode ≠ .stopped := by
  rcases r with (e | _) | as
  · exact hmode
  · simp [Worker.goOn]
  · exact hmode

theorem Closing.goOn {α : Type} {r : Except Stop α} {carry : α → Load} {ends : Ends}
    (hp : p.Closing) (hmode : p.worker.mode ≠ .stopped)
    (hn : ends.native.closed = p.ends.native.closed)
    (hout : ends.script.outgoing.closed = p.ends.script.outgoing.closed) :
    ((p.failed r).moved ends (p.worker.goOn carry r)).Closing := by
  rcases r with (e | _) | as
  · cases hm : p.worker.mode <;> simp_all [Closing, worker, moved, failed, Worker.goOn]
  · trivial
  · cases hm : p.worker.mode <;> simp_all [Closing, worker, moved, failed, Worker.goOn]

theorem Works.closing (h : Works lib p m p') (hp : p.Closing) : p'.Closing ∧
    p.worker.mode ≠ .stopped ∧ (p'.worker.mode = .stopped ↔ m = .finish) := by
  cases h with
  | carryToScript htake =>
    obtain ⟨hreads, rest, hsent, rfl⟩ := Ends.takeNative_eq_some htake
    have hmode : p.worker.mode ≠ .stopped := by
      rcases (Worker.readsNative_iff.1 hreads).2.2 with hmode | hmode <;> simp [hmode]
    exact ⟨hp.goOn hmode rfl rfl, hmode, iff_of_false (mode_goOn_ne hmode) (by simp)⟩
  | carryToNative htake =>
    obtain ⟨hreads, rest, hsent, rfl⟩ := Ends.takeScript_eq_some htake
    have hmode : p.worker.mode ≠ .stopped := by
      rcases (Worker.readsScript_iff.1 hreads).2 with hmode | hmode <;> simp [hmode]
    exact ⟨hp.goOn hmode rfl rfl, hmode, iff_of_false (mode_goOn_ne hmode) (by simp)⟩
  | putDown hput =>
    obtain ⟨rfl, h⟩ := Ends.put_eq_some hput
    have hfree : p.worker.isFree = false := by
      rcases h with ⟨_, hload, _⟩ | ⟨_, hload, _⟩ | ⟨_, hload, _⟩ | ⟨_, hload, _⟩ <;>
        rw [Worker.isFree, hload]
    have hmode := hp.not_stopped hfree
    refine ⟨?_, hmode, by simpa [worker, moved] using hmode⟩
    rcases h with ⟨_, _, _, rfl⟩ | ⟨_, _, _, rfl⟩ | ⟨_, _, _, _, rfl⟩ | ⟨_, _, _, _, rfl⟩ <;>
      cases hm : p.worker.mode <;> simp_all [Closing, worker, moved]
  | noticeNative _ hmode hclosed | noticeScript _ hmode hclosed =>
    exact ⟨hclosed, by simp [hmode], by simp [worker, moved]⟩
  | closeFirst hfinish =>
    obtain ⟨_, _, ⟨hmode, _⟩ | ⟨hmode, _⟩⟩ := Ends.finish_eq_some hfinish <;>
      simp_all [Closing, worker, moved, Ends.closeFirst]
  | finish hfinish =>
    obtain ⟨_, rfl, ⟨hmode, rfl, _⟩ | ⟨hmode, rfl, _⟩⟩ := Ends.finish_eq_some hfinish <;>
      simp only [Closing, hmode] at hp
    · exact ⟨⟨rfl, hp, rfl, rfl⟩, by simp [hmode], by simp [worker, moved]⟩
    · exact ⟨⟨rfl, rfl, hp, rfl⟩, by simp [hmode], by simp [worker, moved]⟩

theorem Hands.bridge_eq (h : Hands lib p p') :
    p'.bridge = { p.bridge with worker := p'.worker } := by
  cases h with
  | @fromSender _ r => rcases r with (e | _) | as <;> rfl
  | toReceiver => rfl

theorem Hands.ends_eq (h : Hands lib p p') : p'.ends = p.ends := by
  cases h <;> rfl

theorem Hands.closing (h : Hands lib p p') (hp : p.Closing) :
    p'.Closing ∧ p.worker.mode ≠ .stopped ∧ p'.worker.mode ≠ .stopped := by
  cases h with
  | fromSender hreads =>
    have hmode : p.worker.mode ≠ .stopped := by
      rcases (Worker.readsNative_iff.1 hreads).2.2 with hmode | hmode <;> simp [hmode]
    exact ⟨hp.goOn hmode rfl rfl, hmode, mode_goOn_ne hmode⟩
  | toReceiver hload =>
    have hmode := hp.not_stopped (by rw [Worker.isFree, hload])
    refine ⟨?_, hmode, hmode⟩
    cases hm : p.worker.mode <;> simp_all [Closing, worker, moved]

end Pairing

end ScriptBind
