import ScriptBind.Proofs.Channel.Registry

/-!
# ScriptBind.Proofs.Channel.Closings

Who closes a channel, and what the calls that close one answer, in whatever order calls come and
workers move.

* `Act`, `Boundary.Acts` - a call that closes a channel, with its answer, or a move of a worker.
* `Boundary.Trace` - any number of them.
* `Boundary.Acts.isClosed_iff` - what one of them closes.
* `Boundary.Trace.closings` - one call at each channel is told that it closed it, unless a worker
  came first, and none is after the worker has stopped.
-/

namespace ScriptBind

/-! ### Calls and moves -/

inductive Act where
  /-- A call, with its answer. A script that closes its channel closes what it sends to. -/
  | close (key : ChanKey) (first : Bool)
  | work (bridge : Bridge) (move : Move)
  /-- Anything that closes no channel. -/
  | other

/-- Whether the move of the worker closes the channel. Of the queues of the script this counts only
the one that tells whether the script's end is open. -/
def Bridge.closesBy (bridge : Bridge) (m : Move) (key : ChanKey) : Bool :=
  match m, bridge.worker.mode with
  | .closeFirst, .drainingScript => key = .native bridge.native
  | .finish, .drainingScript => key = .native bridge.native
  | .finish, .drainingNative => key = .script bridge.script
  | _, _ => false

namespace Act

/-- The channel is closed after this, by whomever. -/
def closes (key : ChanKey) : Act → Bool
  | .close k _ => key = k
  | .work bridge m => bridge.closesBy m key
  | .other => false

/-- A call that is told that it closed the channel. -/
def wins (key : ChanKey) : Act → Bool
  | .close k first => key = k && first
  | _ => false

end Act

namespace Boundary

/-- The channel says that it is closed. -/
def IsClosed (b : Boundary) : ChanKey → Prop
  | .native i => b.NativeClosed i
  | .script k => b.OutgoingClosed k

inductive Acts (lib : Library) (b : Boundary) : Act → Boundary → Prop
  | closeNative {i : Nat} {c : Chan NativeValue} (hc : b.natives[i]? = some c) :
      Acts lib b (.close (.native i) c.close.1) (b.setNative i c.close.2)
  | closeScript {k : Nat} {s : ScriptChan} (hs : b.scripts[k]? = some s) :
      Acts lib b (.close (.script k) s.outgoing.close.1)
        (b.setScript k { s with outgoing := s.outgoing.close.2 })
  | work {i : Nat} {bridge : Bridge} {c : Chan NativeValue} {s : ScriptChan} {m : Move}
      {p : Pairing} (hbridge : b.bridges[i]? = some bridge)
      (hc : b.natives[bridge.native]? = some c) (hs : b.scripts[bridge.script]? = some s)
      (h : Pairing.Works lib ⟨bridge, ⟨c, s⟩, b.reports⟩ m p) :
      Acts lib b (.work bridge m) (b.worked i p)
  | other {events : List Event} {b' : Boundary} (h : Step lib b events b')
      (hsame : ∀ key, b'.IsClosed key ↔ b.IsClosed key) : Acts lib b .other b'

inductive Trace (lib : Library) : Boundary → List Act → Boundary → Prop
  | nil {b : Boundary} : Trace lib b [] b
  | cons {b b' b'' : Boundary} {a : Act} {acts : List Act} (h : Acts lib b a b')
      (hrest : Trace lib b' acts b'') : Trace lib b (a :: acts) b''

variable {lib : Library} {b b' : Boundary} {a : Act} {key : ChanKey}

/-! ### What is closed after a change -/

theorem getElem?_push_eq_some_iff {α : Type} {xs : Array α} {i : Nat} {a x : α} :
    (xs.push x)[i]? = some a ↔ xs[i]? = some a ∨ i = xs.size ∧ x = a := by
  rw [Array.getElem?_push]
  by_cases hi : i = xs.size <;> simp [hi]

theorem isClosed_newNative (capacity : Option Nat) :
    (b.newNative capacity).2.IsClosed key ↔ b.IsClosed key := by
  cases key with
  | native i =>
    simp only [IsClosed, NativeClosed, newNative, getElem?_push_eq_some_iff]
    refine exists_congr fun c => ?_
    constructor
    · rintro ⟨hc | ⟨_, rfl⟩, hclosed⟩
      · exact ⟨hc, hclosed⟩
      · simp [Chan.new] at hclosed
    · rintro ⟨hc, hclosed⟩
      exact ⟨.inl hc, hclosed⟩
  | script k => rfl

theorem isClosed_newScript : b.newScript.2.IsClosed key ↔ b.IsClosed key := by
  cases key with
  | native i => rfl
  | script k =>
    simp only [IsClosed, OutgoingClosed, newScript, getElem?_push_eq_some_iff]
    refine exists_congr fun s => ?_
    constructor
    · rintro ⟨hs | ⟨_, rfl⟩, hclosed⟩
      · exact ⟨hs, hclosed⟩
      · simp [ScriptChan.new, Chan.new] at hclosed
    · rintro ⟨hs, hclosed⟩
      exact ⟨.inl hs, hclosed⟩

theorem isClosed_congr (hn : b'.natives = b.natives) (hs : b'.scripts = b.scripts) :
    b'.IsClosed key ↔ b.IsClosed key := by
  cases key <;> simp [IsClosed, NativeClosed, OutgoingClosed, hn, hs]

theorem isClosed_setNative {i : Nat} {c c' : Chan NativeValue} (hc : b.natives[i]? = some c)
    (h : c.closed = true → c'.closed = true) : (b.setNative i c').IsClosed key ↔
      b.IsClosed key ∨ key = .native i ∧ c'.closed = true := by
  cases key with
  | script k => simp [IsClosed, OutgoingClosed, setNative]
  | native j =>
    have hi := (Array.getElem?_eq_some_iff.1 hc).1
    by_cases hij : i = j
    · subst hij
      have hnew : (b.setNative i c').natives[i]? = some c' :=
        Array.getElem?_setIfInBounds_self_of_lt hi
      simp only [IsClosed, nativeClosed_iff hc, nativeClosed_iff hnew, true_and]
      exact ⟨.inr, fun hclosed => hclosed.elim h id⟩
    · have hother : (b.setNative i c').natives[j]? = b.natives[j]? := by
        simp [setNative, hij]
      simp [IsClosed, NativeClosed, hother, Ne.symm hij]

theorem isClosed_setScript {k : Nat} {s s' : ScriptChan} (hs : b.scripts[k]? = some s)
    (h : s.outgoing.closed = true → s'.outgoing.closed = true) :
    (b.setScript k s').IsClosed key ↔
      b.IsClosed key ∨ key = .script k ∧ s'.outgoing.closed = true := by
  cases key with
  | native i => simp [IsClosed, NativeClosed, setScript]
  | script j =>
    have hk := (Array.getElem?_eq_some_iff.1 hs).1
    by_cases hkj : k = j
    · subst hkj
      have hnew : (b.setScript k s').scripts[k]? = some s' :=
        Array.getElem?_setIfInBounds_self_of_lt hk
      simp only [IsClosed, outgoingClosed_iff hs, outgoingClosed_iff hnew, true_and]
      exact ⟨.inr, fun hclosed => hclosed.elim h id⟩
    · have hother : (b.setScript k s').scripts[j]? = b.scripts[j]? := by
        simp [setScript, hkj]
      simp [IsClosed, OutgoingClosed, hother, Ne.symm hkj]

theorem isClosed_setNative_same {i : Nat} {c c' : Chan NativeValue}
    (hc : b.natives[i]? = some c) (h : c'.closed = c.closed) :
    (b.setNative i c').IsClosed key ↔ b.IsClosed key := by
  rw [isClosed_setNative hc (h ▸ id), h]
  exact or_iff_left_of_imp fun ⟨hkey, hclosed⟩ => hkey ▸ (nativeClosed_iff hc).2 hclosed

theorem isClosed_setScript_same {k : Nat} {s s' : ScriptChan} (hs : b.scripts[k]? = some s)
    (h : s'.outgoing.closed = s.outgoing.closed) :
    (b.setScript k s').IsClosed key ↔ b.IsClosed key := by
  rw [isClosed_setScript hs (h ▸ id), h]
  exact or_iff_left_of_imp fun ⟨hkey, hclosed⟩ => hkey ▸ (outgoingClosed_iff hs).2 hclosed

section Worked

variable {i : Nat} {bridge : Bridge} {c : Chan NativeValue} {s : ScriptChan} {p : Pairing}

theorem isClosed_worked (hc : b.natives[bridge.native]? = some c)
    (hs : b.scripts[bridge.script]? = some s) (hlink : p.bridge.link = bridge.link)
    (hn : c.closed = true → p.ends.native.closed = true)
    (hout : s.outgoing.closed = true → p.ends.script.outgoing.closed = true) :
    (b.worked i p).IsClosed key ↔ b.IsClosed key ∨
      key = .native bridge.native ∧ p.ends.native.closed = true ∨
      key = .script bridge.script ∧ p.ends.script.outgoing.closed = true := by
  have hnative : p.bridge.native = bridge.native := congrArg Link.native hlink
  have hscript : p.bridge.script = bridge.script := congrArg Link.script hlink
  have hs' : (b.setNative p.bridge.native p.ends.native).scripts[p.bridge.script]? = some s := by
    rw [hscript]
    exact hs
  calc (b.worked i p).IsClosed key
      ↔ ((b.setNative p.bridge.native p.ends.native).setScript p.bridge.script
          p.ends.script).IsClosed key := isClosed_congr rfl rfl
    _ ↔ (b.setNative p.bridge.native p.ends.native).IsClosed key ∨
          key = .script p.bridge.script ∧ p.ends.script.outgoing.closed = true :=
        isClosed_setScript hs' hout
    _ ↔ _ := by
        rw [isClosed_setNative (hnative ▸ hc) hn, hnative, hscript, or_assoc]

end Worked

end Boundary

/-! ### What each of them closes -/

theorem Chan.Uses.closed_eq_or {α : Type} {c c' : Chan α} (h : c.Uses c') :
    c'.closed = c.closed ∨ c' = c.close.2 := by
  cases h with
  | send h => rw [(Chan.send_eq_accepted h).2]; exact .inl rfl
  | takeSent h => obtain ⟨_, _, rfl⟩ := Chan.takeSent_eq_some h; exact .inl rfl
  | takeDelivered h => obtain ⟨_, _, rfl⟩ := Chan.takeDelivered_eq_some h; exact .inl rfl
  | close => exact .inr rfl

theorem ScriptChan.Uses.closed_eq_or {s s' : ScriptChan} (h : s.Uses s') :
    s'.outgoing.closed = s.outgoing.closed ∨ s' = { s with outgoing := s.outgoing.close.2 } := by
  cases h with
  | send h => rw [(Chan.send_eq_accepted h).2]; exact .inl rfl
  | receive => exact .inl rfl
  | close => exact .inr rfl

theorem Link.mem_keys_iff {l : Link} {key : ChanKey} :
    key ∈ l.keys ↔ key = .native l.native ∨ key = .script l.script := by
  simp [keys]

theorem Bridge.mem_keys_of_closesBy {bridge : Bridge} {m : Move} {key : ChanKey}
    (h : bridge.closesBy m key) : key ∈ bridge.link.keys := by
  unfold closesBy at h
  split at h <;> simp_all [Link.keys, link]

namespace Pairing

variable {lib : Library} {p p' : Pairing} {m : Move}

/-- A worker closes an end only when the other end has closed. -/
theorem Works.closed_iff (h : Works lib p m p') :
    (p'.ends.native.closed = true ↔ p.ends.native.closed = true ∨
      p.bridge.closesBy m (.native p.bridge.native)) ∧
    (p'.ends.script.outgoing.closed = true ↔ p.ends.script.outgoing.closed = true ∨
      p.bridge.closesBy m (.script p.bridge.script)) := by
  cases h with
  | carryToScript htake =>
    obtain ⟨_, rest, _, rfl⟩ := Ends.takeNative_eq_some htake
    simp [moved, Bridge.closesBy]
  | carryToNative htake =>
    obtain ⟨_, rest, _, rfl⟩ := Ends.takeScript_eq_some htake
    simp [moved, Bridge.closesBy]
  | putDown hput =>
    obtain ⟨_, ⟨_, _, _, rfl⟩ | ⟨_, _, _, rfl⟩ | ⟨_, _, _, _, rfl⟩ | ⟨_, _, _, _, rfl⟩⟩ :=
      Ends.put_eq_some hput <;> simp [moved, Bridge.closesBy]
  | noticeNative | noticeScript => simp [moved, Bridge.closesBy]
  | closeFirst hfinish =>
    obtain ⟨_, _, ⟨hmode, _⟩ | ⟨hmode, _⟩⟩ := Ends.finish_eq_some hfinish <;>
      rw [worker] at hmode <;>
        simp [moved, worker, Bridge.closesBy, Ends.closeFirst, Chan.close, hmode]
  | finish hfinish =>
    obtain ⟨_, _, ⟨hmode, rfl, _⟩ | ⟨hmode, rfl, _⟩⟩ := Ends.finish_eq_some hfinish <;>
      rw [worker] at hmode <;>
        simp [moved, Bridge.closesBy, Ends.closeScript, Ends.closeNative, Chan.close, hmode]

end Pairing

namespace Boundary

variable {lib : Library} {b b' : Boundary} {a : Act} {key : ChanKey}

theorem Acts.isClosed_iff (h : Acts lib b a b') :
    b'.IsClosed key ↔ b.IsClosed key ∨ a.closes key := by
  cases h with
  | closeNative hc =>
    rw [isClosed_setNative hc fun _ => rfl]
    simp [Act.closes, Chan.close]
  | closeScript hs =>
    rw [isClosed_setScript hs fun _ => rfl]
    simp [Act.closes, Chan.close]
  | other _ hsame => simp [hsame, Act.closes]
  | @work i bridge c s m p hbridge hc hs h =>
    have hlink : p.bridge.link = bridge.link := by rw [h.change.bridge]; rfl
    obtain ⟨hn, hout⟩ := h.closed_iff
    rw [isClosed_worked hc hs hlink h.change.native_closed h.change.outgoing_closed]
    simp only [hn, hout, Act.closes]
    have hnative : b.IsClosed (.native bridge.native) ↔ c.closed = true := nativeClosed_iff hc
    have hscript : b.IsClosed (.script bridge.script) ↔ s.outgoing.closed = true :=
      outgoingClosed_iff hs
    constructor
    · rintro (hb | ⟨rfl, hclosed | hcloses⟩ | ⟨rfl, hclosed | hcloses⟩)
      · exact .inl hb
      · exact .inl (hnative.2 hclosed)
      · exact .inr hcloses
      · exact .inl (hscript.2 hclosed)
      · exact .inr hcloses
    · rintro (hb | hcloses)
      · exact .inl hb
      · rcases Link.mem_keys_iff.1 (Bridge.mem_keys_of_closesBy hcloses) with rfl | rfl
        · exact .inr (.inl ⟨rfl, .inr hcloses⟩)
        · exact .inr (.inr ⟨rfl, .inr hcloses⟩)

/-- A call is told whether the channel was still open. -/
theorem Acts.first_iff {first : Bool} (h : Acts lib b (.close key first) b') :
    first = true ↔ ¬ b.IsClosed key := by
  cases h with
  | closeNative hc => simp [IsClosed, nativeClosed_iff hc, Chan.close]
  | closeScript hs => simp [IsClosed, outgoingClosed_iff hs, Chan.close]

theorem Acts.step (h : Acts lib b a b') : ∃ events, Step lib b events b' := by
  cases h with
  | closeNative hc => exact ⟨_, .useNative hc .close⟩
  | closeScript hs => exact ⟨_, .useScript hs .close⟩
  | work hbridge hc hs h => exact ⟨_, .works hbridge hc hs h⟩
  | other h => exact ⟨_, h⟩

/-- Calls that close channels and moves of workers are all that closes a channel. -/
theorem Step.acts {events : List Event} (h : Step lib b events b') : ∃ a, Acts lib b a b' := by
  have hstep := h
  cases h with
  | newNative => exact ⟨_, .other hstep fun _ => isClosed_newNative _⟩
  | newScript => exact ⟨_, .other hstep fun _ => isClosed_newScript⟩
  | @scriptSide e d n =>
    refine ⟨_, .other hstep fun _ => ?_⟩
    rcases b.scriptSide_cases e d n with ⟨x, _, _, heq⟩ | ⟨_, heq⟩ <;> rw [heq]
    exact (isClosed_congr (b := b.newScript.2) rfl rfl).trans isClosed_newScript
  | @nativeSide e d k =>
    refine ⟨_, .other hstep fun _ => ?_⟩
    rcases b.nativeSide_cases e d k with ⟨x, _, _, heq⟩ | ⟨_, heq⟩ <;> rw [heq]
    exact (isClosed_congr (b := (b.newNative none).2) rfl rfl).trans (isClosed_newNative none)
  | useNative hc h =>
    rcases h.closed_eq_or with hsame | rfl
    · exact ⟨_, .other hstep fun _ => isClosed_setNative_same hc hsame⟩
    · exact ⟨_, .closeNative hc⟩
  | useScript hs h =>
    rcases h.closed_eq_or with hsame | rfl
    · exact ⟨_, .other hstep fun _ => isClosed_setScript_same hs hsame⟩
    · exact ⟨_, .closeScript hs⟩
  | works hbridge hc hs h => exact ⟨_, .work hbridge hc hs h⟩
  | @hands i bridge c s p hbridge hc hs h =>
    have hlink : p.bridge.link = bridge.link := by rw [h.bridge_eq]; rfl
    have hends : p.ends = ⟨c, s⟩ := h.ends_eq
    refine ⟨_, .other hstep fun key => ?_⟩
    rw [isClosed_worked hc hs hlink (by rw [hends]; exact id) (by rw [hends]; exact id), hends]
    refine or_iff_left_of_imp ?_
    rintro (⟨rfl, hclosed⟩ | ⟨rfl, hclosed⟩)
    · exact (nativeClosed_iff hc).2 hclosed
    · exact (outgoingClosed_iff hs).2 hclosed
  | remove => exact ⟨_, .other hstep fun _ => isClosed_congr rfl rfl⟩

/-! ### Any number of them -/

variable {b₀ : Boundary} {acts before after : List Act}

theorem Trace.split (h : Trace lib b₀ (before ++ after) b) :
    ∃ b₁, Trace lib b₀ before b₁ ∧ Trace lib b₁ after b := by
  induction before generalizing b₀ with
  | nil => exact ⟨b₀, .nil, h⟩
  | cons a before ih =>
    cases h with
    | cons ha hrest =>
      obtain ⟨b₁, hbefore, hafter⟩ := ih hrest
      exact ⟨b₁, .cons ha hbefore, hafter⟩

theorem Trace.later (h : Trace lib b₀ acts b) : b₀.Later b := by
  induction h with
  | nil => exact .of_eq rfl rfl
  | cons ha _ ih =>
    obtain ⟨_, hstep⟩ := ha.step
    exact hstep.later.trans ih

theorem Trace.registered {events : List Event} (h : Trace lib b₀ acts b)
    (hr : Registered events b₀) : ∃ events, Registered events b := by
  induction h generalizing events with
  | nil => exact ⟨events, hr⟩
  | cons ha _ ih =>
    obtain ⟨_, hstep⟩ := ha.step
    exact ih ((hstep.turn hr).registered hr hstep.later)

theorem Trace.isClosed_iff (h : Trace lib b₀ acts b) :
    b.IsClosed key ↔ b₀.IsClosed key ∨ ∃ a ∈ acts, a.closes key := by
  induction h with
  | nil => simp
  | cons ha _ ih => rw [ih, ha.isClosed_iff, or_assoc, List.exists_mem_cons_iff]

/-- A call is told that it closed the channel if nobody did so before. -/
theorem Trace.first_iff {first : Bool}
    (h : Trace lib b₀ (before ++ .close key first :: after) b) :
    first = true ↔ ¬ b₀.IsClosed key ∧ ∀ a ∈ before, ¬ a.closes key := by
  obtain ⟨b₁, hbefore, hafter⟩ := h.split
  cases hafter with
  | cons ha _ =>
    rw [ha.first_iff, hbefore.isClosed_iff, not_or]
    simp

theorem Act.eq_of_wins (h : a.wins key) : a = .close key true := by
  cases a <;> simp_all [Act.wins]

theorem Trace.countP_eq_zero (h : Trace lib b₀ acts b) (hclosed : b₀.IsClosed key) :
    acts.countP (·.wins key) = 0 := by
  refine List.countP_eq_zero.2 fun a ha hwins => ?_
  obtain rfl := Act.eq_of_wins hwins
  obtain ⟨before, after, rfl⟩ := List.append_of_mem ha
  exact (h.first_iff.1 rfl).1 hclosed

theorem Trace.countP_le_one (h : Trace lib b₀ acts b) : acts.countP (·.wins key) ≤ 1 := by
  induction h with
  | nil => simp
  | @cons b b' b'' a acts ha hrest ih =>
    rw [List.countP_cons]
    by_cases hwins : a.wins key
    · obtain rfl := Act.eq_of_wins hwins
      have hclosed : b'.IsClosed key := ha.isClosed_iff.2 (.inr (by simp [Act.closes]))
      rw [hrest.countP_eq_zero hclosed]
      simp [hwins]
    · simpa [hwins] using ih

/-- A worker closes one end of its bridge when it has seen that the other end is closed. -/
theorem Acts.other_isClosed {bridge : Bridge} {m : Move} {events : List Event} {k : ChanKey}
    (h : Acts lib b (.work bridge m) b') (hr : Registered events b)
    (hcloses : bridge.closesBy m key) (hk : k ∈ bridge.keys) (hne : k ≠ key) : b.IsClosed k := by
  cases h with
  | work hbridge =>
    have hclosing := hr.closing bridge (List.mem_of_getElem? hbridge)
    have hk : k = .native bridge.native ∨ k = .script bridge.script :=
      (Link.mem_keys_iff (l := bridge.link)).1 hk
    unfold Bridge.closesBy at hcloses
    unfold Boundary.Closing at hclosing
    split at hcloses <;> simp_all [IsClosed]

theorem Acts.closed_of_finish {bridge : Bridge} {events : List Event}
    (h : Acts lib b (.work bridge .finish) b') (hr : Registered events b) :
    b'.Closed bridge.link := by
  cases h with
  | work hbridge hc hs h =>
    have hstep := Step.works hbridge hc hs h
    exact ((hstep.turn hr).registered hr hstep.later).closed _ (by simp [stoppedBy])

theorem Closed.isClosed {l : Link} (h : b.Closed l) (hkey : key ∈ l.keys) : b.IsClosed key := by
  rcases Link.mem_keys_iff.1 hkey with rfl | rfl
  · exact h.1
  · exact h.2.1

/-- Of all that was done since a beginning, what closed the channels. -/
structure Closings (b₀ : Boundary) (acts : List Act) (b : Boundary) : Prop where
  closed : ∀ key, b.IsClosed key ↔ b₀.IsClosed key ∨ ∃ a ∈ acts, a.closes key
  /-- A call answers true if nobody closed the channel before. -/
  answer : ∀ before key first after, acts = before ++ .close key first :: after →
    (first = true ↔ ¬ b₀.IsClosed key ∧ ∀ a ∈ before, ¬ a.closes key)
  once : ∀ key, acts.countP (·.wins key) ≤ 1
  /-- Once a worker comes first at one end of a link, one call answers true at most, at the other
  end. -/
  single : ∀ l : Link, ∀ key ∈ l.keys, ∀ before bridge m after,
    acts = before ++ .work bridge m :: after → bridge.closesBy m key →
    (∀ a ∈ before, ¬ a.wins key) →
    acts.countP (·.wins (.native l.native)) + acts.countP (·.wins (.script l.script)) ≤ 1
  /-- A worker closes one end after the other end has been closed. -/
  reaction : ∀ before bridge m after key, acts = before ++ .work bridge m :: after →
    bridge.closesBy m key → ∀ k ∈ bridge.keys, k ≠ key →
    b₀.IsClosed k ∨ ∃ a ∈ before, a.closes k
  stopped : ∀ before bridge after, acts = before ++ .work bridge .finish :: after →
    b.Closed bridge.link ∧ ∀ key ∈ bridge.keys, ∀ first, .close key first ∈ after → first = false

theorem Trace.single {l : Link} {bridge : Bridge} {m : Move}
    (h : Trace lib b₀ (before ++ .work bridge m :: after) b) (hkey : key ∈ l.keys)
    (hcloses : bridge.closesBy m key) (hfirst : ∀ a ∈ before, ¬ a.wins key) :
    (before ++ .work bridge m :: after).countP (·.wins (.native l.native)) +
      (before ++ .work bridge m :: after).countP (·.wins (.script l.script)) ≤ 1 := by
  have hnone : (before ++ .work bridge m :: after).countP (·.wins key) = 0 := by
    obtain ⟨b₁, _, hrest⟩ := h.split
    cases hrest with
    | cons ha hafter =>
      have hclosed := ha.isClosed_iff.2 (.inr hcloses)
      rw [List.countP_append, List.countP_cons, hafter.countP_eq_zero hclosed,
        List.countP_eq_zero.2 hfirst]
      rfl
  rcases Link.mem_keys_iff.1 hkey with rfl | rfl
  · rw [hnone, Nat.zero_add]
    exact h.countP_le_one
  · rw [hnone, Nat.add_zero]
    exact h.countP_le_one

theorem Trace.closings (h : Trace lib b₀ acts b) (hstart : b₀.bridges = []) :
    b₀.Closings acts b where
  closed := fun _ => h.isClosed_iff
  answer := by
    rintro before key first after rfl
    exact h.first_iff
  once := fun _ => h.countP_le_one
  single := by
    rintro l key hkey before bridge m after rfl hcloses hfirst
    exact h.single hkey hcloses hfirst
  reaction := by
    rintro before bridge m after key rfl hcloses k hk hne
    obtain ⟨b₁, hbefore, hafter⟩ := h.split
    obtain ⟨events, hr⟩ := hbefore.registered (.of_bridges_eq_nil hstart)
    cases hafter with
    | cons ha _ => exact hbefore.isClosed_iff.1 (ha.other_isClosed hr hcloses hk hne)
  stopped := by
    rintro before bridge after rfl
    obtain ⟨b₁, hbefore, hafter⟩ := h.split
    obtain ⟨events, hr⟩ := hbefore.registered (.of_bridges_eq_nil hstart)
    cases hafter with
    | cons ha hafter =>
      have hclosed := ha.closed_of_finish hr
      refine ⟨hafter.later.closed hclosed, fun key hkey first hcall => ?_⟩
      obtain ⟨before, after, rfl⟩ := List.append_of_mem hcall
      by_contra hfirst
      exact (hafter.first_iff.1 (by simpa using hfirst)).1 (hclosed.isClosed hkey)

end Boundary

/-! ### A worker that waits while both ends are closed -/

def strings : Library := ⟨.ofList [("string", .scalar .string)], .empty⟩

/-- A native channel without room. -/
def noRoom : Boundary := ⟨0, #[.new (some 0)], #[], [], []⟩

def pipe (worker : Worker) : Bridge := ⟨0, .both, 0, 0, worker⟩

/-- The script sends, the worker takes it and waits for a receiver, and both ends are closed. -/
def closingBoth : List Act :=
  [.other, .other,
    .work (pipe .start) (.carryToNative (.string "a") (.ok (.string "a"))),
    .close (.script 0) true, .close (.native 0) true]

/-- With what the script has sent, and which ends are closed. -/
def pipeAt (sent : List Value) (worker : Worker) (script native : Bool) : Boundary :=
  ⟨0, #[⟨some 0, [], [], native⟩], #[⟨.new none, ⟨none, sent, [], script⟩⟩], [pipe worker], []⟩

def waiting : Worker := ⟨.forwarding, .toNative (.string "a")⟩

theorem trace_closingBoth : noRoom.Trace strings closingBoth (pipeAt [] waiting true true) := by
  have crossed : noRoom.Acts strings .other (pipeAt [] .start false false) :=
    .other (.scriptSide (e := 0) (d := .both) (n := 0) (by decide)) fun _ =>
      (Boundary.isClosed_congr (b := noRoom.newScript.2) rfl rfl).trans Boundary.isClosed_newScript
  have sent : (pipeAt [] .start false false).Acts strings .other
      (pipeAt [.string "a"] .start false false) :=
    .other (.useScript (i := 0) rfl (.send (v := .string "a") rfl)) fun _ =>
      Boundary.isClosed_setScript_same (b := pipeAt [] .start false false) (k := 0) (s := .new)
        rfl rfl
  have works : Pairing.Works strings
      ⟨pipe .start, ⟨.new (some 0), ⟨.new none, ⟨none, [.string "a"], [], false⟩⟩⟩, []⟩
      (.carryToNative (.string "a") (.ok (.string "a")))
      ⟨pipe waiting, ⟨.new (some 0), .new⟩, []⟩ :=
    .carryToNative (v := .string "a") (r := .ok (.string "a")) rfl ⟨.empty, rfl⟩
  have carried := Boundary.Acts.work (b := pipeAt [.string "a"] .start false false) (i := 0)
    rfl rfl rfl works
  have closedScript : (pipeAt [] waiting false false).Acts strings (.close (.script 0) true) _ :=
    .closeScript (s := .new) rfl
  have closedNative : (pipeAt [] waiting true false).Acts strings (.close (.native 0) true) _ :=
    .closeNative (c := .new (some 0)) rfl
  exact .cons crossed (.cons sent (.cons carried (.cons closedScript (.cons closedNative .nil))))

theorem closings_closingBoth : noRoom.bridges = [] ∧
    noRoom.Trace strings closingBoth (pipeAt [] waiting true true) ∧
    noRoom.Closings closingBoth (pipeAt [] waiting true true) :=
  ⟨rfl, trace_closingBoth, trace_closingBoth.closings rfl⟩

/-- The same with the workers as they run. -/
def sentToNoRoom : Exchange :=
  ((⟨(noRoom.scriptSide 0 .both 0).2, []⟩ : Exchange).start strings (.sendScript 0 (.string "a"))).2

theorem two_told_for_one_bridge :
    (sentToNoRoom.closeScript 0).1 = true ∧
    (((sentToNoRoom.closeScript 0).2.settle strings).closeNative 0).1 = true ∧
    ¬ ∀ (lib : Library) (b₀ b : Boundary) (acts : List Act), b₀.bridges = [] →
      b₀.Trace lib acts b → ∀ x ∈ b.bridges,
      acts.countP (·.wins (.native x.native)) + acts.countP (·.wins (.script x.script)) ≤ 1 := by
  refine ⟨by decide, by decide, fun h => ?_⟩
  have htwo := h strings noRoom _ closingBoth rfl trace_closingBoth (pipe waiting)
    (List.mem_singleton.2 rfl)
  revert htwo
  decide

end ScriptBind
