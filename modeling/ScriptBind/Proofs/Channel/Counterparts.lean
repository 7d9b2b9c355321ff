import ScriptBind.Proofs.Channel.Registry
import ScriptBind.Proofs.Crossing.Outcome

/-!
# ScriptBind.Proofs.Channel.Counterparts

Which channel a channel is on the other side, when it crosses at one type and comes back at another.

* `Paired` - two channels are connected once, in one table.
* `Registered.nativeSide_eq_iff`, `Registered.scriptSide_eq_iff` - what the counterpart of a channel
  goes back to.
* `Boundary.Remembers` - what that means for the conversions of a library.
* `Boundary.Run.counterparts` - it holds for every native channel that crosses, at any later time.
-/

namespace ScriptBind

/-! ### Two channels are connected once -/

def Paired (events : List Event) : Prop :=
  ∀ l l', .started l ∈ events → .started l' ∈ events → l.native = l'.native →
    l.script = l'.script → l = l'

section Paired

variable {lib : Library} {b b' : Boundary} {events new : List Event} {l : Link}

theorem Paired.append (hp : Paired events) (hnew : ∀ l, .started l ∉ new) :
    Paired (events ++ new) := by
  have hold {l : Link} (hl : .started l ∈ events ++ new) : .started l ∈ events :=
    (List.mem_append.1 hl).resolve_right (hnew l)
  exact fun l l' hl hl' => hp l l' (hold hl) (hold hl')

/-- A new bridge has a new channel at one end at least. -/
theorem Turn.paired (h : Turn b new b') (hr : Registered events b) (hp : Paired events) :
    Paired (events ++ new) := by
  cases h with
  | same => rwa [List.append_nil]
  | @opened b' x _ _ _ _ hnew _ =>
    have hother {l : Link} (hl : .started l ∈ events) (hn : l.native = x.native)
        (hk : l.script = x.script) : False := by
      have hknown := hr.known l hl
      omega
    intro l l' hl hl' hn hk
    simp only [List.mem_append, List.mem_singleton, Event.started.injEq] at hl hl'
    rcases hl with hl | rfl <;> rcases hl' with hl' | rfl
    · exact hp l l' hl hl' hn hk
    · exact (hother hl hn hk).elim
    · exact (hother hl' hn.symm hk.symm).elim
    · rfl
  | worked => exact hp.append fun l => by split <;> simp
  | removed => exact hp.append fun l => by simp

theorem Boundary.Run.paired {b₀ : Boundary} (hrun : b₀.Run lib new b) (hr : Registered events b₀)
    (hp : Paired events) : Paired (events ++ new) := by
  induction hrun with
  | nil => rwa [List.append_nil]
  | snoc hrun hstep ih =>
    have hr' := hrun.registered hr
    rw [← List.append_assoc]
    exact (hstep.turn hr').paired hr' ih

end Paired

/-! ### The way back -/

namespace Registered

open Boundary

variable {lib : Library} {b b' : Boundary} {events new : List Event} {e : ShapeId} {d : ChanDir}
  {l : Link}

/-- A bridge that connects the channels of a link is the bridge of the link. -/
theorem link_eq {x : Bridge} (h : Registered events b) (hp : Paired events)
    (hl : .started l ∈ events) (hx : x ∈ b.bridges) (hn : x.native = l.native)
    (hk : x.script = l.script) : x.link = l ∧ .removed l ∉ events := by
  obtain ⟨hstarted, hremoved⟩ := h.live_iff.2 ⟨x, hx, rfl⟩
  obtain rfl : x.link = l := hp _ _ hstarted hl hn hk
  exact ⟨rfl, hremoved⟩

/-- The script channel of a link goes back to its native channel at the same element and direction
only, and only while the link is up. -/
theorem nativeSide_eq_iff (h : Registered events b) (hp : Paired events)
    (hl : .started l ∈ events) : (b.nativeSide e d l.script).1 = l.native ↔
      e = l.element ∧ d = l.direction ∧ .removed l ∉ events := by
  rcases b.nativeSide_cases e d l.script with ⟨x, hx, hlink, heq⟩ | ⟨hnone, heq⟩ <;> rw [heq]
  · constructor
    · intro hn
      obtain ⟨rfl, hremoved⟩ := h.link_eq hp hl hx hn (congrArg Link.script hlink)
      exact ⟨(congrArg Link.element hlink).symm, (congrArg Link.direction hlink).symm, hremoved⟩
    · rintro ⟨rfl, rfl, hremoved⟩
      obtain ⟨y, hy, rfl⟩ := h.live_iff.1 ⟨hl, hremoved⟩
      rw [h.apart.eq hx hy (by rw [hlink]; exact ⟨rfl, rfl, .inr rfl⟩)]
      rfl
  · constructor
    · intro hn
      exact absurd hn.symm (Nat.ne_of_lt (h.known l hl).1)
    · rintro ⟨rfl, rfl, hremoved⟩
      obtain ⟨y, hy, rfl⟩ := h.live_iff.1 ⟨hl, hremoved⟩
      exact absurd rfl (hnone y hy rfl rfl)

theorem scriptSide_eq_iff (h : Registered events b) (hp : Paired events)
    (hl : .started l ∈ events) : (b.scriptSide e d l.native).1 = l.script ↔
      e = l.element ∧ d = l.direction ∧ .removed l ∉ events := by
  rcases b.scriptSide_cases e d l.native with ⟨x, hx, hlink, heq⟩ | ⟨hnone, heq⟩ <;> rw [heq]
  · constructor
    · intro hk
      obtain ⟨rfl, hremoved⟩ := h.link_eq hp hl hx (congrArg Link.native hlink) hk
      exact ⟨(congrArg Link.element hlink).symm, (congrArg Link.direction hlink).symm, hremoved⟩
    · rintro ⟨rfl, rfl, hremoved⟩
      obtain ⟨y, hy, rfl⟩ := h.live_iff.1 ⟨hl, hremoved⟩
      rw [h.apart.eq hx hy (by rw [hlink]; exact ⟨rfl, rfl, .inl rfl⟩)]
      rfl
  · constructor
    · intro hk
      exact absurd hk.symm (Nat.ne_of_lt (h.known l hl).2)
    · rintro ⟨rfl, rfl, hremoved⟩
      obtain ⟨y, hy, rfl⟩ := h.live_iff.1 ⟨hl, hremoved⟩
      exact absurd rfl (hnone y hy rfl rfl)

/-- A bridge goes when its worker has stopped, and then both channels are closed. -/
theorem closed_of_removed (h : Registered events b) (hl : .removed l ∈ events) : b.Closed l := by
  have hlife := h.life l
  have hmem : .removed l ∈ history l events := mem_history.2 ⟨hl, rfl⟩
  have hstopped : .stopped l ∈ history l events := by
    generalize history l events = evs, bridgeAt b.bridges l = found at hlife hmem
    cases hlife <;> simp_all
  exact h.closed l (mem_history.1 hstopped).1

theorem countP_native_le_one (h : Registered events b) (e : ShapeId) (d : ChanDir) (n : Nat) :
    (b.bridgesOf e d).countP (·.native = n) ≤ 1 := by
  have hapart : Apart ((b.bridgesOf e d).filter (·.native = n)) :=
    h.apart.sublist (List.filter_sublist.trans List.filter_sublist)
  rw [List.countP_eq_length_filter]
  cases hbridges : (b.bridgesOf e d).filter (·.native = n) with
  | nil => simp
  | cons x rest =>
    cases rest with
    | nil => simp
    | cons y rest =>
      have hmem (z : Bridge) (hz : z ∈ x :: y :: rest) :
          z.element = e ∧ z.direction = d ∧ z.native = n := by
        rw [← hbridges, List.mem_filter, Boundary.bridgesOf, List.mem_filter, serves_iff] at hz
        exact ⟨hz.1.2.1, hz.1.2.2, by simpa using hz.2⟩
      obtain ⟨hxe, hxd, hxn⟩ := hmem x (by simp)
      obtain ⟨hye, hyd, hyn⟩ := hmem y (by simp)
      rw [hbridges] at hapart
      exact ((List.pairwise_cons.1 hapart).1 y (by simp)
        ⟨hxe.trans hye.symm, hxd.trans hyd.symm, .inl (hxn.trans hyn.symm)⟩).elim

end Registered

/-! ### Conversions -/

/-- The rule of a channel type. -/
def Library.IsChan (lib : Library) (id : ShapeId) (e : ShapeId) (d : ChanDir) : Prop :=
  ∃ shape, lib.shapes.get? id = some shape ∧ shape.kind = .chan d e

namespace Library.IsChan

variable {lib : Library} {id e : ShapeId} {d : ChanDir}

theorem toScript_eq (h : lib.IsChan id e d) (n : Nat) (b : Boundary) :
    lib.toScript id (.chan (some n)) b =
      (.ok (.channel (b.scriptSide e d n).1), (b.scriptSide e d n).2) := by
  obtain ⟨shape, hshape, hkind⟩ := h
  refine CrossM.mapError_of_ok ?_
  simp only [convertTo, hshape, Shape.toScript, hkind]
  rfl

theorem fromScript_eq (h : lib.IsChan id e d) (k : Nat) (b : Boundary) :
    lib.fromScript id (.channel k) b =
      (.ok (.chan (some (b.nativeSide e d k).1)), (b.nativeSide e d k).2) := by
  obtain ⟨shape, hshape, hkind⟩ := h
  refine CrossM.mapError_of_ok ?_
  simp only [convertFrom, hshape, Shape.fromScript, hkind]
  rfl

end Library.IsChan

namespace Boundary

/-- What the channels of a link are on the other side, at any channel type, after some events. -/
structure Remembers (lib : Library) (b : Boundary) (l : Link) (events : List Event) : Prop where
  closed : .removed l ∈ events → b.Closed l
  native : ∀ id e d, lib.IsChan id e d →
    ∃ n b', lib.fromScript id (.channel l.script) b = (.ok (.chan (some n)), b') ∧
      (n = l.native ↔ e = l.element ∧ d = l.direction ∧ .removed l ∉ events)
  script : ∀ id e d, lib.IsChan id e d →
    ∃ k b', lib.toScript id (.chan (some l.native)) b = (.ok (.channel k), b') ∧
      (k = l.script ↔ e = l.element ∧ d = l.direction ∧ .removed l ∉ events)

structure Counterparts (lib : Library) (b : Boundary) : Prop where
  /-- No table has two bridges for a native channel, and so two workers or two script channels. -/
  single : ∀ e d n, (b.bridgesOf e d).countP (·.native = n) ≤ 1
  /-- A native channel crosses, and comes back at whatever type and time. -/
  returns : ∀ id e d n, lib.IsChan id e d → n < b.natives.size →
    ∃ k b₁, lib.toScript id (.chan (some n)) b = (.ok (.channel k), b₁) ∧
      ∀ events b₂, b₁.Run lib events b₂ → b₂.Remembers lib ⟨e, d, n, k⟩ events

end Boundary

namespace Registered

open Boundary

variable {lib : Library} {b b' : Boundary} {events new : List Event} {e : ShapeId} {d : ChanDir}
  {l : Link} {n : Nat}

theorem remembers (h : Registered events b) (hp : Paired events) (hl : Live events l)
    (hrun : b.Run lib new b') : b'.Remembers lib l new := by
  have h' := hrun.registered h
  have hp' := hrun.paired h hp
  have hstarted : .started l ∈ events ++ new := List.mem_append_left _ hl.1
  have hremoved : .removed l ∉ events ++ new ↔ .removed l ∉ new := by
    rw [List.mem_append, or_iff_right hl.2]
  refine ⟨fun hmem => h'.closed_of_removed (List.mem_append_right _ hmem), ?_, ?_⟩
  · intro id e d hchan
    refine ⟨_, _, hchan.fromScript_eq _ _, ?_⟩
    rw [h'.nativeSide_eq_iff hp' hstarted, hremoved]
  · intro id e d hchan
    refine ⟨_, _, hchan.toScript_eq _ _, ?_⟩
    rw [h'.scriptSide_eq_iff hp' hstarted, hremoved]

theorem live_scriptSide (hstep : Step lib b new (b.scriptSide e d n).2) (h : Registered events b) :
    Live (events ++ new) ⟨e, d, n, (b.scriptSide e d n).1⟩ := by
  have h' := (hstep.turn h).registered h hstep.later
  refine h'.live_iff.2 ?_
  rcases b.scriptSide_cases e d n with ⟨x, hx, hlink, heq⟩ | ⟨_, heq⟩ <;> rw [heq]
  · exact ⟨x, hx, hlink⟩
  · exact ⟨⟨e, d, n, b.scripts.size, .start⟩, by simp [addBridge], rfl⟩

end Registered

/-- The counterpart of a native channel goes back to it at every channel type of the same element
and direction until their bridge is removed, and to another channel at all others. -/
theorem Boundary.Run.counterparts {lib : Library} {b₀ b : Boundary} {events : List Event}
    (hrun : b₀.Run lib events b) (hstart : b₀.bridges = []) : b.Counterparts lib := by
  have h₀ : Registered [] b₀ := .of_bridges_eq_nil hstart
  have h : Registered events b := hrun.registered h₀
  have hp : Paired events := hrun.paired h₀ (fun _ _ hl => by cases hl)
  refine ⟨h.countP_native_le_one, fun id e d n hchan hn => ?_⟩
  have hstep : Step lib b (b.startedBy (b.scriptSide e d n).2) (b.scriptSide e d n).2 :=
    .scriptSide hn
  have h₁ := (hstep.turn h).registered h hstep.later
  refine ⟨_, _, hchan.toScript_eq n b, fun new b₂ hrun₂ => ?_⟩
  exact h₁.remembers ((hstep.turn h).paired h hp) (Registered.live_scriptSide hstep h) hrun₂

/-! ### A channel with two types -/

def twoTypes : Library :=
  ⟨.ofList [("int64", .scalar (.int 64 .signed)), ("chan int64", .chan .both 0),
    ("<-chan int64", .chan .recvOnly 0)], .empty⟩

theorem isChan_both : twoTypes.IsChan 1 0 .both := ⟨⟨1, "chan int64", .chan .both 0⟩, rfl, rfl⟩

theorem isChan_recv : twoTypes.IsChan 2 0 .recvOnly := ⟨⟨2, "<-chan int64", .chan .recvOnly 0⟩, rfl, rfl⟩

/-- A native channel that has crossed at both types. -/
def crossedTwice : Boundary :=
  ((uncrossed.scriptSide 0 .both 0).2.scriptSide 0 .recvOnly 0).2

theorem run_crossedTwice : uncrossed.Run twoTypes
    [.started ⟨0, .both, 0, 0⟩, .started ⟨0, .recvOnly, 0, 1⟩] crossedTwice := by
  have crossed : uncrossed.Run twoTypes ([] ++ [.started ⟨0, .both, 0, 0⟩])
      (uncrossed.scriptSide 0 .both 0).2 :=
    .snoc .nil (.scriptSide (e := 0) (d := .both) (n := 0) (by decide))
  exact crossed.snoc (.scriptSide (e := 0) (d := .recvOnly) (n := 0) (by decide))

theorem counterparts_crossedTwice : uncrossed.bridges = [] ∧
    uncrossed.Run twoTypes [.started ⟨0, .both, 0, 0⟩, .started ⟨0, .recvOnly, 0, 1⟩] crossedTwice ∧
    crossedTwice.Counterparts twoTypes :=
  ⟨rfl, run_crossedTwice, run_crossedTwice.counterparts rfl⟩

/-- At the other direction it comes back as another channel, and it has two script channels. -/
theorem other_channel_at_other_direction :
    (∃ b₁ b₂, twoTypes.toScript 1 (.chan (some 0)) uncrossed = (.ok (.channel 0), b₁) ∧
      twoTypes.fromScript 2 (.channel 0) b₁ = (.ok (.chan (some 1)), b₂)) ∧
    (¬ ∀ (lib : Library) (b₀ b : Boundary) (events : List Event), b₀.bridges = [] →
      b₀.Run lib events b → ∀ id id' e d d' n, lib.IsChan id e d → lib.IsChan id' e d' →
      n < b.natives.size → ¬ b.NativeClosed n →
      ∃ k b₁ b₂, lib.toScript id (.chan (some n)) b = (.ok (.channel k), b₁) ∧
        lib.fromScript id' (.channel k) b₁ = (.ok (.chan (some n)), b₂)) ∧
    ¬ ∀ (lib : Library) (b₀ b : Boundary) (events : List Event), b₀.bridges = [] →
      b₀.Run lib events b → ∀ n, ¬ b.NativeClosed n → b.bridges.countP (·.native = n) ≤ 1 := by
  refine ⟨⟨_, _, isChan_both.toScript_eq 0 uncrossed, isChan_recv.fromScript_eq 0 _⟩,
    fun h => ?_, fun h => ?_⟩
  · have hopen : ¬ uncrossed.NativeClosed 0 := by simp [Boundary.NativeClosed, uncrossed, Chan.new]
    obtain ⟨k, b₁, b₂, hout, hback⟩ := h twoTypes uncrossed uncrossed [] rfl .nil 1 2 0 .both .recvOnly 0
      isChan_both isChan_recv (by decide) hopen
    rw [isChan_both.toScript_eq] at hout
    cases hout
    rw [isChan_recv.fromScript_eq] at hback
    cases hback
  · have hopen : ¬ crossedTwice.NativeClosed 0 := by
      simp [Boundary.NativeClosed, crossedTwice, uncrossed, Chan.new, Boundary.scriptSide,
        Boundary.bridgesOf, Boundary.newScript, Boundary.addBridge, Bridge.serves]
    have hone := h twoTypes uncrossed crossedTwice _ rfl run_crossedTwice 0 hopen
    revert hone
    decide

end ScriptBind
