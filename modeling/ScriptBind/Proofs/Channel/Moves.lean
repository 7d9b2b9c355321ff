import ScriptBind.Library.Exchange

/-!
# ScriptBind.Proofs.Channel.Moves

A bridge in use: native code, the script and the worker move in any order, and each move is one
operation on one channel.

* `Pairing` - a bridge with the channels that it connects.
* `Pairing.Works` - the moves of the worker, who is free to take any branch that is ready.
* `Pairing.Uses` - the moves of native code and of the script.
* `Pairing.Run` - any number of moves.
* `Pairing.Step.change` - what a move does to the four queues, the load and the reports.
* `Pairing.Run.law` - what went into a queue has come out, in the same order, or is still there.
-/

namespace ScriptBind

/-- The computation can come to this answer. -/
def CrossM.MayGive {α : Type} (m : CrossM α) (r : Except Stop α) : Prop := ∃ b, (m b).1 = r

/-- What was delivered, and nothing else. A receiver that has waited may take it before what was
sent meanwhile. -/
def Chan.takeDelivered {α : Type} (c : Chan α) : Option (α × Chan α) :=
  match c.delivered with
  | v :: rest => some (v, { c with delivered := rest })
  | [] => none

theorem Chan.take_eq {α : Type} (c : Chan α) : c.take = c.takeSent.or c.takeDelivered := by
  rw [take]
  cases c.takeSent <;> rfl

def Sending.isAccepted {α : Type} : Sending α → Bool
  | .accepted _ => true
  | _ => false

/-- The worker goes on with what a conversion gave. -/
def Worker.goOn {α : Type} (w : Worker) (carry : α → Load) : Except Stop α → Worker
  | .ok v => { w with load := carry v }
  | .error (.failed _) => w
  | .error .endless => { w with mode := .stuck }

/-- Whether the end to which a load goes takes it. -/
def Ends.accepts (e : Ends) : Load → Bool
  | .none => false
  | .toScript v => (e.script.incoming.send v).isAccepted
  | .toNative v => (e.native.deliver v).isAccepted

/-- A worker that has drained the end that closed closes two other queues. This is the first of the
two. -/
def Ends.closeFirst (e : Ends) : Mode → Ends
  | .drainingNative => { e with script.incoming := e.script.incoming.close.2 }
  | .drainingScript => { e with native := e.native.close.2 }
  | _ => e

/-! ### Moves -/

/-- What happened in a move. A value that the worker takes is noted with what its conversion gave,
and a load that it puts down with whether the channel took it. -/
inductive Move where
  | sendNative (value : NativeValue)
  | sendScript (value : Value)
  /-- Somebody sent on a closed channel. -/
  | refuse
  /-- Native code received what native code had sent. -/
  | receiveSent (value : NativeValue)
  | receiveDelivered (value : NativeValue)
  | receiveScript (value : Value)
  /-- With the answer of the call. -/
  | closeNative (first : Bool)
  | closeScript (first : Bool)
  | carryToScript (value : NativeValue) (result : Except Stop Value)
  | carryToNative (value : Value) (result : Except Stop NativeValue)
  | putDown (load : Load) (accepted : Bool)
  | noticeNative
  | noticeScript
  | closeFirst
  | finish

structure Pairing where
  bridge : Bridge
  ends : Ends
  /-- The errors that came up, oldest first. -/
  reports : List ConversionError

namespace Pairing

def worker (p : Pairing) : Worker := p.bridge.worker

/-- The worker moved on and changed the channels. -/
def moved (p : Pairing) (ends : Ends) (worker : Worker) : Pairing :=
  { p with bridge.worker := worker, ends := ends }

def failed {α : Type} (p : Pairing) : Except Stop α → Pairing
  | .error (.failed e) => { p with reports := p.reports ++ [e] }
  | _ => p

inductive Works (lib : Library) : Pairing → Move → Pairing → Prop
  | carryToScript {p : Pairing} {ends : Ends} {v : NativeValue} {r : Except Stop Value}
      (htake : p.ends.takeNative p.worker p.bridge.direction = some (v, ends))
      (hr : (lib.toScript p.bridge.element v).MayGive r) :
      Works lib p (.carryToScript v r) ((p.failed r).moved ends (p.worker.goOn .toScript r))
  | carryToNative {p : Pairing} {ends : Ends} {v : Value} {r : Except Stop NativeValue}
      (htake : p.ends.takeScript p.worker = some (v, ends))
      (hr : (Exchange.convertSent lib p.bridge v).MayGive r) :
      Works lib p (.carryToNative v r) ((p.failed r).moved ends (p.worker.goOn .toNative r))
  | putDown {p : Pairing} {ends : Ends} {w : Worker} (hput : p.ends.put p.worker = some (ends, w)) :
      Works lib p (.putDown p.worker.load (p.ends.accepts p.worker.load)) (p.moved ends w)
  | noticeNative {p : Pairing} (hfree : p.worker.isFree) (hmode : p.worker.mode = .forwarding)
      (hclosed : p.ends.native.closed) :
      Works lib p .noticeNative (p.moved p.ends { p.worker with mode := .drainingNative })
  | noticeScript {p : Pairing} (hfree : p.worker.isFree) (hmode : p.worker.mode = .forwarding)
      (hclosed : p.ends.script.outgoing.closed) :
      Works lib p .noticeScript (p.moved p.ends { p.worker with mode := .drainingScript })
  | closeFirst {p : Pairing} {ends : Ends} {w : Worker}
      (hfinish : p.ends.finish p.worker p.bridge.direction = some (ends, w)) :
      Works lib p .closeFirst (p.moved (p.ends.closeFirst p.worker.mode) p.worker)
  | finish {p : Pairing} {ends : Ends} {w : Worker}
      (hfinish : p.ends.finish p.worker p.bridge.direction = some (ends, w)) :
      Works lib p .finish (p.moved ends w)

/-- Nothing is ever delivered to the channels of the script. -/
inductive Uses : Pairing → Move → Pairing → Prop
  | sendNative {p : Pairing} {v : NativeValue} {c : Chan NativeValue}
      (hsend : p.ends.native.send v = .accepted c) :
      Uses p (.sendNative v) { p with ends.native := c }
  | refuseNative {p : Pairing} {v : NativeValue} (hsend : p.ends.native.send v = .refused v) :
      Uses p .refuse p
  | sendScript {p : Pairing} {v : Value} {c : Chan Value}
      (hsend : p.ends.script.outgoing.send v = .accepted c) :
      Uses p (.sendScript v) { p with ends.script.outgoing := c }
  | refuseScript {p : Pairing} {v : Value} (hsend : p.ends.script.outgoing.send v = .refused v) :
      Uses p .refuse p
  | receiveSent {p : Pairing} {v : NativeValue} {c : Chan NativeValue}
      (htake : p.ends.native.takeSent = some (v, c)) :
      Uses p (.receiveSent v) { p with ends.native := c }
  | receiveDelivered {p : Pairing} {v : NativeValue} {c : Chan NativeValue}
      (htake : p.ends.native.takeDelivered = some (v, c)) :
      Uses p (.receiveDelivered v) { p with ends.native := c }
  | receiveScript {p : Pairing} {v : Value} {c : Chan Value}
      (htake : p.ends.script.incoming.takeSent = some (v, c)) :
      Uses p (.receiveScript v) { p with ends.script.incoming := c }
  | closeNative {p : Pairing} :
      Uses p (.closeNative p.ends.native.close.1) { p with ends.native := p.ends.native.close.2 }
  | closeScript {p : Pairing} :
      Uses p (.closeScript p.ends.script.outgoing.close.1)
        { p with ends.script.outgoing := p.ends.script.outgoing.close.2 }

inductive Step (lib : Library) (p : Pairing) (m : Move) (p' : Pairing) : Prop
  | works (h : Works lib p m p')
  | uses (h : Uses p m p')

inductive Run (lib : Library) (p₀ : Pairing) : List Move → Pairing → Prop
  | nil : Run lib p₀ [] p₀
  | snoc {moves : List Move} {m : Move} {p p' : Pairing} (hrun : Run lib p₀ moves p)
      (hstep : Step lib p m p') : Run lib p₀ (moves ++ [m]) p'

end Pairing

/-! ### What a move tells -/

/-- What a conversion gave, if it gave a value. -/
@[simp]
def converted? {α β : Type} : α × Option (Except Stop β) → Option β
  | (_, some (.ok as)) => some as
  | _ => none

@[simp]
def accepted? {α : Type} : α × Bool → Option α
  | (v, true) => some v
  | _ => none

@[simp]
def Load.toScript? : Load → Option Value
  | .toScript v => some v
  | _ => .none

@[simp]
def Load.toNative? : Load → Option NativeValue
  | .toNative v => some v
  | _ => .none

namespace Move

@[simp]
def sentNative? : Move → Option NativeValue
  | .sendNative v => some v
  | _ => none

@[simp]
def sentScript? : Move → Option Value
  | .sendScript v => some v
  | _ => none

/-- What native code had sent is received by native code, or the worker takes it. -/
@[simp]
def leftNative? : Move → Option (NativeValue × Option (Except Stop Value))
  | .receiveSent v => some (v, none)
  | .carryToScript v r => some (v, some r)
  | _ => none

@[simp]
def leftScript? : Move → Option (Value × Option (Except Stop NativeValue))
  | .carryToNative v r => some (v, some r)
  | _ => none

@[simp]
def putToScript? : Move → Option (Value × Bool)
  | .putDown load accepted => load.toScript?.map (·, accepted)
  | _ => none

@[simp]
def putToNative? : Move → Option (NativeValue × Bool)
  | .putDown load accepted => load.toNative?.map (·, accepted)
  | _ => none

@[simp]
def receivedScript? : Move → Option Value
  | .receiveScript v => some v
  | _ => none

@[simp]
def receivedDelivered? : Move → Option NativeValue
  | .receiveDelivered v => some v
  | _ => none

@[simp]
def reported? : Move → Option ConversionError
  | .carryToScript _ (.error (.failed e)) => some e
  | .carryToNative _ (.error (.failed e)) => some e
  | _ => none

end Move

/-! ### Operations on a channel -/

namespace Chan

variable {α : Type} {c c' : Chan α} {v w : α}

section Push

variable {queue : List α} {withQueue : List α → Chan α}

theorem push_eq_accepted (h : c.push queue withQueue v = .accepted c') :
    c.closed = false ∧ c.hasRoom queue = true ∧ c' = withQueue (queue ++ [v]) := by
  rw [push] at h
  split at h
  · cases h
  · rename_i hopen
    split at h
    · rename_i hroom
      cases h
      exact ⟨Bool.not_eq_true _ ▸ hopen, hroom, rfl⟩
    · cases h

theorem push_eq_refused (h : c.push queue withQueue v = .refused w) :
    c.closed = true ∧ w = v := by
  rw [push] at h
  split at h
  · rename_i hclosed
    cases h
    exact ⟨hclosed, rfl⟩
  · split at h <;> cases h

theorem push_of_closed (h : c.closed = true) : c.push queue withQueue v = .refused v := if_pos h

theorem push_eq_blocked_iff :
    c.push queue withQueue v = .blocked ↔ c.closed = false ∧ c.hasRoom queue = false := by
  rw [push]
  cases c.closed <;> cases c.hasRoom queue <;> simp

end Push

theorem send_eq_accepted (h : c.send v = .accepted c') :
    c.closed = false ∧ c' = { c with sent := c.sent ++ [v] } :=
  ⟨(push_eq_accepted h).1, (push_eq_accepted h).2.2⟩

theorem deliver_eq_accepted (h : c.deliver v = .accepted c') :
    c' = { c with delivered := c.delivered ++ [v] } :=
  (push_eq_accepted h).2.2

theorem takeSent_eq_some (h : c.takeSent = some (v, c')) :
    ∃ rest, c.sent = v :: rest ∧ c' = { c with sent := rest } := by
  rw [takeSent] at h
  split at h
  · rename_i rest hsent
    cases h
    exact ⟨rest, hsent, rfl⟩
  · cases h

theorem takeSent_eq_none (h : c.takeSent = none) : c.sent = [] := by
  rw [takeSent] at h
  split at h
  · cases h
  · assumption

theorem takeDelivered_eq_some (h : c.takeDelivered = some (v, c')) :
    ∃ rest, c.delivered = v :: rest ∧ c' = { c with delivered := rest } := by
  rw [takeDelivered] at h
  split at h
  · rename_i rest hdelivered
    cases h
    exact ⟨rest, hdelivered, rfl⟩
  · cases h

end Chan

/-! ### Moves of the worker -/

namespace Worker

variable {w : Worker}

theorem load_of_isFree (h : w.isFree) : w.load = .none := by
  rw [isFree] at h
  split at h
  · assumption
  · cases h

theorem readsNative_iff {d : ChanDir} : w.readsNative d ↔
    w.isFree ∧ d.forwardsToScript ∧ (w.mode = .forwarding ∨ w.mode = .drainingNative) := by
  simp [readsNative, and_assoc]

theorem readsScript_iff :
    w.readsScript ↔ w.isFree ∧ (w.mode = .forwarding ∨ w.mode = .drainingScript) := by
  simp [readsScript]

end Worker

namespace Ends

variable {e e' : Ends} {w w' : Worker}

theorem takeNative_eq_some {d : ChanDir} {v : NativeValue}
    (h : e.takeNative w d = some (v, e')) : w.readsNative d ∧
      ∃ rest, e.native.sent = v :: rest ∧ e' = { e with native.sent := rest } := by
  rw [takeNative] at h
  split at h
  · rename_i hreads
    split at h
    · rename_i htake
      cases h
      obtain ⟨rest, hsent, rfl⟩ := Chan.takeSent_eq_some htake
      exact ⟨hreads, rest, hsent, rfl⟩
    · cases h
  · cases h

theorem takeScript_eq_some {v : Value} (h : e.takeScript w = some (v, e')) : w.readsScript ∧
      ∃ rest, e.script.outgoing.sent = v :: rest ∧
        e' = { e with script.outgoing.sent := rest } := by
  rw [takeScript] at h
  split at h
  · rename_i hreads
    split at h
    · rename_i htake
      cases h
      obtain ⟨rest, hsent, rfl⟩ := Chan.takeSent_eq_some htake
      exact ⟨hreads, rest, hsent, rfl⟩
    · cases h
  · cases h

/-- A load is put into one of two queues or dropped, and then the worker is free. -/
theorem put_eq_some (h : e.put w = some (e', w')) : w' = { w with load := .none } ∧
    ((∃ v, w.load = .toScript v ∧ e.accepts w.load = true ∧
        e' = { e with script.incoming.sent := e.script.incoming.sent ++ [v] }) ∨
      (∃ v, w.load = .toNative v ∧ e.accepts w.load = true ∧
        e' = { e with native.delivered := e.native.delivered ++ [v] }) ∨
      (∃ v, w.load = .toScript v ∧ e.accepts w.load = false ∧ e.script.incoming.closed ∧ e' = e) ∨
      ∃ v, w.load = .toNative v ∧ e.accepts w.load = false ∧ e.native.closed ∧ e' = e) := by
  rw [put] at h
  split at h
  · cases h
  · rename_i v hload
    split at h <;> rename_i hsend <;> cases h
    · obtain ⟨_, rfl⟩ := Chan.send_eq_accepted hsend
      exact ⟨rfl, .inl ⟨v, hload, by rw [hload, accepts, hsend]; rfl, rfl⟩⟩
    · obtain ⟨hclosed, _⟩ := Chan.push_eq_refused hsend
      exact ⟨rfl, .inr (.inr (.inl ⟨v, hload, by rw [hload, accepts, hsend]; rfl, hclosed, rfl⟩))⟩
  · rename_i v hload
    split at h <;> rename_i hsend <;> cases h
    · rw [Chan.deliver_eq_accepted hsend]
      exact ⟨rfl, .inr (.inl ⟨v, hload, by rw [hload, accepts, hsend]; rfl, rfl⟩)⟩
    · obtain ⟨hclosed, _⟩ := Chan.push_eq_refused hsend
      exact ⟨rfl, .inr (.inr (.inr ⟨v, hload, by rw [hload, accepts, hsend]; rfl, hclosed, rfl⟩))⟩

/-- The end that closed is drained, and the other end is closed. -/
theorem finish_eq_some {d : ChanDir} (h : e.finish w d = some (e', w')) :
    w.isFree ∧ w' = ⟨.stopped, .none⟩ ∧
      (w.mode = .drainingNative ∧ e' = e.closeScript ∧
          (d.forwardsToScript = true → e.native.sent = []) ∨
        w.mode = .drainingScript ∧ e' = e.closeNative ∧ e.script.outgoing.sent = []) := by
  rw [finish] at h
  split at h
  · cases h
  · rename_i hfree
    replace hfree : w.isFree = true := by simpa using hfree
    split at h
    · rename_i hmode
      split at h
      · cases h
      · rename_i hnone
        cases h
        refine ⟨hfree, rfl, .inl ⟨hmode, rfl, fun hd => ?_⟩⟩
        have hreads : w.readsNative d := Worker.readsNative_iff.2 ⟨hfree, hd, .inr hmode⟩
        rw [takeNative, if_pos hreads] at hnone
        split at hnone
        · cases hnone
        · exact Chan.takeSent_eq_none ‹_›
    · rename_i hmode
      split at h
      · cases h
      · rename_i hnone
        cases h
        refine ⟨hfree, rfl, .inr ⟨hmode, rfl, ?_⟩⟩
        have hreads : w.readsScript := Worker.readsScript_iff.2 ⟨hfree, .inr hmode⟩
        rw [takeScript, if_pos hreads] at hnone
        split at hnone
        · cases hnone
        · exact Chan.takeSent_eq_none ‹_›
    · cases h

end Ends

/-! ### What a move does -/

theorem filterMap_concat {α β : Type} (f : α → Option β) (xs : List α) (x : α) :
    (xs ++ [x]).filterMap f = xs.filterMap f ++ (f x).toList := by
  rw [List.filterMap_append]
  cases h : f x <;> simp [h]

namespace Pairing

/-- Each queue loses at its front what the move takes from it, and gets at its end what the move
puts into it. A channel that is closed stays so and takes nothing. -/
structure Change (p : Pairing) (m : Move) (p' : Pairing) : Prop where
  bridge : p'.bridge = { p.bridge with worker := p'.worker }
  native : p.ends.native.sent ++ m.sentNative?.toList =
    (m.leftNative?.map (·.1)).toList ++ p'.ends.native.sent
  outgoing : p.ends.script.outgoing.sent ++ m.sentScript?.toList =
    (m.leftScript?.map (·.1)).toList ++ p'.ends.script.outgoing.sent
  incoming : p.ends.script.incoming.sent ++ (m.putToScript?.bind accepted?).toList =
    m.receivedScript?.toList ++ p'.ends.script.incoming.sent
  delivered : p.ends.native.delivered ++ (m.putToNative?.bind accepted?).toList =
    m.receivedDelivered?.toList ++ p'.ends.native.delivered
  toScript : p.worker.load.toScript?.toList ++ (m.leftNative?.bind converted?).toList =
    (m.putToScript?.map (·.1)).toList ++ p'.worker.load.toScript?.toList
  toNative : p.worker.load.toNative?.toList ++ (m.leftScript?.bind converted?).toList =
    (m.putToNative?.map (·.1)).toList ++ p'.worker.load.toNative?.toList
  reports : p'.reports = p.reports ++ m.reported?.toList
  native_closed : p.ends.native.closed = true → p'.ends.native.closed = true
  outgoing_closed : p.ends.script.outgoing.closed = true → p'.ends.script.outgoing.closed = true
  incoming_closed : p.ends.script.incoming.closed = true → p'.ends.script.incoming.closed = true
  native_refuses : p.ends.native.closed = true → m.sentNative? = none
  outgoing_refuses : p.ends.script.outgoing.closed = true → m.sentScript? = none

variable {lib : Library} {p p' : Pairing} {m : Move}

theorem Uses.change (h : Uses p m p') : Change p m p' := by
  cases h with
  | sendNative hsend | sendScript hsend =>
    obtain ⟨hopen, rfl⟩ := Chan.send_eq_accepted hsend
    constructor <;> simp [worker, hopen]
  | refuseNative | refuseScript | closeNative | closeScript =>
    constructor <;> simp [worker, Chan.close]
  | receiveSent htake | receiveScript htake =>
    obtain ⟨rest, hsent, rfl⟩ := Chan.takeSent_eq_some htake
    constructor <;> simp [worker, hsent]
  | receiveDelivered htake =>
    obtain ⟨rest, hdelivered, rfl⟩ := Chan.takeDelivered_eq_some htake
    constructor <;> simp [worker, hdelivered]

theorem Works.change (h : Works lib p m p') : Change p m p' := by
  cases h with
  | @carryToScript ends v r htake hr =>
    obtain ⟨hreads, rest, hsent, rfl⟩ := Ends.takeNative_eq_some htake
    have hload := Worker.load_of_isFree (Worker.readsNative_iff.1 hreads).1
    rw [worker] at hload
    rcases r with (e | _) | as <;>
      constructor <;> simp [moved, worker, failed, Worker.goOn, hsent, hload]
  | @carryToNative ends v r htake hr =>
    obtain ⟨hreads, rest, hsent, rfl⟩ := Ends.takeScript_eq_some htake
    have hload := Worker.load_of_isFree (Worker.readsScript_iff.1 hreads).1
    rw [worker] at hload
    rcases r with (e | _) | as <;>
      constructor <;> simp [moved, worker, failed, Worker.goOn, hsent, hload]
  | putDown hput =>
    obtain ⟨rfl, h⟩ := Ends.put_eq_some hput
    rcases h with ⟨v, hload, hok, rfl⟩ | ⟨v, hload, hok, rfl⟩ | ⟨v, hload, hok, _, rfl⟩ |
      ⟨v, hload, hok, _, rfl⟩ <;> rw [hok] <;> rw [worker] at hload ⊢ <;>
        constructor <;> simp [moved, worker, hload]
  | noticeNative | noticeScript => constructor <;> simp [moved, worker]
  | closeFirst hfinish =>
    cases p.worker.mode <;> constructor <;> simp [Ends.closeFirst, moved, worker, Chan.close]
  | finish hfinish =>
    obtain ⟨hfree, rfl, h⟩ := Ends.finish_eq_some hfinish
    have hload := Worker.load_of_isFree hfree
    rw [worker] at hload
    rcases h with ⟨_, rfl, _⟩ | ⟨_, rfl, _⟩ <;>
      constructor <;>
        simp [moved, worker, Ends.closeScript, Ends.closeNative, Chan.close, hload]

theorem Step.change (h : Step lib p m p') : Change p m p' := by
  cases h with
  | works h => exact h.change
  | uses h => exact h.change

theorem Change.native_drained (h : Change p m p') (hclosed : p.ends.native.closed = true)
    (hsent : p.ends.native.sent = []) : p'.ends.native.sent = [] := by
  have hlaw := h.native
  rw [hsent, h.native_refuses hclosed] at hlaw
  exact (List.append_eq_nil_iff.1 hlaw.symm).2

theorem Change.outgoing_drained (h : Change p m p')
    (hclosed : p.ends.script.outgoing.closed = true)
    (hsent : p.ends.script.outgoing.sent = []) : p'.ends.script.outgoing.sent = [] := by
  have hlaw := h.outgoing
  rw [hsent, h.outgoing_refuses hclosed] at hlaw
  exact (List.append_eq_nil_iff.1 hlaw.symm).2

variable {p₀ : Pairing} {moves : List Move}

/-- For whatever a step takes from the front and puts to the end, a run does so with all of it. -/
theorem Run.law {γ : Type} (hrun : Run lib p₀ moves p) (content : Pairing → List γ)
    {enters leaves : Move → Option γ} (hstep : ∀ p m p', Step lib p m p' →
      content p ++ (enters m).toList = (leaves m).toList ++ content p') :
    content p₀ ++ moves.filterMap enters = moves.filterMap leaves ++ content p := by
  induction hrun with
  | nil => simp
  | @snoc moves m p p' _ hm ih =>
    calc content p₀ ++ (moves ++ [m]).filterMap enters
        = content p₀ ++ moves.filterMap enters ++ (enters m).toList := by
          rw [filterMap_concat, List.append_assoc]
      _ = moves.filterMap leaves ++ content p ++ (enters m).toList := by rw [ih]
      _ = moves.filterMap leaves ++ ((leaves m).toList ++ content p') := by
          rw [List.append_assoc, hstep p m p' hm]
      _ = (moves ++ [m]).filterMap leaves ++ content p' := by
          rw [filterMap_concat, List.append_assoc]

theorem Run.bridge_eq (hrun : Run lib p₀ moves p) :
    p.bridge = { p₀.bridge with worker := p.worker } := by
  induction hrun with
  | nil => rfl
  | snoc _ hm ih => rw [hm.change.bridge, ih]

end Pairing
end ScriptBind
