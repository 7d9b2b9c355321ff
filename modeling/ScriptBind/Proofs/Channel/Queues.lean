import ScriptBind.Proofs.Channel.Moves

/-!
# ScriptBind.Proofs.Channel.Queues

A channel by itself. Any number of holders share it, and what they do to it, in any order, is one
sequence of operations. An operation that would have to wait is not done.

* `Chan.perform` - one operation, with its answer.
* `Chan.Performs` - all that an operation can do.
* `Chan.Run` - any number of operations.
* `Chan.Account` - what is known of a channel by the operations that were done.
* `Chan.Run.account` - that is so after every run.
-/

namespace ScriptBind

/-- The items of the third list are those of the first two, each of these in its order. -/
inductive Merges {α : Type} : List α → List α → List α → Prop
  | nil : Merges [] [] []
  | left {xs ys zs : List α} {v : α} (h : Merges xs ys zs) : Merges (xs ++ [v]) ys (zs ++ [v])
  | right {xs ys zs : List α} {v : α} (h : Merges xs ys zs) : Merges xs (ys ++ [v]) (zs ++ [v])

theorem Merges.length_eq {α : Type} {xs ys zs : List α} (h : Merges xs ys zs) :
    zs.length = xs.length + ys.length := by
  induction h with
  | nil => rfl
  | left _ ih =>
    simp only [List.length_append, List.length_singleton]
    omega
  | right _ ih =>
    simp only [List.length_append, List.length_singleton]
    omega

namespace Chan

/-- What the holder of a channel can do. -/
inductive Operation (α : Type) where
  | send (value : α)
  | deliver (value : α)
  | receive
  /-- Receive without waiting. -/
  | tryReceive
  | close
deriving DecidableEq, Repr

inductive Answer (α : Type) where
  | accepted
  | handedBack (value : α)
  | got (value : α)
  | nothing
  /-- With whether it was this call that closed the channel. -/
  | closed (first : Bool)
deriving DecidableEq, Repr

section Operations

variable {α : Type}

def answerSending (c : Chan α) : Sending α → Option (Answer α × Chan α)
  | .accepted c' => some (.accepted, c')
  | .refused v => some (.handedBack v, c)
  | .blocked => none

/-- Missing when the operation has to wait. -/
def perform (c : Chan α) : Operation α → Option (Answer α × Chan α)
  | .send v => c.answerSending (c.send v)
  | .deliver v => c.answerSending (c.deliver v)
  | .receive =>
    match c.receive with
    | .got v c' => some (.got v, c')
    | .ended => some (.nothing, c)
    | .blocked => none
  | .tryReceive =>
    match c.take with
    | some (v, c') => some (.got v, c')
    | none => some (.nothing, c)
  | .close => some (.closed c.close.1, c.close.2)

/-- An operation that was done, with its answer. -/
abbrev Turn (α : Type) := Operation α × Answer α

inductive Run (c₀ : Chan α) : List (Turn α) → Chan α → Prop
  | nil : Run c₀ [] c₀
  | snoc {turns : List (Turn α)} {c c' : Chan α} {op : Operation α} {a : Answer α}
      (hrun : Run c₀ turns c) (h : c.perform op = some (a, c')) : Run c₀ (turns ++ [(op, a)]) c'

end Operations

/-! ### What the turns tell -/

namespace Turn

variable {α : Type}

@[simp]
def sent? : Turn α → Option α
  | (.send v, .accepted) => some v
  | _ => none

@[simp]
def delivered? : Turn α → Option α
  | (.deliver v, .accepted) => some v
  | _ => none

@[simp]
def received? : Turn α → Option α
  | (_, .got v) => some v
  | _ => none

@[simp]
def closing? : Turn α → Option Bool
  | (_, .closed first) => some first
  | _ => none

end Turn

/-- Somebody has closed the channel. -/
def ClosedIn {α : Type} (turns : List (Turn α)) : Prop :=
  ∃ a, (Operation.close, a) ∈ turns

/-- What is known after some turns of a channel that was new before. The part of a run up to any
operation is a run, so what is said of the next operation is true of each one. -/
structure Account {α : Type} (capacity : Option Nat) (turns : List (Turn α)) (c : Chan α) :
    Prop where
  /-- Of the values that were accepted at either queue, the first ones have been received, each once
  and in their order, and the others are still there. -/
  queues : ∃ fromSent fromDelivered,
    Merges fromSent fromDelivered (turns.filterMap Turn.received?) ∧
      turns.filterMap Turn.sent? = fromSent ++ c.sent ∧
      turns.filterMap Turn.delivered? = fromDelivered ++ c.delivered
  size : c.size + (turns.filterMap Turn.received?).length =
    (turns.filterMap Turn.sent?).length + (turns.filterMap Turn.delivered?).length
  room : ∀ n, capacity = some n → c.sent.length ≤ n ∧ c.delivered.length ≤ n
  /-- Of all who closed the channel the first one was told so, and no other. -/
  closings : ¬ ClosedIn turns ∧ turns.filterMap Turn.closing? = [] ∨
    ClosedIn turns ∧ ∃ k, turns.filterMap Turn.closing? = true :: List.replicate k false
  /-- Nothing is put on a channel that is closed, and its sender keeps the value. -/
  refuses : ClosedIn turns → ∀ v, c.perform (.send v) = some (.handedBack v, c) ∧
    c.perform (.deliver v) = some (.handedBack v, c)
  accepts : ¬ ClosedIn turns → ∀ v a c',
    c.perform (.send v) = some (a, c') ∨ c.perform (.deliver v) = some (a, c') → a = .accepted
  ends : ∀ c', c.perform .receive = some (.nothing, c') ↔
    c' = c ∧ ClosedIn turns ∧ c.sent = [] ∧ c.delivered = []
  /-- Who has to wait until there is room finds values that can be received. -/
  sendWaits : ∀ v, c.perform (.send v) = none ↔
    ¬ ClosedIn turns ∧ c.sent ≠ [] ∧ capacity = some c.sent.length
  deliverWaits : ∀ v, c.perform (.deliver v) = none ↔
    ¬ ClosedIn turns ∧ c.delivered ≠ [] ∧ capacity = some c.delivered.length
  receiveWaits : c.perform .receive = none ↔
    ¬ ClosedIn turns ∧ c.sent = [] ∧ c.delivered = []

/-! ### One operation -/

section Steps

variable {α : Type} {c c' : Chan α} {op : Operation α} {a : Answer α} {v : α}

inductive Performs (c : Chan α) : Operation α → Answer α → Chan α → Prop
  | send {v : α} (hopen : c.closed = false) (hroom : c.hasRoom c.sent = true) :
      Performs c (.send v) .accepted { c with sent := c.sent ++ [v] }
  | sendClosed {v : α} (hclosed : c.closed = true) : Performs c (.send v) (.handedBack v) c
  | deliver {v : α} (hopen : c.closed = false) (hroom : c.hasRoom c.delivered = true) :
      Performs c (.deliver v) .accepted { c with delivered := c.delivered ++ [v] }
  | deliverClosed {v : α} (hclosed : c.closed = true) : Performs c (.deliver v) (.handedBack v) c
  | takeSent {op : Operation α} {v : α} {rest : List α} (hop : op = .receive ∨ op = .tryReceive)
      (hsent : c.sent = v :: rest) : Performs c op (.got v) { c with sent := rest }
  | takeDelivered {op : Operation α} {v : α} {rest : List α}
      (hop : op = .receive ∨ op = .tryReceive) (hsent : c.sent = [])
      (hdelivered : c.delivered = v :: rest) : Performs c op (.got v) { c with delivered := rest }
  | ended (hclosed : c.closed = true) (hsent : c.sent = []) (hdelivered : c.delivered = []) :
      Performs c .receive .nothing c
  | tryNothing (hsent : c.sent = []) (hdelivered : c.delivered = []) :
      Performs c .tryReceive .nothing c
  | close : Performs c .close (.closed !c.closed) { c with closed := true }

theorem answerSending_of_push {queue : List α} {withQueue : List α → Chan α}
    (h : c.answerSending (c.push queue withQueue v) = some (a, c')) :
    c.closed = false ∧ c.hasRoom queue = true ∧ a = .accepted ∧ c' = withQueue (queue ++ [v]) ∨
      c.closed = true ∧ a = .handedBack v ∧ c' = c := by
  cases hpush : c.push queue withQueue v with
  | accepted c₁ =>
    obtain ⟨hopen, hroom, rfl⟩ := push_eq_accepted hpush
    rw [hpush] at h
    cases h
    exact .inl ⟨hopen, hroom, rfl, rfl⟩
  | refused w =>
    obtain ⟨hclosed, rfl⟩ := push_eq_refused hpush
    rw [hpush] at h
    cases h
    exact .inr ⟨hclosed, rfl, rfl⟩
  | blocked =>
    rw [hpush] at h
    cases h

theorem take_eq_some (h : c.take = some (v, c')) :
    (∃ rest, c.sent = v :: rest ∧ c' = { c with sent := rest }) ∨
      c.sent = [] ∧ ∃ rest, c.delivered = v :: rest ∧ c' = { c with delivered := rest } := by
  rw [take_eq] at h
  cases htake : c.takeSent with
  | some taken =>
    rw [htake] at h
    cases h
    exact .inl (takeSent_eq_some htake)
  | none =>
    rw [htake] at h
    exact .inr ⟨takeSent_eq_none htake, takeDelivered_eq_some h⟩

theorem take_eq_none_iff : c.take = none ↔ c.sent = [] ∧ c.delivered = [] := by
  rw [take_eq, takeSent, takeDelivered]
  cases c.sent <;> cases c.delivered <;> simp

theorem Performs.of_take (hop : op = .receive ∨ op = .tryReceive) (h : c.take = some (v, c')) :
    c.Performs op (.got v) c' := by
  rcases take_eq_some h with ⟨rest, hsent, rfl⟩ | ⟨hsent, rest, hdelivered, rfl⟩
  · exact .takeSent hop hsent
  · exact .takeDelivered hop hsent hdelivered

theorem performs_of_perform (h : c.perform op = some (a, c')) : c.Performs op a c' := by
  cases op with
  | send v =>
    rcases answerSending_of_push h with ⟨hopen, hroom, rfl, rfl⟩ | ⟨hclosed, rfl, rfl⟩
    · exact .send hopen hroom
    · exact .sendClosed hclosed
  | deliver v =>
    rcases answerSending_of_push h with ⟨hopen, hroom, rfl, rfl⟩ | ⟨hclosed, rfl, rfl⟩
    · exact .deliver hopen hroom
    · exact .deliverClosed hclosed
  | receive =>
    rw [perform, receive] at h
    cases htake : c.take with
    | some taken =>
      rw [htake] at h
      cases h
      exact .of_take (.inl rfl) htake
    | none =>
      obtain ⟨hsent, hdelivered⟩ := take_eq_none_iff.1 htake
      cases hclosed : c.closed with
      | true =>
        simp only [htake, hclosed] at h
        cases h
        exact .ended hclosed hsent hdelivered
      | false =>
        simp only [htake, hclosed] at h
        cases h
  | tryReceive =>
    rw [perform] at h
    cases htake : c.take with
    | some taken =>
      rw [htake] at h
      cases h
      exact .of_take (.inr rfl) htake
    | none =>
      obtain ⟨hsent, hdelivered⟩ := take_eq_none_iff.1 htake
      rw [htake] at h
      cases h
      exact .tryNothing hsent hdelivered
  | close =>
    cases h
    exact .close

/-! ### Who waits -/

theorem perform_receive_of_empty (hsent : c.sent = []) (hdelivered : c.delivered = []) :
    c.perform .receive = if c.closed then some (.nothing, c) else none := by
  rw [perform, receive, take_eq_none_iff.2 ⟨hsent, hdelivered⟩]
  cases c.closed <;> rfl

theorem perform_receive_eq_none_iff :
    c.perform .receive = none ↔ c.closed = false ∧ c.sent = [] ∧ c.delivered = [] := by
  constructor
  · intro h
    cases htake : c.take with
    | some taken =>
      rw [perform, receive, htake] at h
      cases h
    | none =>
      obtain ⟨hsent, hdelivered⟩ := take_eq_none_iff.1 htake
      rw [perform_receive_of_empty hsent hdelivered] at h
      cases hclosed : c.closed with
      | false => exact ⟨rfl, hsent, hdelivered⟩
      | true => simp [hclosed] at h
  · rintro ⟨hopen, hsent, hdelivered⟩
    rw [perform_receive_of_empty hsent hdelivered, hopen]
    rfl

theorem answerSending_push_eq_none_iff {queue : List α} {withQueue : List α → Chan α} :
    c.answerSending (c.push queue withQueue v) = none ↔
      c.closed = false ∧ c.hasRoom queue = false := by
  have hpush : c.push queue withQueue v = .blocked ↔ c.closed = false ∧ c.hasRoom queue = false :=
    push_eq_blocked_iff
  rw [← hpush]
  cases c.push queue withQueue v <;> simp [answerSending]

/-- A queue without room holds as many values as it can, which is at least one. -/
theorem hasRoom_eq_false_iff {queue : List α} (hcapacity : c.capacity ≠ some 0)
    (hqueue : ∀ n, c.capacity = some n → queue.length ≤ n) :
    c.hasRoom queue = false ↔ queue ≠ [] ∧ c.capacity = some queue.length := by
  rw [hasRoom]
  cases hn : c.capacity with
  | none => simp
  | some n =>
    have hle := hqueue n hn
    have hpos : n ≠ 0 := fun h => hcapacity (h ▸ hn)
    simp only [decide_eq_false_iff_not, Nat.not_lt, Option.some.injEq]
    constructor
    · intro hfull
      have hlength : n = queue.length := Nat.le_antisymm hfull hle
      exact ⟨fun hnil => hpos (by rw [hlength, hnil]; rfl), hlength⟩
    · rintro ⟨_, hlength⟩
      exact Nat.le_of_eq hlength

end Steps

/-! ### Runs -/

section Runs

variable {α : Type} {capacity : Option Nat} {turns : List (Turn α)} {c c' : Chan α}
  {op : Operation α} {a : Answer α}

/-- What each operation keeps. -/
structure Keeps (capacity : Option Nat) (turns : List (Turn α)) (c : Chan α) : Prop where
  sized : c.capacity = capacity
  queues : ∃ fromSent fromDelivered,
    Merges fromSent fromDelivered (turns.filterMap Turn.received?) ∧
      turns.filterMap Turn.sent? = fromSent ++ c.sent ∧
      turns.filterMap Turn.delivered? = fromDelivered ++ c.delivered
  room : ∀ n, capacity = some n → c.sent.length ≤ n ∧ c.delivered.length ≤ n
  closed_iff : c.closed = true ↔ ClosedIn turns
  closings : turns.filterMap Turn.closing? = [] ∧ c.closed = false ∨
    (∃ k, turns.filterMap Turn.closing? = true :: List.replicate k false) ∧ c.closed = true

theorem keeps_new (capacity : Option Nat) : Keeps capacity [] (new capacity : Chan α) where
  sized := rfl
  queues := ⟨[], [], .nil, rfl, rfl⟩
  room n _ := ⟨Nat.zero_le n, Nat.zero_le n⟩
  closed_iff := by simp [new, ClosedIn]
  closings := .inl ⟨rfl, rfl⟩

theorem closedIn_concat {t : Turn α} :
    ClosedIn (turns ++ [t]) ↔ ClosedIn turns ∨ t.1 = .close := by
  obtain ⟨op, a⟩ := t
  simp only [ClosedIn, List.mem_append, List.mem_singleton, Prod.mk.injEq, exists_or]
  refine or_congr_right ⟨?_, ?_⟩
  · rintro ⟨_, hop, _⟩
    exact hop.symm
  · rintro rfl
    exact ⟨a, rfl, rfl⟩

/-- An operation other than closing changes neither whether the channel is closed nor what the
closings tell. -/
theorem Keeps.of_not_close (t : Turn α) (c' : Chan α) (h : Keeps capacity turns c)
    (hop : t.1 ≠ .close) (ha : t.closing? = none) (hclosed : c'.closed = c.closed) :
    (c'.closed = true ↔ ClosedIn (turns ++ [t])) ∧
      ((turns ++ [t]).filterMap Turn.closing? = [] ∧ c'.closed = false ∨
        (∃ k, (turns ++ [t]).filterMap Turn.closing? = true :: List.replicate k false) ∧
          c'.closed = true) := by
  rw [closedIn_concat, or_iff_left hop, hclosed, List.filterMap_append]
  simp only [List.filterMap_cons, ha, List.filterMap_nil, List.append_nil]
  exact ⟨h.closed_iff, h.closings⟩

theorem Keeps.of_unchanged {t : Turn α} (h : Keeps capacity turns c) (hop : t.1 ≠ .close)
    (hsent : t.sent? = none) (hdelivered : t.delivered? = none) (hreceived : t.received? = none)
    (hclosing : t.closing? = none) : Keeps capacity (turns ++ [t]) c := by
  obtain ⟨hclosed, hclosings⟩ := h.of_not_close t c hop hclosing rfl
  refine ⟨h.sized, ?_, h.room, hclosed, hclosings⟩
  simpa only [List.filterMap_append, List.filterMap_cons, hsent, hdelivered, hreceived,
    List.filterMap_nil, List.append_nil] using h.queues

theorem lt_of_hasRoom {queue : List α} (h : c.hasRoom queue = true) {n : Nat}
    (hn : c.capacity = some n) : queue.length < n := by
  rw [hasRoom, hn] at h
  exact of_decide_eq_true h

theorem Keeps.step (h : Keeps capacity turns c) (hstep : c.Performs op a c') :
    Keeps capacity (turns ++ [(op, a)]) c' := by
  obtain ⟨fromSent, fromDelivered, hmerges, hsent, hdelivered⟩ := h.queues
  cases hstep with
  | @send v hopen hroom =>
    obtain ⟨hclosed, hclosings⟩ := h.of_not_close (.send v, .accepted)
      { c with sent := c.sent ++ [v] } nofun rfl rfl
    refine ⟨h.sized, ⟨fromSent, fromDelivered, ?_, ?_, ?_⟩, fun n hn => ?_, hclosed, hclosings⟩
    · simpa [List.filterMap_cons] using hmerges
    · simp [hsent]
    · simpa [List.filterMap_cons] using hdelivered
    · have hlt := lt_of_hasRoom hroom (h.sized.trans hn)
      exact ⟨by simpa using Nat.succ_le_of_lt hlt, (h.room n hn).2⟩
  | @deliver v hopen hroom =>
    obtain ⟨hclosed, hclosings⟩ := h.of_not_close (.deliver v, .accepted)
      { c with delivered := c.delivered ++ [v] } nofun rfl rfl
    refine ⟨h.sized, ⟨fromSent, fromDelivered, ?_, ?_, ?_⟩, fun n hn => ?_, hclosed, hclosings⟩
    · simpa [List.filterMap_cons] using hmerges
    · simpa [List.filterMap_cons] using hsent
    · simp [hdelivered]
    · have hlt := lt_of_hasRoom hroom (h.sized.trans hn)
      exact ⟨(h.room n hn).1, by simpa using Nat.succ_le_of_lt hlt⟩
  | sendClosed => exact h.of_unchanged nofun rfl rfl rfl rfl
  | deliverClosed => exact h.of_unchanged nofun rfl rfl rfl rfl
  | ended => exact h.of_unchanged nofun rfl rfl rfl rfl
  | tryNothing => exact h.of_unchanged nofun rfl rfl rfl rfl
  | @takeSent _ v rest hop hqueue =>
    obtain ⟨hclosed, hclosings⟩ := h.of_not_close (op, .got v)
      { c with sent := rest } (by rcases hop with rfl | rfl <;> nofun) rfl rfl
    refine ⟨h.sized, ⟨fromSent ++ [v], fromDelivered, ?_, ?_, ?_⟩, fun n hn => ?_, hclosed,
      hclosings⟩
    · simpa using hmerges.left
    · rcases hop with rfl | rfl <;> simp [List.filterMap_cons, hsent, hqueue]
    · rcases hop with rfl | rfl <;> simpa [List.filterMap_cons] using hdelivered
    · have hle := (h.room n hn).1
      rw [hqueue] at hle
      exact ⟨Nat.le_of_succ_le hle, (h.room n hn).2⟩
  | @takeDelivered _ v rest hop _ hqueue =>
    obtain ⟨hclosed, hclosings⟩ := h.of_not_close (op, .got v)
      { c with delivered := rest } (by rcases hop with rfl | rfl <;> nofun) rfl rfl
    refine ⟨h.sized, ⟨fromSent, fromDelivered ++ [v], ?_, ?_, ?_⟩, fun n hn => ?_, hclosed,
      hclosings⟩
    · simpa using hmerges.right
    · rcases hop with rfl | rfl <;> simpa [List.filterMap_cons] using hsent
    · rcases hop with rfl | rfl <;> simp [List.filterMap_cons, hdelivered, hqueue]
    · have hle := (h.room n hn).2
      rw [hqueue] at hle
      exact ⟨(h.room n hn).1, Nat.le_of_succ_le hle⟩
  | close =>
    refine ⟨h.sized, ⟨fromSent, fromDelivered, ?_, ?_, ?_⟩, h.room, ?_, .inr ⟨?_, rfl⟩⟩
    · simpa [List.filterMap_cons] using hmerges
    · simpa [List.filterMap_cons] using hsent
    · simpa [List.filterMap_cons] using hdelivered
    · exact iff_of_true rfl (closedIn_concat.2 (.inr rfl))
    · rcases h.closings with ⟨hnone, hopen⟩ | ⟨⟨k, hmany⟩, hclosed⟩
      · exact ⟨0, by simp [hnone, hopen]⟩
      · exact ⟨k + 1, by simp [hmany, hclosed, List.replicate_succ']⟩

theorem Run.keeps (hrun : Run (new capacity) turns c) : Keeps capacity turns c := by
  induction hrun with
  | nil => exact keeps_new capacity
  | snoc _ h ih => exact ih.step (performs_of_perform h)

theorem Keeps.open_iff (h : Keeps capacity turns c) : c.closed = false ↔ ¬ ClosedIn turns := by
  rw [← h.closed_iff, Bool.not_eq_true]

theorem Keeps.size_eq (h : Keeps capacity turns c) :
    c.size + (turns.filterMap Turn.received?).length =
      (turns.filterMap Turn.sent?).length + (turns.filterMap Turn.delivered?).length := by
  obtain ⟨fromSent, fromDelivered, hmerges, hsent, hdelivered⟩ := h.queues
  rw [hmerges.length_eq, hsent, hdelivered, List.length_append, List.length_append, size]
  omega

/-- What an open channel does not take has to wait. -/
theorem answer_of_push {queue : List α} {withQueue : List α → Chan α} {v : α}
    (hopen : c.closed = false) (h : c.answerSending (c.push queue withQueue v) = some (a, c')) :
    a = .accepted := by
  rcases answerSending_of_push h with ⟨_, _, ha, _⟩ | ⟨hclosed, _⟩
  · exact ha
  · rw [hopen] at hclosed
    cases hclosed

/-- Whatever is done, by whomever, to a channel that can hold values. -/
theorem Run.account (hcapacity : capacity ≠ some 0) (hrun : Run (new capacity) turns c) :
    Account capacity turns c := by
  have h := hrun.keeps
  have hroom : c.capacity ≠ some 0 := h.sized.symm ▸ hcapacity
  refine ⟨h.queues, h.size_eq, h.room, ?closings, ?refuses, ?accepts, ?ends, ?sendWaits,
    ?deliverWaits, ?receiveWaits⟩
  case closings =>
    rcases h.closings with ⟨hnone, hopen⟩ | ⟨hmany, hclosed⟩
    · exact .inl ⟨h.open_iff.1 hopen, hnone⟩
    · exact .inr ⟨h.closed_iff.1 hclosed, hmany⟩
  case refuses =>
    intro hclosed v
    have hclosed := h.closed_iff.2 hclosed
    constructor
    · rw [perform, send, push_of_closed hclosed]
      rfl
    · rw [perform, deliver, push_of_closed hclosed]
      rfl
  case accepts =>
    intro hopen v a c' hdone
    have hopen := h.open_iff.2 hopen
    rcases hdone with hdone | hdone
    · exact answer_of_push hopen hdone
    · exact answer_of_push hopen hdone
  case ends =>
    intro c'
    constructor
    · intro hended
      cases performs_of_perform hended with
      | ended hclosed hsent hdelivered =>
        exact ⟨rfl, h.closed_iff.1 hclosed, hsent, hdelivered⟩
    · rintro ⟨rfl, hclosed, hsent, hdelivered⟩
      rw [perform_receive_of_empty hsent hdelivered, h.closed_iff.2 hclosed]
      rfl
  case sendWaits =>
    intro v
    rw [← h.open_iff, ← h.sized]
    exact answerSending_push_eq_none_iff.trans (and_congr_right fun _ =>
      hasRoom_eq_false_iff hroom fun n hn => (h.room n (h.sized ▸ hn)).1)
  case deliverWaits =>
    intro v
    rw [← h.open_iff, ← h.sized]
    exact answerSending_push_eq_none_iff.trans (and_congr_right fun _ =>
      hasRoom_eq_false_iff hroom fun n hn => (h.room n (h.sized ▸ hn)).2)
  case receiveWaits =>
    rw [← h.open_iff]
    exact perform_receive_eq_none_iff

/-- A channel with room for two values at either side, closed while both sides hold some. -/
def ferried : List (Turn Nat) :=
  [(.send 1, .accepted), (.deliver 7, .accepted), (.send 2, .accepted), (.receive, .got 1),
    (.close, .closed true), (.send 3, .handedBack 3), (.tryReceive, .got 2), (.close, .closed false),
    (.receive, .got 7), (.deliver 8, .handedBack 8), (.receive, .nothing)]

theorem run_ferried : Run (new (some 2)) ferried ⟨some 2, [], [], true⟩ :=
  .snoc (.snoc (.snoc (.snoc (.snoc (.snoc (.snoc (.snoc (.snoc (.snoc (.snoc .nil
    rfl) rfl) rfl) rfl) rfl) rfl) rfl) rfl) rfl) rfl) rfl

theorem account_ferried : (some 2 ≠ some 0) ∧ Run (new (some 2)) ferried ⟨some 2, [], [], true⟩ ∧
    Account (some 2) ferried ⟨some 2, [], [], true⟩ :=
  ⟨by decide, run_ferried, Run.account (by decide) run_ferried⟩

end Runs

end Chan
end ScriptBind
