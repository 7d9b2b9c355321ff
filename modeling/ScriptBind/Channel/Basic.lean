import ScriptBind.Value.Basic

/-!
# ScriptBind.Channel.Basic

Channels that can be closed once. A channel has two queues: for what was sent by its users, and
for what was delivered to it from the other side of the boundary. Receivers take from both, and a
bridge reads only the first, so it never reads back what it delivered.

* `Chan` - a channel; its operations say when they have to wait.
* `ScriptChan` - the end that a script holds, a channel for each way.
-/

namespace ScriptBind

structure Chan (α : Type) where
  /-- How many values either queue holds; without a capacity, any number. A channel of capacity
  zero holds none: a value goes straight from a sender to a receiver. -/
  capacity : Option Nat
  sent : List α
  delivered : List α
  closed : Bool
deriving DecidableEq, Repr

/-- The outcome of sending: the channel with the value in it, the value handed back by a closed
channel, or no room yet. -/
inductive Sending (α : Type) where
  | accepted (chan : Chan α)
  | refused (value : α)
  | blocked

/-- The outcome of receiving. A channel has ended when it is closed and empty. -/
inductive Receiving (α : Type) where
  | got (value : α) (chan : Chan α)
  | ended
  | blocked

namespace Chan

variable {α : Type}

def new (capacity : Option Nat) : Chan α := ⟨capacity, [], [], false⟩

def hasRoom (c : Chan α) (queue : List α) : Bool :=
  match c.capacity with
  | none => true
  | some n => queue.length < n

/-- Put a value at the end of one of the two queues. -/
def push (c : Chan α) (queue : List α) (withQueue : List α → Chan α) (value : α) : Sending α :=
  if c.closed then .refused value
  else if c.hasRoom queue then .accepted (withQueue (queue ++ [value]))
  else .blocked

def send (c : Chan α) : α → Sending α := c.push c.sent fun queue => { c with sent := queue }

def deliver (c : Chan α) : α → Sending α :=
  c.push c.delivered fun queue => { c with delivered := queue }

/-- Take what was sent, and nothing else. -/
def takeSent (c : Chan α) : Option (α × Chan α) :=
  match c.sent with
  | v :: rest => some (v, { c with sent := rest })
  | [] => none

/-- What was sent comes before what was delivered. -/
def take (c : Chan α) : Option (α × Chan α) :=
  match c.takeSent with
  | some taken => some taken
  | none =>
    match c.delivered with
    | v :: rest => some (v, { c with delivered := rest })
    | [] => none

def receive (c : Chan α) : Receiving α :=
  match c.take with
  | some (v, c) => .got v c
  | none => if c.closed then .ended else .blocked

/-- Also says whether it was open, so that of all who close a channel one is told. -/
def close (c : Chan α) : Bool × Chan α := (!c.closed, { c with closed := true })

def size (c : Chan α) : Nat := c.sent.length + c.delivered.length

def isEmpty (c : Chan α) : Bool := c.sent.isEmpty && c.delivered.isEmpty

def isRendezvous (c : Chan α) : Bool := c.capacity = some 0

end Chan

/-- The script receives from `incoming` and sends to `outgoing`. Whether it is open is told by
`outgoing`. -/
structure ScriptChan where
  incoming : Chan Value
  outgoing : Chan Value

def ScriptChan.new : ScriptChan := ⟨.new none, .new none⟩

end ScriptBind
