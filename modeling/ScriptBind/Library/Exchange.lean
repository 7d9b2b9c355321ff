import ScriptBind.Crossing.Interpreter

/-!
# ScriptBind.Library.Exchange

The traffic on channels: who sends, who receives, and the workers of the bridges. Whoever has to
wait is kept until another move lets it go on.

* `ChanTask` - a send or a receive that may have to wait.
* `Exchange` - the shared state with the tasks that were started.
* `Exchange.step?` - one move of a worker or a task; it is missing when all of them wait.
* `Exchange.settle` - moves until all of them wait.
-/

namespace ScriptBind

inductive ChanTask where
  | sendNative (chan : Nat) (value : NativeValue)
  | sendScript (chan : Nat) (value : Value)
  | receiveNative (chan : Nat)
  | receiveScript (chan : Nat)

inductive ChanAnswer where
  | sent
  | refused
  | native (value : NativeValue)
  | script (value : Value)
  /-- The channel is closed, and nothing is left in it. -/
  | ended

/-- What became of a task. -/
inductive TaskState where
  | waiting (task : ChanTask)
  | done (answer : ChanAnswer)

structure Exchange where
  boundary : Boundary
  /-- In the order in which they were started. -/
  tasks : List TaskState

namespace Exchange

def empty : Exchange := ⟨.empty, []⟩

instance : Inhabited Exchange := ⟨empty⟩

def native? (x : Exchange) (id : Nat) : Option (Chan NativeValue) := x.boundary.natives[id]?

def script? (x : Exchange) (id : Nat) : Option ScriptChan := x.boundary.scripts[id]?

def setNative (x : Exchange) (id : Nat) (c : Chan NativeValue) : Exchange :=
  { x with boundary := x.boundary.setNative id c }

def setScript (x : Exchange) (id : Nat) (c : ScriptChan) : Exchange :=
  { x with boundary := x.boundary.setScript id c }

/-! ### Channels without room, where a value goes from hand to hand -/

/-- The first sender that waits for a receiver on a channel. It is done then. -/
def offer? (chan : Nat) : List TaskState → Option (NativeValue × List TaskState)
  | [] => none
  | .waiting (.sendNative c v) :: rest =>
    if c = chan then some (v, .done .sent :: rest)
    else (offer? chan rest).map fun (w, rest) => (w, .waiting (.sendNative c v) :: rest)
  | other :: rest => (offer? chan rest).map fun (w, rest) => (w, other :: rest)

/-- The first worker that waits for a receiver on a channel. It is free then. -/
def delivery? (chan : Nat) : List Bridge → Option (NativeValue × List Bridge)
  | [] => none
  | b :: rest =>
    let next := (delivery? chan rest).map fun (w, rest) => (w, b :: rest)
    if b.native = chan then
      match b.worker.load with
      | .toNative v => some (v, { b with worker.load := .none } :: rest)
      | _ => next
    else next

def takeOffer (x : Exchange) (chan : Nat) : Option (NativeValue × Exchange) :=
  match x.native? chan with
  | some c =>
    if c.isRendezvous then
      (offer? chan x.tasks).map fun (v, tasks) => (v, { x with tasks := tasks })
    else none
  | none => none

def takeDelivery (x : Exchange) (chan : Nat) : Option (NativeValue × Exchange) :=
  match x.native? chan with
  | some c =>
    if c.isRendezvous then
      (delivery? chan x.boundary.bridges).map fun (v, bridges) =>
        (v, { x with boundary := { x.boundary with bridges := bridges } })
    else none
  | none => none

/-! ### Tasks -/

def receiveNative? (x : Exchange) (chan : Nat) : Option (ChanAnswer × Exchange) :=
  match x.native? chan with
  | none => none
  | some c =>
    match c.receive with
    | .got v c => some (.native v, x.setNative chan c)
    | .ended => some (.ended, x)
    | .blocked =>
      match x.takeOffer chan with
      | some (v, x) => some (.native v, x)
      | none => (x.takeDelivery chan).map fun (v, x) => (.native v, x)

def receiveScript? (x : Exchange) (chan : Nat) : Option (ChanAnswer × Exchange) :=
  match x.script? chan with
  | none => none
  | some s =>
    match s.incoming.receive with
    | .got v c => some (.script v, x.setScript chan { s with incoming := c })
    | .ended => some (.ended, x)
    | .blocked => none

/-- The answer to a task, missing as long as it has to wait. -/
def attempt (x : Exchange) : ChanTask → Option (ChanAnswer × Exchange)
  | .sendNative chan v =>
    match x.native? chan with
    | none => none
    | some c =>
      match c.send v with
      | .accepted c => some (.sent, x.setNative chan c)
      | .refused _ => some (.refused, x)
      | .blocked => none
  | .sendScript chan v =>
    match x.script? chan with
    | none => none
    | some s =>
      match s.outgoing.send v with
      | .accepted c => some (.sent, x.setScript chan { s with outgoing := c })
      | .refused _ => some (.refused, x)
      | .blocked => none
  | .receiveNative chan => x.receiveNative? chan
  | .receiveScript chan => x.receiveScript? chan

def stepTask (x : Exchange) (position : Nat) : Option Exchange :=
  match x.tasks[position]? with
  | some (.waiting task) =>
    (x.attempt task).map fun (answer, x) =>
      { x with tasks := x.tasks.set position (.done answer) }
  | _ => none

/-! ### Workers -/

def setBridge (x : Exchange) (position : Nat) (b : Bridge) : Exchange :=
  { x with boundary.bridges := x.boundary.bridges.set position b }

/-- The worker takes up what a conversion gives. An error is reported. -/
def load {α : Type} (x : Exchange) (position : Nat) (b : Bridge) (carry : α → Load)
    (conversion : CrossM α) : Exchange :=
  let (result, boundary) := conversion x.boundary
  let x := { x with boundary := boundary }
  match result with
  | .ok v => x.setBridge position { b with worker.load := carry v }
  | .error (.failed e) => { x with boundary := x.boundary.report e }
  | .error .endless => x.setBridge position { b with worker.mode := .stuck }

def elementName (lib : Library) (element : ShapeId) : String :=
  match lib.shapes.get? element with
  | some shape => shape.name
  | none => shapeIdText element

/-- A value that a script sends on a channel from which it may only receive is an error. -/
def convertSent (lib : Library) (b : Bridge) (v : Value) : CrossM NativeValue :=
  if b.direction.forwardsToNative then lib.fromScript b.element v
  else CrossM.fail (.protocol ("send on receive-only chan " ++ elementName lib b.element))

def setEnds (x : Exchange) (b : Bridge) (ends : Ends) : Exchange :=
  (x.setNative b.native ends.native).setScript b.script ends.script

def stepPut (x : Exchange) (position : Nat) (b : Bridge) (ends : Ends) : Option Exchange :=
  (ends.put b.worker).map fun (ends, worker) =>
    (x.setEnds b ends).setBridge position { b with worker := worker }

def stepTakeNative (x : Exchange) (lib : Library) (position : Nat) (b : Bridge) (ends : Ends) :
    Option Exchange :=
  let taken :=
    match ends.takeNative b.worker b.direction with
    | some (v, ends) => some (v, x.setEnds b ends)
    | none => if b.worker.readsNative b.direction then x.takeOffer b.native else none
  taken.map fun (v, x) => x.load position b .toScript (lib.toScript b.element v)

def stepTakeScript (x : Exchange) (lib : Library) (position : Nat) (b : Bridge) (ends : Ends) :
    Option Exchange :=
  (ends.takeScript b.worker).map fun (v, ends) =>
    (x.setEnds b ends).load position b .toNative (convertSent lib b v)

def stepClose (x : Exchange) (position : Nat) (b : Bridge) (ends : Ends) : Option Exchange :=
  match ends.noticeClose b.worker with
  | some worker => some (x.setBridge position { b with worker := worker })
  | none =>
    (ends.finish b.worker b.direction).map fun (ends, worker) =>
      (x.setEnds b ends).setBridge position { b with worker := worker }

/-- A worker that has stopped takes its bridge down. -/
def stepRemove (x : Exchange) (position : Nat) (b : Bridge) : Option Exchange :=
  if b.worker.mode = .stopped then
    some { x with boundary.bridges := x.boundary.bridges.eraseIdx position }
  else none

/-- A worker forwards all that it can before it looks whether an end has closed. -/
def stepWorker (x : Exchange) (lib : Library) (position : Nat) : Option Exchange :=
  match x.boundary.bridges[position]? with
  | none => none
  | some b =>
    match x.native? b.native, x.script? b.script with
    | some native, some script =>
      let ends : Ends := ⟨native, script⟩
      (x.stepPut position b ends).or <|
        (x.stepTakeNative lib position b ends).or <|
          (x.stepTakeScript lib position b ends).or <|
            (x.stepClose position b ends).or (x.stepRemove position b)
    | _, _ => none

/-! ### All together -/

/-- The first move that is ready: of the workers, oldest first, and then of the tasks. -/
def step? (x : Exchange) (lib : Library) : Option Exchange :=
  ((List.range x.boundary.bridges.length).findSome? (x.stepWorker lib)).or
    ((List.range x.tasks.length).findSome? x.stepTask)

def taskWork : TaskState → Nat
  | .waiting (.sendNative _ v) => 3 + 4 * v.size
  | .waiting (.sendScript _ v) => 3 + 4 * v.size
  | .waiting _ => 1
  | .done _ => 0

/-- A bound on the moves that can follow. A value is taken and put down once, and each channel in
it can bring up a bridge; a bridge puts down its load, drains, closes and goes. -/
def work (x : Exchange) : Nat :=
  (x.boundary.natives.toList.flatMap (·.sent)).foldl (fun n v => n + 2 + 4 * v.size) 0 +
    (x.boundary.scripts.toList.flatMap (·.outgoing.sent)).foldl (fun n v => n + 2 + 4 * v.size) 0 +
    x.tasks.foldl (fun n t => n + taskWork t) 0 + 4 * x.boundary.bridges.length

def run (lib : Library) : Nat → Exchange → Exchange
  | 0, x => x
  | moves + 1, x =>
    match x.step? lib with
    | some x => run lib moves x
    | none => x

def settle (x : Exchange) (lib : Library) : Exchange := run lib x.work x

/-- Start a task and let everybody go on. The answer comes with the position of the task. -/
def start (x : Exchange) (lib : Library) (task : ChanTask) : Nat × Exchange :=
  (x.tasks.length, ({ x with tasks := x.tasks ++ [.waiting task] } : Exchange).settle lib)

def answer? (x : Exchange) (position : Nat) : Option ChanAnswer :=
  match x.tasks[position]? with
  | some (.done answer) => some answer
  | _ => none

/-- Receive without waiting. -/
def poll (x : Exchange) (task : ChanTask) : ChanAnswer × Exchange :=
  match x.attempt task with
  | some done => done
  | none => (.ended, x)

def closeNative (x : Exchange) (id : Nat) : Bool × Exchange :=
  match x.native? id with
  | some c => (c.close.1, x.setNative id c.close.2)
  | none => (false, x)

def closeScript (x : Exchange) (id : Nat) : Bool × Exchange :=
  match x.script? id with
  | some s => (s.outgoing.close.1, x.setScript id { s with outgoing := s.outgoing.close.2 })
  | none => (false, x)

end Exchange

end ScriptBind
