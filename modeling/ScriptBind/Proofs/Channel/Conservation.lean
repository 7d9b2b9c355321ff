import ScriptBind.Proofs.Channel.Moves

/-!
# ScriptBind.Proofs.Channel.Conservation

No value is lost, doubled, reordered or echoed by a bridge.

* `Fate` - where a value is that was sent at one end.
* `Ledger` - a list of all values sent at one end with their fates, and what the fates say about the
  queues.
* `Pairing.Run.accounts` - every run has such a ledger for either end.
-/

namespace ScriptBind

/-- Where a value is that was sent at one end of a bridge, and as what. -/
inductive Fate (β : Type) where
  /-- Still where it was sent. -/
  | queued
  /-- Received at the end where it was sent. -/
  | kept
  /-- The worker has it. -/
  | carried (as : β)
  /-- It was put down at the other end. -/
  | arrived (as : β)
  /-- The other end was closed when the worker came there. -/
  | dropped (as : β)
  | reported (error : ConversionError)
  /-- Its conversion goes on without end. -/
  | unfinished

namespace Fate

variable {α β : Type}

/-- What the conversion of the value gave, if it has been converted. -/
def result? : Fate β → Option (Except Stop β)
  | .queued => none
  | .kept => none
  | .carried as => some (.ok as)
  | .arrived as => some (.ok as)
  | .dropped as => some (.ok as)
  | .reported e => some (.error (.failed e))
  | .unfinished => some (.error .endless)

@[simp]
def queued? : α × Fate β → Option α
  | (v, .queued) => some v
  | _ => none

@[simp]
def kept? : α × Fate β → Option α
  | (v, .kept) => some v
  | _ => none

@[simp]
def carried? : α × Fate β → Option β
  | (_, .carried as) => some as
  | _ => none

@[simp]
def arrived? : α × Fate β → Option β
  | (_, .arrived as) => some as
  | _ => none

@[simp]
def dropped? : α × Fate β → Option β
  | (_, .dropped as) => some as
  | _ => none

@[simp]
def reported? : α × Fate β → Option ConversionError
  | (_, .reported e) => some e
  | _ => none

end Fate

/-- The places where values can be that were sent at one end, with what is in each of them. -/
structure Places (α β : Type) where
  queued : List α
  kept : List α
  carried : List β
  arrived : List β
  dropped : List β
  reported : List ConversionError

/-- Each value is in the place that its fate says, and in each place they stand in the order in
which they were sent. -/
def Places.ofFates {α β : Type} (fates : List (α × Fate β)) : Places α β where
  queued := fates.filterMap Fate.queued?
  kept := fates.filterMap Fate.kept?
  carried := fates.filterMap Fate.carried?
  arrived := fates.filterMap Fate.arrived?
  dropped := fates.filterMap Fate.dropped?
  reported := fates.filterMap Fate.reported?

/-- All values that were sent at one end, in their order, with their fates: nothing else is in any
of the places, and a value that was converted is there as what its conversion gave. -/
structure Ledger {α β : Type} (Converts : α → Except Stop β → Prop) (sent : List α)
    (fates : List (α × Fate β)) (places : Places α β) : Prop where
  sent : fates.map (·.1) = sent
  places : Places.ofFates fates = places
  converts : ∀ v f r, (v, f) ∈ fates → f.result? = some r → Converts v r

/-! ### From what left a queue and what was put down to fates -/

section Fates

variable {α β : Type}

@[simp]
def unconverted? : α × Option (Except Stop β) → Option α
  | (v, none) => some v
  | _ => none

@[simp]
def failure? : α × Option (Except Stop β) → Option ConversionError
  | (_, some (.error (.failed e))) => some e
  | _ => none

@[simp]
def refused? : α × Bool → Option α
  | (v, false) => some v
  | _ => none

/-- The values that left a queue, with what became of them. What the worker converted was put down
in the same order, except for what it still carries. -/
def fatesOf : List (α × Option (Except Stop β)) → List (β × Bool) → List (α × Fate β)
  | [], _ => []
  | (v, none) :: outs, puts => (v, .kept) :: fatesOf outs puts
  | (v, some (.error (.failed e))) :: outs, puts => (v, .reported e) :: fatesOf outs puts
  | (v, some (.error .endless)) :: outs, puts => (v, .unfinished) :: fatesOf outs puts
  | (v, some (.ok as)) :: outs, [] => (v, .carried as) :: fatesOf outs []
  | (v, some (.ok as)) :: outs, (_, true) :: puts => (v, .arrived as) :: fatesOf outs puts
  | (v, some (.ok as)) :: outs, (_, false) :: puts => (v, .dropped as) :: fatesOf outs puts

variable {Converts : α → Except Stop β → Prop}

theorem Ledger.cons {sent : List α} {fates : List (α × Fate β)} {places : Places α β}
    (h : Ledger Converts sent fates places) {v : α} (f : Fate β)
    (hf : ∀ r, f.result? = some r → Converts v r) :
    Ledger Converts (v :: sent) ((v, f) :: fates)
      ⟨(Fate.queued? (v, f)).toList ++ places.queued, (Fate.kept? (v, f)).toList ++ places.kept,
        (Fate.carried? (v, f)).toList ++ places.carried,
        (Fate.arrived? (v, f)).toList ++ places.arrived,
        (Fate.dropped? (v, f)).toList ++ places.dropped,
        (Fate.reported? (v, f)).toList ++ places.reported⟩ := by
  obtain ⟨rfl, rfl, hconverts⟩ := h
  refine ⟨rfl, ?_, fun v' f' r hmem hr => ?_⟩
  · cases f <;> rfl
  · rcases List.mem_cons.1 hmem with heq | hmem
    · cases heq
      exact hf r hr
    · exact hconverts v' f' r hmem hr

theorem ledger_fatesOf {outs : List (α × Option (Except Stop β))} {puts : List (β × Bool)}
    {load : List β} (hloads : outs.filterMap converted? = puts.map (·.1) ++ load)
    (hconverts : ∀ v r, (v, some r) ∈ outs → Converts v r) :
    Ledger Converts (outs.map (·.1)) (fatesOf outs puts)
      ⟨[], outs.filterMap unconverted?, load, puts.filterMap accepted?, puts.filterMap refused?,
        outs.filterMap failure?⟩ := by
  induction outs generalizing puts load with
  | nil =>
    obtain ⟨rfl, rfl⟩ : puts = [] ∧ load = [] := by simpa using hloads.symm
    exact ⟨rfl, rfl, by simp [fatesOf]⟩
  | cons out outs ih =>
    have hrest : ∀ v r, (v, some r) ∈ outs → Converts v r :=
      fun v r h => hconverts v r (List.mem_cons_of_mem _ h)
    obtain ⟨v, r⟩ := out
    rcases r with _ | (e | _) | as
    · exact (ih hloads hrest).cons .kept (by simp [Fate.result?])
    · have hfate : Converts v (.error (.failed e)) := hconverts v _ List.mem_cons_self
      exact (ih hloads hrest).cons (.reported e) fun r hr => Option.some.inj hr ▸ hfate
    · have hfate : Converts v (.error .endless) := hconverts v _ List.mem_cons_self
      exact (ih hloads hrest).cons .unfinished fun r hr => Option.some.inj hr ▸ hfate
    · have hfate : Converts v (.ok as) := hconverts v _ List.mem_cons_self
      have hloads : as :: outs.filterMap converted? = puts.map (·.1) ++ load := hloads
      cases puts with
      | nil =>
        have hload : as :: outs.filterMap converted? = load := hloads
        rw [← hload]
        exact (@ih [] _ rfl hrest).cons (.carried as) fun r hr => Option.some.inj hr ▸ hfate
      | cons put puts =>
        obtain ⟨as', taken⟩ := put
        have hcons : as :: outs.filterMap converted? = as' :: (puts.map (·.1) ++ load) := hloads
        obtain ⟨rfl, htail⟩ := List.cons.inj hcons
        cases taken with
        | true => exact (ih htail hrest).cons (.arrived as) fun r hr => Option.some.inj hr ▸ hfate
        | false => exact (ih htail hrest).cons (.dropped as) fun r hr => Option.some.inj hr ▸ hfate

/-- What still waits in the queue comes last. -/
theorem Ledger.append_queued {sent queue kept : List α} {fates : List (α × Fate β)}
    {carried arrived dropped : List β} {reported : List ConversionError}
    (h : Ledger Converts sent fates ⟨[], kept, carried, arrived, dropped, reported⟩) :
    Ledger Converts (sent ++ queue) (fates ++ queue.map (·, .queued))
      ⟨queue, kept, carried, arrived, dropped, reported⟩ := by
  have hplaces := Places.mk.inj h.places
  refine ⟨by simp [h.sent, Function.comp_def], ?_, fun v f r hmem hr => ?_⟩
  · simp [Places.ofFates, hplaces, Function.comp_def]
  · rcases List.mem_append.1 hmem with hmem | hmem
    · exact h.converts v f r hmem hr
    · obtain ⟨_, _, heq⟩ := List.mem_map.1 hmem
      cases heq
      cases hr

end Fates

namespace Move

def keptNative? (m : Move) : Option NativeValue := m.leftNative?.bind unconverted?

def failedNative? (m : Move) : Option ConversionError := m.leftNative?.bind failure?

def failedScript? (m : Move) : Option ConversionError := m.leftScript?.bind failure?

def arrivedAtScript? (m : Move) : Option Value := m.putToScript?.bind accepted?

def arrivedAtNative? (m : Move) : Option NativeValue := m.putToNative?.bind accepted?

def droppedAtScript? (m : Move) : Option Value := m.putToScript?.bind refused?

def droppedAtNative? (m : Move) : Option NativeValue := m.putToNative?.bind refused?

end Move

/-! ### How a bridge comes to its end -/

namespace Pairing

variable {lib : Library} {p₀ p p' : Pairing} {m : Move} {moves : List Move}

/-- A bridge that comes up. What the channels hold at that time was sent before. -/
structure Starts (p : Pairing) : Prop where
  both : p.bridge.direction = .both
  worker : p.worker = .start

/-- What is true while the worker is in a mode. -/
def Phase (moves : List Move) (p : Pairing) : Mode → Prop
  | .forwarding => True
  | .drainingNative => .noticeNative ∈ moves ∧ p.ends.native.closed = true
  | .drainingScript => .noticeScript ∈ moves ∧ p.ends.script.outgoing.closed = true
  | .stopped =>
    p.worker.isFree ∧
      (.noticeNative ∈ moves ∧ p.ends.native.closed = true ∧ p.ends.native.sent = [] ∨
        .noticeScript ∈ moves ∧ p.ends.script.outgoing.closed = true ∧
          p.ends.script.outgoing.sent = [])
  | .stuck => p.worker.isFree

theorem Uses.worker_eq (h : Uses p m p') : p'.worker = p.worker := by
  cases h <;> rfl

theorem Phase.isFree {mode : Mode} (hp : p.Phase moves mode)
    (hrest : mode = .stopped ∨ mode = .stuck) : p.worker.isFree := by
  rcases hrest with rfl | rfl
  · exact hp.1
  · exact hp

/-- A mode goes on: what was closed stays closed, and what was drained stays drained. -/
theorem Phase.later {mode : Mode} (hp : p.Phase moves mode) (hchange : Change p m p')
    (hfree : mode = .stopped ∨ mode = .stuck → p'.worker.isFree) :
    p'.Phase (moves ++ [m]) mode := by
  have hseen (m' : Move) : m' ∈ moves → m' ∈ moves ++ [m] := List.mem_append_left _
  cases mode with
  | forwarding => exact trivial
  | stuck => exact hfree (.inr rfl)
  | drainingNative =>
    obtain ⟨hnoticed, hclosed⟩ := hp
    exact ⟨hseen _ hnoticed, hchange.native_closed hclosed⟩
  | drainingScript =>
    obtain ⟨hnoticed, hclosed⟩ := hp
    exact ⟨hseen _ hnoticed, hchange.outgoing_closed hclosed⟩
  | stopped =>
    obtain ⟨_, ⟨hnoticed, hclosed, hsent⟩ | ⟨hnoticed, hclosed, hsent⟩⟩ := hp
    · exact ⟨hfree (.inl rfl), .inl ⟨hseen _ hnoticed, hchange.native_closed hclosed,
        hchange.native_drained hclosed hsent⟩⟩
    · exact ⟨hfree (.inl rfl), .inr ⟨hseen _ hnoticed, hchange.outgoing_closed hclosed,
        hchange.outgoing_drained hclosed hsent⟩⟩

theorem Uses.phase (h : Uses p m p') (hp : p.Phase moves p.worker.mode) :
    p'.Phase (moves ++ [m]) p'.worker.mode := by
  rw [h.worker_eq]
  exact hp.later h.change fun hrest => h.worker_eq ▸ hp.isFree hrest

theorem Works.phase (h : Works lib p m p') (hd : p.bridge.direction.forwardsToScript = true)
    (hp : p.Phase moves p.worker.mode) : p'.Phase (moves ++ [m]) p'.worker.mode := by
  have hchange := h.change
  cases h with
  | @carryToScript _ _ r htake =>
    obtain ⟨hreads, _⟩ := Ends.takeNative_eq_some htake
    obtain ⟨hfree, _, hmode⟩ := Worker.readsNative_iff.1 hreads
    rcases r with (e | _) | as
    · exact hp.later hchange hp.isFree
    · exact hfree
    · refine hp.later hchange fun hrest => ?_
      rcases hmode with hmode | hmode <;> simp [hmode] at hrest
  | @carryToNative _ _ r htake =>
    obtain ⟨hreads, _⟩ := Ends.takeScript_eq_some htake
    obtain ⟨hfree, hmode⟩ := Worker.readsScript_iff.1 hreads
    rcases r with (e | _) | as
    · exact hp.later hchange hp.isFree
    · exact hfree
    · refine hp.later hchange fun hrest => ?_
      rcases hmode with hmode | hmode <;> simp [hmode] at hrest
  | putDown hput =>
    obtain ⟨rfl, _⟩ := Ends.put_eq_some hput
    exact hp.later hchange fun _ => rfl
  | noticeNative _ _ hclosed => exact ⟨by simp, hclosed⟩
  | noticeScript _ _ hclosed => exact ⟨by simp, hclosed⟩
  | closeFirst hfinish => exact hp.later hchange hp.isFree
  | finish hfinish =>
    obtain ⟨_, rfl, ⟨hmode, rfl, hsent⟩ | ⟨hmode, rfl, hsent⟩⟩ := Ends.finish_eq_some hfinish
    · simp only [hmode, Phase] at hp
      exact ⟨rfl, .inl ⟨List.mem_append_left _ hp.1, hp.2, hsent hd⟩⟩
    · simp only [hmode, Phase] at hp
      exact ⟨rfl, .inr ⟨List.mem_append_left _ hp.1, hp.2, hsent⟩⟩

theorem Run.phase (hrun : Run lib p₀ moves p) (hstart : p₀.Starts) :
    p.Phase moves p.worker.mode := by
  induction hrun with
  | nil => rw [hstart.worker]; exact trivial
  | @snoc moves m p p' hrun hstep ih =>
    cases hstep with
    | uses h => exact h.phase ih
    | works h =>
      have hd : p.bridge.direction = .both := by rw [hrun.bridge_eq]; exact hstart.both
      exact h.phase (by rw [hd]; rfl) ih

/-- The end where the script receives is closed only when nothing is left to be put there. -/
def Receives (p : Pairing) : Prop :=
  p.ends.script.incoming.closed = false ∨
    p.worker.isFree ∧ (p.worker.mode = .stopped ∨
      p.worker.mode = .drainingNative ∧ p.ends.native.closed = true ∧ p.ends.native.sent = [])

theorem Uses.receives (h : Uses p m p') (hp : p.Receives) : p'.Receives := by
  rcases hp with hopen | ⟨hfree, hmode | ⟨hmode, hclosed, hsent⟩⟩
  · left
    cases h with
    | receiveScript htake =>
      obtain ⟨_, _, rfl⟩ := Chan.takeSent_eq_some htake
      exact hopen
    | _ => exact hopen
  · exact .inr ⟨h.worker_eq ▸ hfree, .inl (h.worker_eq ▸ hmode)⟩
  · exact .inr ⟨h.worker_eq ▸ hfree, .inr ⟨h.worker_eq ▸ hmode, h.change.native_closed hclosed,
      h.change.native_drained hclosed hsent⟩⟩

theorem Receives.open_of_load (hp : p.Receives) (hload : p.worker.isFree = false) :
    p.ends.script.incoming.closed = false :=
  hp.resolve_right fun h => Bool.false_ne_true (hload.symm.trans h.1)

theorem Works.receives (h : Works lib p m p') (hd : p.bridge.direction.forwardsToScript = true)
    (hphase : p.Phase moves p.worker.mode) (hp : p.Receives) : p'.Receives := by
  cases h with
  | carryToScript htake =>
    obtain ⟨hreads, rest, hsent, rfl⟩ := Ends.takeNative_eq_some htake
    refine .inl (hp.resolve_right fun ⟨_, h⟩ => ?_)
    rcases (Worker.readsNative_iff.1 hreads).2.2 with hmode | hmode <;> simp [hmode, hsent] at h
  | carryToNative htake =>
    obtain ⟨hreads, rest, hsent, rfl⟩ := Ends.takeScript_eq_some htake
    refine .inl (hp.resolve_right fun ⟨_, h⟩ => ?_)
    rcases (Worker.readsScript_iff.1 hreads).2 with hmode | hmode <;> simp [hmode] at h
  | putDown hput =>
    obtain ⟨rfl, h⟩ := Ends.put_eq_some hput
    left
    rcases h with ⟨v, hload, _, rfl⟩ | ⟨v, hload, _, rfl⟩ | ⟨v, hload, _, _, rfl⟩ |
      ⟨v, hload, _, _, rfl⟩ <;> exact hp.open_of_load (by rw [Worker.isFree, hload])
  | noticeNative _ hmode | noticeScript _ hmode =>
    exact .inl (hp.resolve_right fun ⟨_, h⟩ => by simp [hmode] at h)
  | closeFirst hfinish =>
    obtain ⟨hfree, _, ⟨hmode, _, hsent⟩ | ⟨hmode, _⟩⟩ := Ends.finish_eq_some hfinish
    · simp only [hmode, Phase] at hphase
      have hends : p.ends.closeFirst p.worker.mode =
          { p.ends with script.incoming := p.ends.script.incoming.close.2 } := by
        rw [hmode, Ends.closeFirst]
      rw [hends]
      exact .inr ⟨hfree, .inr ⟨hmode, hphase.2, hsent hd⟩⟩
    · have hends : p.ends.closeFirst p.worker.mode =
          { p.ends with native := p.ends.native.close.2 } := by
        rw [hmode, Ends.closeFirst]
      rw [hends]
      exact .inl (hp.resolve_right fun ⟨_, h⟩ => by simp [hmode] at h)
  | finish hfinish =>
    obtain ⟨_, rfl, _⟩ := Ends.finish_eq_some hfinish
    exact .inr ⟨rfl, .inl rfl⟩

theorem Run.receives (hrun : Run lib p₀ moves p) (hstart : p₀.Starts)
    (hopen : p₀.ends.script.incoming.closed = false) : p.Receives := by
  induction hrun with
  | nil => exact .inl hopen
  | @snoc moves m p p' hrun hstep ih =>
    cases hstep with
    | uses h => exact h.receives ih
    | works h =>
      have hd : p.bridge.direction = .both := by rw [hrun.bridge_eq]; exact hstart.both
      exact h.receives (by rw [hd]; rfl) (hrun.phase hstart) ih

theorem Run.forall_mem {P : Move → Prop} (hrun : Run lib p₀ moves p)
    (hstep : ∀ moves p m p', Run lib p₀ moves p → Step lib p m p' → P m) : ∀ m ∈ moves, P m := by
  induction hrun with
  | nil => simp
  | snoc hrun hm ih =>
    intro m' hmem
    rcases List.mem_append.1 hmem with hmem | hmem
    · exact ih m' hmem
    · obtain rfl := List.mem_singleton.1 hmem
      exact hstep _ _ _ _ hrun hm

theorem Run.converts_native (hrun : Run lib p₀ moves p) {v : NativeValue} {r : Except Stop Value}
    (h : (v, some r) ∈ moves.filterMap Move.leftNative?) :
    (lib.toScript p₀.bridge.element v).MayGive r := by
  obtain ⟨m, hmem, hleft⟩ := List.mem_filterMap.1 h
  refine hrun.forall_mem (P := fun m => m.leftNative? = some (v, some r) → _) ?_ m hmem hleft
  intro _ p m p' hrun hstep hleft
  cases hstep with
  | uses h => cases h <;> simp at hleft
  | works h =>
    cases h with
    | carryToScript htake hr =>
      obtain ⟨rfl, rfl⟩ : _ = v ∧ _ = r := by simpa using hleft
      rwa [hrun.bridge_eq] at hr
    | _ => simp at hleft

theorem Run.converts_script (hrun : Run lib p₀ moves p) (hboth : p₀.bridge.direction = .both)
    {v : Value} {r : Except Stop NativeValue}
    (h : (v, some r) ∈ moves.filterMap Move.leftScript?) :
    (lib.fromScript p₀.bridge.element v).MayGive r := by
  obtain ⟨m, hmem, hleft⟩ := List.mem_filterMap.1 h
  refine hrun.forall_mem (P := fun m => m.leftScript? = some (v, some r) → _) ?_ m hmem hleft
  intro _ p m p' hrun hstep hleft
  cases hstep with
  | uses h => cases h <;> simp at hleft
  | works h =>
    cases h with
    | carryToNative htake hr =>
      obtain ⟨rfl, rfl⟩ : _ = v ∧ _ = r := by simpa using hleft
      rw [hrun.bridge_eq, Exchange.convertSent, if_pos (by rw [hboth]; rfl)] at hr
      exact hr
    | _ => simp at hleft

/-- What the worker brings to the script is taken there: the worker closes that end itself, and
then it brings no more. -/
theorem Run.script_takes (hrun : Run lib p₀ moves p) (hstart : p₀.Starts)
    (hopen : p₀.ends.script.incoming.closed = false) {v : Value} {accepted : Bool}
    (h : (v, accepted) ∈ moves.filterMap Move.putToScript?) :
    accepted = true := by
  obtain ⟨m, hmem, hput⟩ := List.mem_filterMap.1 h
  refine hrun.forall_mem (P := fun m => m.putToScript? = some (v, accepted) → _) ?_ m hmem hput
  intro moves p m p' hrun hstep hput
  cases hstep with
  | uses h => cases h <;> simp at hput
  | works h =>
    cases h with
    | putDown h =>
      rcases (Ends.put_eq_some h).2 with ⟨_, hload, hok, _⟩ | ⟨_, hload, _⟩ |
        ⟨_, hload, _, hclosed, _⟩ | ⟨_, hload, _⟩
      · rw [hok, hload] at hput
        cases hput
        rfl
      · rw [hload] at hput
        cases hput
      · have hreceives := (hrun.receives hstart hopen).open_of_load (by rw [Worker.isFree, hload])
        cases hclosed.symm.trans hreceives
      · rw [hload] at hput
        cases hput
    | _ => simp at hput

/-- A load for native code is dropped only when the native end is closed, and so it stays. -/
theorem Run.closed_of_dropped (hrun : Run lib p₀ moves p) {v : NativeValue}
    (h : (v, false) ∈ moves.filterMap Move.putToNative?) : p.ends.native.closed = true := by
  induction hrun with
  | nil => cases h
  | @snoc moves m p p' hrun hm ih =>
    rw [filterMap_concat] at h
    rcases List.mem_append.1 h with h | h
    · exact hm.change.native_closed (ih h)
    · have hput : m.putToNative? = some (v, false) := Option.mem_toList.1 h
      refine hm.change.native_closed ?_
      cases hm with
      | uses hm => cases hm <;> cases hput
      | works hm =>
        cases hm with
        | putDown hend =>
          rcases (Ends.put_eq_some hend).2 with ⟨_, hload, _⟩ | ⟨_, hload, hok, _⟩ |
            ⟨_, hload, _⟩ | ⟨_, _, _, hclosed, _⟩
          · rw [hload] at hput
            cases hput
          · rw [hok, hload] at hput
            cases hput
          · rw [hload] at hput
            cases hput
          · exact hclosed
        | _ => cases hput

/-- A worker whose conversion goes on without end carries nothing, and never moves again. -/
theorem Works.not_stuck (h : Works lib p m p') (hload : p.worker.mode = .stuck → p.worker.isFree) :
    p.worker.mode ≠ .stuck := by
  intro hstuck
  cases h with
  | carryToScript htake =>
    have hreads := (Worker.readsNative_iff.1 (Ends.takeNative_eq_some htake).1).2.2
    simp [hstuck] at hreads
  | carryToNative htake =>
    have hreads := (Worker.readsScript_iff.1 (Ends.takeScript_eq_some htake).1).2
    simp [hstuck] at hreads
  | putDown hput => simp [Ends.put, Worker.load_of_isFree (hload hstuck)] at hput
  | noticeNative _ hmode | noticeScript _ hmode => cases hstuck.symm.trans hmode
  | closeFirst hfinish | finish hfinish =>
    have hdrains := (Ends.finish_eq_some hfinish).2.2
    simp [hstuck] at hdrains

/-- The worker began a conversion that goes on without end. -/
def Endless : Move → Prop
  | .carryToScript _ (.error .endless) => True
  | .carryToNative _ (.error .endless) => True
  | _ => False

theorem endless_of_leftNative? {v : NativeValue}
    (h : m.leftNative? = some (v, some (.error .endless))) : Endless m := by
  cases m <;> cases h
  trivial

theorem endless_of_leftScript? {v : Value}
    (h : m.leftScript? = some (v, some (.error .endless))) : Endless m := by
  cases m <;> cases h
  trivial

theorem Step.stuck (h : Step lib p m p') (hm : Endless m) : p'.worker.mode = .stuck := by
  cases h with
  | uses h => cases h <;> cases hm
  | works h =>
    cases h with
    | @carryToScript _ _ r | @carryToNative _ _ r =>
      rcases r with (e | _) | as
      · cases hm
      · rfl
      · cases hm
    | _ => cases hm

theorem Run.stuck (hrun : Run lib p₀ moves p) (hstart : p₀.Starts) (hm : m ∈ moves)
    (hendless : Endless m) : p.worker.mode = .stuck := by
  induction hrun with
  | nil => cases hm
  | @snoc moves m' p p' hrun hstep ih =>
    rcases List.mem_append.1 hm with hm | hm
    · have hstuck := ih hm
      have hphase := hrun.phase hstart
      simp only [hstuck, Phase] at hphase
      cases hstep with
      | uses h => cases h <;> exact hstuck
      | works h => exact absurd hstuck (h.not_stuck fun _ => hphase)
    · obtain rfl := List.mem_singleton.1 hm
      exact hstep.stuck hendless

/-! ### Accounts -/

/-- A conversion may have given this. One without end holds the worker for ever. -/
def Gives {α : Type} (p : Pairing) (m : CrossM α) (r : Except Stop α) : Prop :=
  m.MayGive r ∧ (r = .error .endless → p.worker.mode = .stuck)

theorem Run.native_ledger (hrun : Run lib p₀ moves p) (hstart : p₀.Starts) :
    ∃ fates, Ledger (fun v => p.Gives (lib.toScript p₀.bridge.element v))
      (p₀.ends.native.sent ++ moves.filterMap Move.sentNative?) fates
      ⟨p.ends.native.sent, moves.filterMap Move.keptNative?, p.worker.load.toScript?.toList,
        moves.filterMap Move.arrivedAtScript?, moves.filterMap Move.droppedAtScript?,
        moves.filterMap Move.failedNative?⟩ := by
  have hsent := hrun.law (fun p => p.ends.native.sent) fun _ _ _ h => h.change.native
  have hloads := hrun.law (fun p => p.worker.load.toScript?.toList)
    fun _ _ _ h => h.change.toScript
  have hconverts : ∀ v r, (v, some r) ∈ moves.filterMap Move.leftNative? →
      p.Gives (lib.toScript p₀.bridge.element v) r := by
    refine fun v r h => ⟨hrun.converts_native h, ?_⟩
    rintro rfl
    obtain ⟨m, hmem, hleft⟩ := List.mem_filterMap.1 h
    exact hrun.stuck hstart hmem (endless_of_leftNative? hleft)
  have hconverted : (moves.filterMap Move.leftNative?).filterMap converted? =
      (moves.filterMap Move.putToScript?).map (·.1) ++ p.worker.load.toScript?.toList := by
    rw [hstart.worker] at hloads
    rwa [List.filterMap_filterMap, List.map_filterMap]
  have hledger := ledger_fatesOf hconverted hconverts
  rw [List.map_filterMap] at hledger
  simp only [List.filterMap_filterMap] at hledger
  rw [hsent]
  exact ⟨_, hledger.append_queued⟩

theorem Run.script_ledger (hrun : Run lib p₀ moves p) (hstart : p₀.Starts) :
    ∃ fates, Ledger (fun v => p.Gives (lib.fromScript p₀.bridge.element v))
      (p₀.ends.script.outgoing.sent ++ moves.filterMap Move.sentScript?) fates
      ⟨p.ends.script.outgoing.sent, [], p.worker.load.toNative?.toList,
        moves.filterMap Move.arrivedAtNative?, moves.filterMap Move.droppedAtNative?,
        moves.filterMap Move.failedScript?⟩ := by
  have hsent := hrun.law (fun p => p.ends.script.outgoing.sent)
    fun _ _ _ h => h.change.outgoing
  have hloads := hrun.law (fun p => p.worker.load.toNative?.toList)
    fun _ _ _ h => h.change.toNative
  have hconverts : ∀ v r, (v, some r) ∈ moves.filterMap Move.leftScript? →
      p.Gives (lib.fromScript p₀.bridge.element v) r := by
    refine fun v r h => ⟨hrun.converts_script hstart.both h, ?_⟩
    rintro rfl
    obtain ⟨m, hmem, hleft⟩ := List.mem_filterMap.1 h
    exact hrun.stuck hstart hmem (endless_of_leftScript? hleft)
  have hkept : (moves.filterMap Move.leftScript?).filterMap unconverted? = [] := by
    refine List.filterMap_eq_nil_iff.2 fun out h => ?_
    obtain ⟨m, hmem, hleft⟩ := List.mem_filterMap.1 h
    cases m <;> cases hleft
    rfl
  have hconverted : (moves.filterMap Move.leftScript?).filterMap converted? =
      (moves.filterMap Move.putToNative?).map (·.1) ++ p.worker.load.toNative?.toList := by
    rw [hstart.worker] at hloads
    rwa [List.filterMap_filterMap, List.map_filterMap]
  have hledger := ledger_fatesOf hconverted hconverts
  rw [hkept, List.map_filterMap] at hledger
  simp only [List.filterMap_filterMap] at hledger
  rw [hsent]
  exact ⟨_, hledger.append_queued⟩

/-- Each report tells of one value. -/
theorem reports_perm (moves : List Move) : (moves.filterMap Move.reported?).Perm
    (moves.filterMap Move.failedNative? ++ moves.filterMap Move.failedScript?) := by
  induction moves with
  | nil => exact .nil
  | cons m moves ih =>
    have hskip (hn : m.failedNative? = none) (hs : m.failedScript? = none)
        (hr : m.reported? = none) : ((m :: moves).filterMap Move.reported?).Perm
          ((m :: moves).filterMap Move.failedNative? ++
            (m :: moves).filterMap Move.failedScript?) := by
      simpa only [List.filterMap_cons, hn, hs, hr] using ih
    cases m with
    | carryToScript v r =>
      rcases r with (e | _) | as
      · exact ih.cons e
      · exact hskip rfl rfl rfl
      · exact hskip rfl rfl rfl
    | carryToNative v r =>
      rcases r with (e | _) | as
      · exact (ih.cons e).trans List.perm_middle.symm
      · exact hskip rfl rfl rfl
      · exact hskip rfl rfl rfl
    | putDown load accepted => cases load <;> exact hskip rfl rfl rfl
    | _ => exact hskip rfl rfl rfl

theorem Run.reports_eq (hrun : Run lib p₀ moves p) :
    p.reports = p₀.reports ++ moves.filterMap Move.reported? := by
  induction hrun with
  | nil => simp
  | snoc _ hm ih => rw [hm.change.reports, ih, filterMap_concat, List.append_assoc]

/-- Where everything is after these moves: `ofNative` are the values that were sent at the native
end, in this order and with their fates, and `ofScript` are those that the script sent. -/
structure Accounts (lib : Library) (p₀ : Pairing) (moves : List Move) (p : Pairing)
    (ofNative : List (NativeValue × Fate Value)) (ofScript : List (Value × Fate NativeValue)) :
    Prop where
  native : Ledger (fun v => p.Gives (lib.toScript p₀.bridge.element v))
    (p₀.ends.native.sent ++ moves.filterMap Move.sentNative?) ofNative
    ⟨p.ends.native.sent, moves.filterMap Move.keptNative?, p.worker.load.toScript?.toList,
      moves.filterMap Move.arrivedAtScript?, moves.filterMap Move.droppedAtScript?,
      moves.filterMap Move.failedNative?⟩
  script : Ledger (fun v => p.Gives (lib.fromScript p₀.bridge.element v))
    (p₀.ends.script.outgoing.sent ++ moves.filterMap Move.sentScript?) ofScript
    ⟨p.ends.script.outgoing.sent, [], p.worker.load.toNative?.toList,
      moves.filterMap Move.arrivedAtNative?, moves.filterMap Move.droppedAtNative?,
      moves.filterMap Move.failedScript?⟩
  /-- The script receives what arrived for it and nothing else, in order. -/
  incoming : p₀.ends.script.incoming.sent ++ moves.filterMap Move.arrivedAtScript? =
    moves.filterMap Move.receivedScript? ++ p.ends.script.incoming.sent
  /-- Native code receives what arrived for it, in order, and besides only what native code sent. -/
  delivered : p₀.ends.native.delivered ++ moves.filterMap Move.arrivedAtNative? =
    moves.filterMap Move.receivedDelivered? ++ p.ends.native.delivered
  reports : ∃ news, p.reports = p₀.reports ++ news ∧
    news.Perm (moves.filterMap Move.failedNative? ++ moves.filterMap Move.failedScript?)
  /-- The script takes all that arrives, unless its end was closed before the bridge came up. -/
  taken : p₀.ends.script.incoming.closed = false → moves.filterMap Move.droppedAtScript? = []
  dropped : moves.filterMap Move.droppedAtNative? ≠ [] → p.ends.native.closed = true
  /-- The worker stopped because it saw one end closed, and nothing that was sent there is left. -/
  stopped : p.worker.mode = .stopped → p.worker.load = .none ∧
    (.noticeNative ∈ moves ∧ p.ends.native.closed = true ∧ p.ends.native.sent = [] ∨
      .noticeScript ∈ moves ∧ p.ends.script.outgoing.closed = true ∧
        p.ends.script.outgoing.sent = [])

theorem mem_of_refused {α : Type} {put? : Move → Option (α × Bool)} {v : α}
    (h : v ∈ moves.filterMap fun m => (put? m).bind refused?) :
    (v, false) ∈ moves.filterMap put? := by
  obtain ⟨m, hmem, hm⟩ := List.mem_filterMap.1 h
  obtain ⟨⟨w, accepted⟩, hput, hw⟩ := Option.bind_eq_some_iff.1 hm
  cases accepted <;> cases hw
  exact List.mem_filterMap.2 ⟨m, hmem, hput⟩

/-- No value is lost, doubled, reordered or sent back. -/
theorem Run.accounts (hrun : Run lib p₀ moves p) (hstart : p₀.Starts) :
    ∃ ofNative ofScript, Accounts lib p₀ moves p ofNative ofScript := by
  obtain ⟨ofNative, hnative⟩ := hrun.native_ledger hstart
  obtain ⟨ofScript, hscript⟩ := hrun.script_ledger hstart
  refine ⟨ofNative, ofScript, hnative, hscript, ?_, ?_, ⟨_, hrun.reports_eq, reports_perm moves⟩,
    fun hopen => ?_, fun h => ?_, fun hmode => ?_⟩
  · exact hrun.law (fun p => p.ends.script.incoming.sent) fun _ _ _ h => h.change.incoming
  · exact hrun.law (fun p => p.ends.native.delivered) fun _ _ _ h => h.change.delivered
  · refine List.eq_nil_iff_forall_not_mem.2 fun v hv => ?_
    cases hrun.script_takes hstart hopen (mem_of_refused hv)
  · obtain ⟨v, hv⟩ := List.exists_mem_of_ne_nil _ h
    exact hrun.closed_of_dropped (mem_of_refused hv)
  · have hphase := hrun.phase hstart
    simp only [hmode, Phase] at hphase
    exact ⟨Worker.load_of_isFree hphase.1, hphase.2⟩

/-! ### An integer that crosses before its channel closes -/

def integers : Library := ⟨.ofList [("int64", .scalar (.int 64 .signed))], .empty⟩

def fresh : Pairing := ⟨⟨0, .both, 0, 0, .start⟩, ⟨.new none, .new⟩, []⟩

def crossing : List Move :=
  [.sendNative (.int 7), .closeNative true, .noticeNative, .carryToScript (.int 7) (.ok (.int 7)),
    .putDown (.toScript (.int 7)) true, .finish]

def crossed : Pairing :=
  ⟨⟨0, .both, 0, 0, ⟨.stopped, .none⟩⟩,
    ⟨⟨none, [], [], true⟩, ⟨none, [.int 7], [], true⟩, ⟨none, [], [], true⟩⟩, []⟩

theorem run_crossing : Run integers fresh crossing crossed := by
  have sent : Run integers fresh ([] ++ [_]) _ := .snoc .nil (.uses (.sendNative (v := .int 7) rfl))
  have closed := Run.snoc sent (.uses .closeNative)
  have noticed := Run.snoc closed (.works (.noticeNative rfl rfl rfl))
  have carried := Run.snoc noticed (.works (.carryToScript rfl ⟨.empty, rfl⟩))
  have arrived := Run.snoc carried (.works (.putDown rfl))
  exact Run.snoc arrived (.works (.finish rfl))

theorem accounts_crossing : fresh.Starts ∧ Run integers fresh crossing crossed ∧
    ∃ ofNative ofScript, Accounts integers fresh crossing crossed ofNative ofScript :=
  have hstart : fresh.Starts := ⟨rfl, rfl⟩
  ⟨hstart, run_crossing, run_crossing.accounts hstart⟩

end Pairing
end ScriptBind
