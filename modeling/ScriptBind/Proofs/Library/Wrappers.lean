import ScriptBind.Proofs.Crossing.ZeroEnds
import ScriptBind.Proofs.Library.Calls

/-!
# ScriptBind.Proofs.Library.Wrappers

What becomes of a call that native code makes to a function of a script.

* `Host.recording` - a host that keeps a record of the script functions that run.
* `Library.Answers` - what native code gets for the answer of a script function.
* `Library.Relays` - when a script function runs, with which arguments, and what native code gets.
* `Library.callFunc_relays` - this is so for any call of a wrapper.
* `failure_without_zero_values` - a failure for which native code gets no results.
-/

namespace ScriptBind

variable {σ : Type}

/-- The scripts run as they do, and are entered in a record. Nothing else can be run. -/
def Host.recording (host : Host σ) : Host (σ × List (ScriptFn × List Value)) where
  script f values := noting (f, values) (host.script f values)
  native _ _ _ := CallM.endless
  method _ _ _ _ := CallM.endless

/-- The items of an answer from which the results are obtained. -/
inductive Itemizes : List ShapeId → Value → List Value → Prop
  | nothing {x : Value} : Itemizes [] x []
  | whole {id : ShapeId} {x : Value} : Itemizes [id] x [x]
  | list {ids : List ShapeId} {items : List Value} : 2 ≤ ids.length → items.length = ids.length →
    Itemizes ids (.list items) items

/-- How many results an answer is said to be, when it is not as many as declared. -/
def Value.resultCount : Value → Nat
  | .list items => items.length
  | _ => 1

theorem Itemizes.length_eq {ids : List ShapeId} {x : Value} {items : List Value}
    (h : Itemizes ids x items) : items.length = ids.length := by
  cases h with
  | nothing => rfl
  | whole => rfl
  | list _ hlength => exact hlength

theorem Itemizes.unique {ids : List ShapeId} {x : Value} {items items' : List Value}
    (h : Itemizes ids x items) (h' : Itemizes ids x items') : items = items' := by
  cases h with
  | nothing =>
    cases h' with
    | nothing => rfl
    | list htwo _ => cases htwo
  | whole =>
    cases h' with
    | whole => rfl
    | list htwo _ => exact absurd htwo (Nat.lt_irrefl 1)
  | list htwo _ =>
    cases h' with
    | nothing => cases htwo
    | whole => exact absurd htwo (Nat.lt_irrefl 1)
    | list _ _ => rfl

namespace Library

variable {lib : Library} {callee : String} {ids : List ShapeId} {x : Value} {s : Boundary × σ}

/-! ### Answers -/

/-- What native code gets for the answer of a script function. -/
structure Answers (lib : Library) (callee : String) (ids : List ShapeId) (x : Value)
    (s : Boundary × σ) (outcome : Except Stop (List NativeValue) × (Boundary × σ)) : Prop where
  /-- Nothing is reported, and the host goes on from where it was. -/
  quiet : outcome.2.1.reports = s.1.reports ∧ outcome.2.2 = s.2
  itemized : ∀ items, Itemizes ids x items →
    (∃ results b, Converts lib.fromScript ids items s.1 results b ∧
      outcome = (.ok results, (b, s.2))) ∨
    ∃ position stop b, StopsAt lib.fromScript ids items s.1 position stop b ∧
      outcome = (.error stop, (b, s.2))
  refused : (∀ items, ¬ Itemizes ids x items) → outcome =
    (.error (.failed (.arityMismatch callee ids.length x.resultCount)), s)
  obtained : ∀ results, outcome.1 = .ok results → results.length = ids.length ∧
    ∃ items, Itemizes ids x items ∧ Converts lib.fromScript ids items s.1 results outcome.2.1

theorem resultsFromScript_of_itemizes {items : List Value} (h : Itemizes ids x items) :
    lib.resultsFromScript callee ids x = convertResults lib.fromScript items ids := by
  cases h with
  | nothing => rfl
  | whole => rfl
  | list htwo hlength =>
    match ids, htwo with
    | first :: second :: rest, _ => exact if_pos hlength

theorem resultsFromScript_of_not_itemizes (h : ∀ items, ¬ Itemizes ids x items) :
    lib.resultsFromScript callee ids x =
      CrossM.fail (.arityMismatch callee ids.length x.resultCount) := by
  match ids with
  | [] => exact absurd .nothing (h [])
  | [id] => exact absurd .whole (h [x])
  | first :: second :: rest =>
    have htwo : 2 ≤ (first :: second :: rest).length := Nat.le_add_left 2 rest.length
    cases x with
    | list items => exact if_neg fun hlength => h items (.list htwo hlength)
    | _ => rfl

theorem resultsFromScript_answers (lib : Library) (callee : String) (ids : List ShapeId)
    (x : Value) (s : Boundary × σ) :
    lib.Answers callee ids x s (CallM.convert (lib.resultsFromScript callee ids x) s) := by
  by_cases hitems : ∃ items, Itemizes ids x items
  swap
  · have hitems := not_exists.1 hitems
    rw [resultsFromScript_of_not_itemizes hitems]
    exact ⟨⟨rfl, rfl⟩, fun items h => absurd h (hitems items), fun _ => rfl, fun _ h => by cases h⟩
  obtain ⟨items, hitems⟩ := hitems
  rw [resultsFromScript_of_itemizes hitems]
  rcases converts_or_stopsAt lib.fromScript hitems.length_eq s.1 with
    ⟨results, b, hall⟩ | ⟨position, stop, b, hstop⟩
  · have hrun : CallM.convert (convertResults lib.fromScript items ids) s =
        (.ok results, (b, s.2)) := CallM.convert_of_eq (convertResults_of_converts hall)
    rw [hrun]
    refine ⟨⟨hall.reports_eq lib.fromScript_quiet, rfl⟩, fun other hother => .inl ?_,
      fun h => absurd hitems (h items), fun _ h => ?_⟩
    · exact ⟨results, b, hitems.unique hother ▸ hall, rfl⟩
    · cases h
      exact ⟨hall.length_eq.2, items, hitems, hall⟩
  · have hrun : CallM.convert (convertResults lib.fromScript items ids) s =
        (.error stop, (b, s.2)) := CallM.convert_of_eq (convertResults_of_stopsAt hstop)
    rw [hrun]
    refine ⟨⟨hstop.reports_eq lib.fromScript_quiet, rfl⟩, fun other hother => .inr ?_,
      fun h => absurd hitems (h items), fun _ h => by cases h⟩
    exact ⟨position, stop, b, hitems.unique hother ▸ hstop, rfl⟩

/-! ### Failures -/

/-- What native code gets when a script function fails: zero values, if there is one for each
result. The failure is reported once. -/
structure Excuses (lib : Library) (f : ScriptFn) (ids : List ShapeId) (problem : String)
    (s : Boundary × σ) (outcome : Except Stop (List NativeValue) × (Boundary × σ)) : Prop where
  reported : outcome.2 = (s.1.report (.script (f.name ++ ": " ++ problem)), s.2)
  zeros : (∀ id ∈ ids, (lib.zeroValue? id).isSome) → ∃ values,
    List.Forall₂ (fun id v => lib.zeroValue? id = some v) ids values ∧ outcome.1 = .ok values
  endless : ∀ id ∈ ids, lib.zeroValue? id = none → outcome.1 = .error .endless

theorem zeroResults_excuses (lib : Library) (f : ScriptFn) (ids : List ShapeId) (problem : String)
    (s : Boundary × σ) :
    lib.Excuses f ids problem s (CallM.convert (lib.zeroResults f ids problem) s) := by
  cases hzeros : ids.mapM lib.zeroValue? with
  | none =>
    have hrun : CallM.convert (lib.zeroResults f ids problem) s =
        (.error .endless, (s.1.report (.script (f.name ++ ": " ++ problem)), s.2)) := by
      refine CallM.convert_of_eq ?_
      rw [zeroResults, hzeros]
      rfl
    rw [hrun]
    refine ⟨rfl, fun h => ?_, fun _ _ _ => rfl⟩
    have hsome := isSome_mapM_iff.2 h
    rw [hzeros] at hsome
    cases hsome
  | some values =>
    have hrun : CallM.convert (lib.zeroResults f ids problem) s =
        (.ok values, (s.1.report (.script (f.name ++ ": " ++ problem)), s.2)) := by
      refine CallM.convert_of_eq ?_
      rw [zeroResults, hzeros]
      rfl
    rw [hrun]
    refine ⟨rfl, fun _ => ⟨values, mapM_eq_some_iff.1 hzeros, rfl⟩, fun id hid hnone => ?_⟩
    have hsome := isSome_mapM_iff.1 (Option.isSome_iff_exists.2 ⟨values, hzeros⟩) id hid
    rw [hnone] at hsome
    cases hsome

/-! ### Calls -/

/-- What becomes of a call of a script function from native code, where the functions in `calls`
were run with these arguments. -/
structure Relays (lib : Library) (host : Host σ) (signature : FuncShape) (f : ScriptFn)
    (args : List NativeValue) (s : Boundary × σ) (calls : List (ScriptFn × List Value))
    (outcome : Except Stop (List NativeValue) × (Boundary × σ)) : Prop where
  once : calls.length ≤ 1
  called : ∀ c, c ∈ calls ↔ c.1 = f ∧ args.length = signature.params.length ∧
    ∃ b, Converts lib.toScript signature.params args s.1 c.2 b
  arity : args.length ≠ signature.params.length → outcome =
    (.error (.failed (.arityMismatch f.name signature.params.length args.length)), s)
  /-- The first argument that is not converted is refused, and nothing is reported. -/
  argument : args.length = signature.params.length → calls = [] → ∃ position cause b,
    StopsAt lib.toScript signature.params args s.1 position (.failed cause) b ∧
      outcome = (.error (.failed (.argument f.name position cause)), (b, s.2)) ∧
      b.reports = s.1.reports
  /-- Nothing is reported before the function runs. -/
  quiet : ∀ c ∈ calls, ∀ b, Converts lib.toScript signature.params args s.1 c.2 b →
    b.reports = s.1.reports
  failed : ∀ c ∈ calls, ∀ b, Converts lib.toScript signature.params args s.1 c.2 b →
    ∀ problem s', host.script f c.2 (b, s.2) = (.error problem, s') →
      lib.Excuses f signature.results problem s' outcome
  answered : ∀ c ∈ calls, ∀ b, Converts lib.toScript signature.params args s.1 c.2 b →
    ∀ x s', host.script f c.2 (b, s.2) = (.ok x, s') →
      lib.Answers f.name signature.results x s' outcome

section Wrapped

variable {host : Host σ} {signature : FuncShape} {f : ScriptFn} {args : List NativeValue}
  {b : Boundary}

theorem callWrapped_of_length_ne (h : args.length ≠ signature.params.length) :
    lib.callWrapped host signature f args s =
      (.error (.failed (.arityMismatch f.name signature.params.length args.length)), s) := by
  rw [callWrapped, if_pos h]
  rfl

theorem callWrapped_of_stopsAt {position : Nat} {cause : ConversionError}
    (hlength : args.length = signature.params.length)
    (h : StopsAt lib.toScript signature.params args s.1 position (.failed cause) b) :
    lib.callWrapped host signature f args s =
      (.error (.failed (.argument f.name position cause)), (b, s.2)) := by
  have hrun := convertArguments_of_stopsAt f.name h 0
  rw [Nat.zero_add] at hrun
  rw [callWrapped, if_neg (not_not.2 hlength), CallM.bind_apply, CallM.convert_of_eq hrun]
  rfl

theorem callWrapped_of_converts {values : List Value}
    (h : Converts lib.toScript signature.params args s.1 values b) :
    lib.callWrapped host signature f args s =
      match host.script f values (b, s.2) with
      | (.ok x, s') => CallM.convert (lib.resultsFromScript f.name signature.results x) s'
      | (.error problem, s') =>
        CallM.convert (lib.zeroResults f signature.results problem) s' := by
  rw [callWrapped, if_neg (not_not.2 h.length_eq.1),
    CallM.bind_of_ok (CallM.convert_of_eq (convertArguments_of_converts f.name h 0))]
  rcases hscript : host.script f values (b, s.2) with ⟨problem | x, s'⟩
  · have hrun : runScript host f values (b, s.2) = (.ok (.error problem), s') := by
      rw [runScript, hscript]
    rw [CallM.bind_of_ok hrun]
  · have hrun : runScript host f values (b, s.2) = (.ok (.ok x), s') := by
      rw [runScript, hscript]
    rw [CallM.bind_of_ok hrun]

theorem relays_of_length_ne (h : args.length ≠ signature.params.length) :
    lib.Relays host signature f args s [] (lib.callWrapped host signature f args s) where
  once := Nat.zero_le _
  called _ := iff_of_false List.not_mem_nil fun hcalled => h hcalled.2.1
  arity := callWrapped_of_length_ne
  argument hlength _ := absurd hlength h
  quiet := List.forall_mem_nil _
  failed := List.forall_mem_nil _
  answered := List.forall_mem_nil _

theorem relays_of_stopsAt {position : Nat} {cause : ConversionError}
    (hlength : args.length = signature.params.length)
    (h : StopsAt lib.toScript signature.params args s.1 position (.failed cause) b) :
    lib.Relays host signature f args s [] (lib.callWrapped host signature f args s) where
  once := Nat.zero_le _
  called _ := iff_of_false List.not_mem_nil fun hcalled => by
    obtain ⟨_, _, b', hall⟩ := hcalled
    exact h.not_converts hall
  arity hne := absurd hlength hne
  argument _ _ :=
    ⟨position, cause, b, h, callWrapped_of_stopsAt hlength h, h.reports_eq lib.toScript_quiet⟩
  quiet := List.forall_mem_nil _
  failed := List.forall_mem_nil _
  answered := List.forall_mem_nil _

theorem relays_of_converts {values : List Value}
    (h : Converts lib.toScript signature.params args s.1 values b) :
    lib.Relays host signature f args s [(f, values)]
      (lib.callWrapped host signature f args s) where
  once := Nat.le_refl _
  called c := by
    rw [List.mem_singleton]
    constructor
    · rintro rfl
      exact ⟨rfl, h.length_eq.1, b, h⟩
    · rintro ⟨hf, _, b', hfound⟩
      exact Prod.ext hf (hfound.unique h).1
  arity hne := absurd h.length_eq.1 hne
  argument _ hnone := by cases hnone
  quiet _ _ _ hfound := hfound.reports_eq lib.toScript_quiet
  failed _ _ _ hfound problem s' hscript := by
    rw [callWrapped_of_converts hfound, hscript]
    exact zeroResults_excuses lib f signature.results problem s'
  answered _ _ _ hfound x s' hscript := by
    rw [callWrapped_of_converts hfound, hscript]
    exact resultsFromScript_answers lib f.name signature.results x s'

/-- Whatever the scripts do, with a record of the functions that run. -/
theorem callWrapped_relays (lib : Library) (host : Host σ) (signature : FuncShape) (f : ScriptFn)
    (args : List NativeValue) (s : Boundary × σ) (log : List (ScriptFn × List Value)) : ∃ calls,
    lib.callWrapped host.recording signature f args (s.1, (s.2, log)) =
      withRecord (log ++ calls) (lib.callWrapped host signature f args s) ∧
    lib.Relays host signature f args s calls (lib.callWrapped host signature f args s) := by
  by_cases hlength : args.length = signature.params.length
  swap
  · refine ⟨[], ?_, relays_of_length_ne hlength⟩
    rw [callWrapped_of_length_ne hlength, callWrapped_of_length_ne hlength, List.append_nil]
    rfl
  rcases converts_or_stopsAt lib.toScript hlength s.1 with
    ⟨values, b, hall⟩ | ⟨position, stop, b, hstop⟩
  · refine ⟨[(f, values)], ?_, relays_of_converts hall⟩
    -- Conversions do not see the record: up to the script function both runs are one.
    have hall' : Converts lib.toScript signature.params args (s.1, (s.2, log)).1 values b := hall
    rw [callWrapped_of_converts hall, callWrapped_of_converts hall']
    rcases hscript : host.script f values (b, s.2) with ⟨problem | x, s'⟩ <;>
      simp only [Host.recording, noting, hscript] <;> rfl
  · obtain ⟨cause, rfl⟩ := hstop.of_terminates lib.toScript_terminates
    refine ⟨[], ?_, relays_of_stopsAt hlength hstop⟩
    have hstop' : StopsAt lib.toScript signature.params args (s.1, (s.2, log)).1 position
      (.failed cause) b := hstop
    rw [callWrapped_of_stopsAt hlength hstop, callWrapped_of_stopsAt hlength hstop',
      List.append_nil]
    rfl

end Wrapped

/-- Whatever the library, the function of the script and its signature. -/
theorem callFunc_relays (lib : Library) (host : Host σ) (signature : FuncShape) (f : ScriptFn)
    (before : Boundary) : ∃ wrapper after, wrap signature f before = (.ok wrapper, after) ∧
    ∀ (bound : Nat) (args : List NativeValue) (s : Boundary × σ)
      (log : List (ScriptFn × List Value)), ∃ calls,
      lib.callFunc host.recording (bound + 1) wrapper args (s.1, (s.2, log)) =
        withRecord (log ++ calls) (lib.callFunc host (bound + 1) wrapper args s) ∧
      lib.Relays host signature f args s calls (lib.callFunc host (bound + 1) wrapper args s) :=
  ⟨⟨before.nextId, f.name, .wrapper signature f⟩, _, rfl, fun _ args s log =>
    lib.callWrapped_relays host signature f args s log⟩

/-! ### A failure without zero values -/

/-- The script function fails, and its result is declared to be a struct that contains itself. -/
theorem failure_without_zero_values :
    (nestDeclaration.lower.toOption.bind fun l => l.generate.1.toOption.map (·.shapes)) =
        some nestLibrary.shapes ∧
      nestLibrary.callWrapped callbackHost ⟨[], [0], false⟩ failing [] (.empty, ()) =
        (.error .endless, (Boundary.empty.report (.script "failing: stop"), ())) ∧
      ¬ ∀ (lib : Library) (signature : FuncShape) (f : ScriptFn) (args : List NativeValue)
        (s s' : Boundary × Unit) (values : List Value) (b : Boundary) (problem : String),
        Converts lib.toScript signature.params args s.1 values b →
        callbackHost.script f values (b, s.2) = (.error problem, s') →
        ∃ results, (lib.callWrapped callbackHost signature f args s).1 = .ok results ∧
          results.length = signature.results.length := by
  have hendless : nestLibrary.callWrapped callbackHost ⟨[], [0], false⟩ failing [] (.empty, ()) =
    (.error .endless, (Boundary.empty.report (.script "failing: stop"), ())) := rfl
  refine ⟨shapes_nestDeclaration, hendless, fun h => ?_⟩
  obtain ⟨results, hresults, _⟩ := h nestLibrary ⟨[], [0], false⟩ failing [] (.empty, ())
    (.empty, ()) [] .empty "stop" .nil rfl
  rw [hendless] at hresults
  cases hresults

end Library
end ScriptBind
