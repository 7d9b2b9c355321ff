import ScriptBind.Proofs.Crossing.Termination
import ScriptBind.Proofs.Library.Callbacks

/-!
# ScriptBind.Proofs.Library.Calls

What becomes of a call that a script makes to native code.

* `Converts`, `StopsAt` - one item after the other is converted, to the end or up to the first that
  is not.
* `noting` - a run with a record beside the state of the host.
* `Library.Returns` - what a script gets for the results of native code.
* `Library.Invokes` - when native code runs, with which arguments, and what the script gets.
* `Library.callBuiltin_invokes` - this is so for any call of a builtin.
* `argument_at_pointer_loop_endless` - an argument that is neither converted nor refused.
-/

namespace ScriptBind

/-! ### One item after the other -/

section Items

variable {α β : Type} {convert : ShapeId → α → CrossM β} {ids : List ShapeId} {xs : List α}
  {ys : List β} {b b' : Boundary} {i : Nat} {stop : Stop}

/-- Each item is converted at the shape in its position, from the first to the last. -/
inductive Converts (convert : ShapeId → α → CrossM β) :
    List ShapeId → List α → Boundary → List β → Boundary → Prop
  | nil {b : Boundary} : Converts convert [] [] b [] b
  | cons {id : ShapeId} {ids : List ShapeId} {x : α} {xs : List α} {b b₁ b' : Boundary} {y : β}
    {ys : List β} : convert id x b = (.ok y, b₁) → Converts convert ids xs b₁ ys b' →
      Converts convert (id :: ids) (x :: xs) b (y :: ys) b'

/-- The items before this position are converted, and the conversion of the one at it stops. -/
inductive StopsAt (convert : ShapeId → α → CrossM β) :
    List ShapeId → List α → Boundary → Nat → Stop → Boundary → Prop
  | here {id : ShapeId} {ids : List ShapeId} {x : α} {xs : List α} {b b' : Boundary}
    {stop : Stop} : convert id x b = (.error stop, b') →
      StopsAt convert (id :: ids) (x :: xs) b 0 stop b'
  | later {id : ShapeId} {ids : List ShapeId} {x : α} {xs : List α} {b b₁ b' : Boundary} {y : β}
    {i : Nat} {stop : Stop} : convert id x b = (.ok y, b₁) →
      StopsAt convert ids xs b₁ i stop b' →
      StopsAt convert (id :: ids) (x :: xs) b (i + 1) stop b'

theorem converts_or_stopsAt (convert : ShapeId → α → CrossM β) (h : xs.length = ids.length)
    (b : Boundary) : (∃ ys b', Converts convert ids xs b ys b') ∨
      ∃ i stop b', StopsAt convert ids xs b i stop b' := by
  induction ids generalizing xs b with
  | nil =>
    obtain rfl := List.eq_nil_of_length_eq_zero h
    exact .inl ⟨[], b, .nil⟩
  | cons id ids ih =>
    cases xs with
    | nil => cases h
    | cons x xs =>
      rcases hfirst : convert id x b with ⟨stop | y, b₁⟩
      · exact .inr ⟨0, stop, b₁, .here hfirst⟩
      · rcases ih (Nat.succ.inj h) b₁ with ⟨ys, b', hrest⟩ | ⟨i, stop, b', hrest⟩
        · exact .inl ⟨y :: ys, b', .cons hfirst hrest⟩
        · exact .inr ⟨i + 1, stop, b', .later hfirst hrest⟩

theorem Converts.length_eq (h : Converts convert ids xs b ys b') :
    xs.length = ids.length ∧ ys.length = ids.length := by
  induction h with
  | nil => exact ⟨rfl, rfl⟩
  | cons _ _ ih => exact ⟨congrArg Nat.succ ih.1, congrArg Nat.succ ih.2⟩

theorem StopsAt.of_terminates (hends : ∀ id x, CrossM.Terminates (convert id x))
    (h : StopsAt convert ids xs b i stop b') : ∃ e, stop = .failed e := by
  induction h with
  | @here id ids x xs b b' stop hfirst =>
    cases stop with
    | failed e => exact ⟨e, rfl⟩
    | endless => exact absurd (congrArg Prod.fst hfirst) (hends id x b)
  | later _ _ ih => exact ih

section Quiet

variable (hquiet : ∀ id x, CrossM.Quiet (convert id x))

include hquiet

theorem Converts.reports_eq (h : Converts convert ids xs b ys b') : b'.reports = b.reports := by
  induction h with
  | nil => rfl
  | @cons id _ x _ b _ _ _ _ hfirst _ ih =>
    exact ih.trans ((congrArg (·.2.reports) hfirst).symm.trans (hquiet id x b))

theorem StopsAt.reports_eq (h : StopsAt convert ids xs b i stop b') : b'.reports = b.reports := by
  induction h with
  | @here id _ x _ b _ _ hfirst => exact (congrArg (·.2.reports) hfirst).symm.trans (hquiet id x b)
  | @later id _ x _ b _ _ _ _ _ hfirst _ ih =>
    exact ih.trans ((congrArg (·.2.reports) hfirst).symm.trans (hquiet id x b))

end Quiet

/-- What is said of a stop at the argument in this position. -/
def Stop.atArgument (callee : String) (position : Nat) : Stop → Stop
  | .failed cause => .failed (.argument callee position cause)
  | .endless => .endless

theorem CrossM.mapError_of_error {m : CrossM α} {callee : String} {position : Nat}
    (h : m b = (.error stop, b')) : m.mapError (.argument callee position) b =
      (.error (stop.atArgument callee position), b') := by
  cases stop with
  | failed e => exact mapError_of_failed h
  | endless => exact mapError_of_endless h

namespace Library

theorem convertArguments_of_converts (callee : String) (h : Converts convert ids xs b ys b') :
    ∀ position, convertArguments convert callee position xs ids b = (.ok ys, b') := by
  induction h with
  | nil => exact fun _ => rfl
  | cons hfirst _ ih =>
    intro position
    rw [convertArguments, CrossM.bind_of_ok (CrossM.mapError_of_ok hfirst),
      CrossM.bind_of_ok (ih (position + 1))]
    rfl

theorem convertArguments_of_stopsAt (callee : String) (h : StopsAt convert ids xs b i stop b') :
    ∀ position, convertArguments convert callee position xs ids b =
      (.error (stop.atArgument callee (position + i)), b') := by
  induction h with
  | here hfirst =>
    intro position
    rw [convertArguments, CrossM.bind_of_error (CrossM.mapError_of_error hfirst)]
    rfl
  | @later _ _ _ _ _ _ _ _ i _ hfirst _ ih =>
    intro position
    rw [convertArguments, CrossM.bind_of_ok (CrossM.mapError_of_ok hfirst),
      CrossM.bind_of_error (ih (position + 1)), Nat.add_right_comm, Nat.add_assoc]

theorem convertResults_of_converts (h : Converts convert ids xs b ys b') :
    convertResults convert xs ids b = (.ok ys, b') := by
  induction h with
  | nil => rfl
  | cons hfirst _ ih =>
    rw [convertResults, CrossM.bind_of_ok hfirst, CrossM.bind_of_ok ih]
    rfl

theorem convertResults_of_stopsAt (h : StopsAt convert ids xs b i stop b') :
    convertResults convert xs ids b = (.error stop, b') := by
  induction h with
  | here hfirst => rw [convertResults, CrossM.bind_of_error hfirst]
  | later hfirst _ ih =>
    rw [convertResults, CrossM.bind_of_ok hfirst, CrossM.bind_of_error ih]

end Library

theorem Converts.unique {zs : List β} {b'' : Boundary} (h : Converts convert ids xs b ys b')
    (h' : Converts convert ids xs b zs b'') : ys = zs ∧ b' = b'' := by
  cases (Library.convertResults_of_converts h).symm.trans (Library.convertResults_of_converts h')
  exact ⟨rfl, rfl⟩

theorem StopsAt.not_converts {b'' : Boundary} (h : StopsAt convert ids xs b i stop b') :
    ¬ Converts convert ids xs b ys b'' := by
  intro h'
  cases (Library.convertResults_of_stopsAt h).symm.trans (Library.convertResults_of_converts h')

end Items

/-! ### Records -/

section Noting

variable {σ ι α : Type}

/-- The same run, which also enters something in a record beside the state of the host. -/
def noting (entry : ι) (run : StateM (Boundary × σ) α) : StateM (Boundary × (σ × List ι)) α :=
  fun s =>
    let (a, t) := run (s.1, s.2.1)
    (a, (t.1, (t.2, s.2.2 ++ [entry])))

/-- The outcome of a run, with a record. -/
def withRecord (record : List ι) (outcome : α × (Boundary × σ)) : α × (Boundary × (σ × List ι)) :=
  (outcome.1, (outcome.2.1, (outcome.2.2, record)))

end Noting

namespace Library

variable {σ : Type} {lib : Library} {callee : String} {ids : List ShapeId}
  {results : List NativeValue} {s : Boundary × σ}

/-! ### Results -/

/-- The results are converted in their positions and packed, up to the first that is refused. -/
def Packs (lib : Library) (ids : List ShapeId) (results : List NativeValue) (s : Boundary × σ)
    (outcome : Except Stop Value × (Boundary × σ)) : Prop :=
  (∃ values b, Converts lib.toScript ids results s.1 values b ∧
      outcome = (.ok (packResults values), (b, s.2))) ∨
    ∃ position cause b, StopsAt lib.toScript ids results s.1 position (.failed cause) b ∧
      outcome = (.error (.failed cause), (b, s.2))

/-- The last result is declared to be an error. -/
def EndsInError (lib : Library) (ids : List ShapeId) : Prop :=
  ∃ last n name, ids.getLast? = some last ∧ lib.shapes.get? last = some ⟨n, name, .scalar .error⟩

/-- What a script gets for the results of native code. -/
structure Returns (lib : Library) (callee : String) (ids : List ShapeId)
    (results : List NativeValue) (s : Boundary × σ)
    (outcome : Except Stop Value × (Boundary × σ)) : Prop where
  count : results.length ≠ ids.length → outcome =
    (.error (.failed (.failure (callee ++ " returned " ++ toString results.length ++
      " results, declared " ++ toString ids.length))), s)
  unknown : results.length = ids.length → ∀ last, ids.getLast? = some last →
    lib.shapes.get? last = none → outcome = (.error (.failed (.unknownShape last)), s)
  raised : results.length = ids.length → lib.EndsInError ids → ∀ message,
    results.getLast? = some (.error (some message)) →
    outcome = (.error (.failed (.script (callee ++ ": " ++ message))), s)
  /-- Without an error its place is left out. -/
  unraised : results.length = ids.length → lib.EndsInError ids →
    (∀ message, results.getLast? ≠ some (.error (some message))) →
    lib.Packs ids.dropLast results.dropLast s outcome
  plain : results.length = ids.length → ¬ lib.EndsInError ids →
    (∀ last, ids.getLast? = some last → lib.shapes.get? last ≠ none) →
    lib.Packs ids results s outcome

theorem packs_convertResults (lib : Library) (h : results.length = ids.length)
    (s : Boundary × σ) : lib.Packs ids results s
      (CallM.convert (do return packResults (← convertResults lib.toScript results ids)) s) := by
  rcases converts_or_stopsAt lib.toScript h s.1 with ⟨values, b, hall⟩ | ⟨i, stop, b, hstop⟩
  · refine .inl ⟨values, b, hall, CallM.convert_of_eq ?_⟩
    rw [CrossM.bind_of_ok (convertResults_of_converts hall)]
    rfl
  · obtain ⟨cause, rfl⟩ := hstop.of_terminates lib.toScript_terminates
    refine .inr ⟨i, cause, b, hstop, CallM.convert_of_eq ?_⟩
    rw [CrossM.bind_of_error (convertResults_of_stopsAt hstop)]

theorem errorMessage?_eq_some {v : NativeValue} {message : String} :
    errorMessage? v = some message ↔ v = .error (some message) := by
  cases v <;> simp [errorMessage?]

section Kinds

variable (hlength : results.length = ids.length)

include hlength

/-- The shape of the last result is looked up before any of them is converted. -/
theorem resultsToScript_of_unknown {last : ShapeId} (hlast : ids.getLast? = some last)
    (hshape : lib.shapes.get? last = none) :
    lib.resultsToScript callee ids results = CrossM.fail (.unknownShape last) := by
  rw [resultsToScript, if_neg (not_not.2 hlength), hlast]
  simp only [isErrorShape, hshape]
  rfl

theorem resultsToScript_of_endsInError (h : lib.EndsInError ids) :
    lib.resultsToScript callee ids results =
      match results.getLast?.bind errorMessage? with
      | some message => CrossM.fail (.script (callee ++ ": " ++ message))
      | none => do
        return packResults (← convertResults lib.toScript results.dropLast ids.dropLast) := by
  obtain ⟨last, n, name, hlast, hshape⟩ := h
  rw [resultsToScript, if_neg (not_not.2 hlength), hlast]
  simp only [isErrorShape, hshape]
  rfl

theorem resultsToScript_of_plain (h : ¬ lib.EndsInError ids)
    (hknown : ∀ last, ids.getLast? = some last → lib.shapes.get? last ≠ none) :
    lib.resultsToScript callee ids results = do
      return packResults (← convertResults lib.toScript results ids) := by
  rw [resultsToScript, if_neg (not_not.2 hlength)]
  cases hlast : ids.getLast? with
  | none => rfl
  | some last =>
    obtain ⟨⟨n, name, kind⟩, hshape⟩ := Option.ne_none_iff_exists'.1 (hknown last hlast)
    have hkind : kind ≠ .scalar .error := fun hkind => h ⟨last, n, name, hlast, hkind ▸ hshape⟩
    simp only [isErrorShape, hshape, hkind, decide_false]
    rfl

end Kinds

theorem resultsToScript_returns (lib : Library) (callee : String) (ids : List ShapeId)
    (results : List NativeValue) (s : Boundary × σ) :
    lib.Returns callee ids results s
      (CallM.convert (lib.resultsToScript callee ids results) s) where
  count h := by
    rw [resultsToScript, if_pos h]
    rfl
  unknown hlength last hlast hshape := by
    rw [resultsToScript_of_unknown hlength hlast hshape]
    rfl
  raised hlength h message hraised := by
    rw [resultsToScript_of_endsInError hlength h, hraised]
    rfl
  unraised hlength h hnone := by
    have hmessage : results.getLast?.bind errorMessage? = none := by
      refine Option.eq_none_iff_forall_ne_some.2 fun message hmessage => ?_
      obtain ⟨v, hv, hmessage⟩ := Option.bind_eq_some_iff.1 hmessage
      exact hnone message (errorMessage?_eq_some.1 hmessage ▸ hv)
    rw [resultsToScript_of_endsInError hlength h, hmessage]
    exact packs_convertResults lib (by rw [List.length_dropLast, List.length_dropLast, hlength]) s
  plain hlength h hknown := by
    rw [resultsToScript_of_plain hlength h hknown]
    exact packs_convertResults lib hlength s

/-! ### Calls -/

/-- What becomes of a call of native code from a script, where the code itself was run with the
arguments in `calls`. -/
structure Invokes (lib : Library) (callee : String) (signature : FuncShape)
    (call : List NativeValue → CallM σ (List NativeValue)) (args : List Value) (s : Boundary × σ)
    (calls : List (List NativeValue)) (outcome : Except Stop Value × (Boundary × σ)) : Prop where
  once : calls.length ≤ 1
  called : ∀ natives, natives ∈ calls ↔ args.length = signature.params.length ∧
    ∃ b, Converts lib.fromScript signature.params args s.1 natives b
  arity : args.length ≠ signature.params.length → outcome =
    (.error (.failed (.arityMismatch callee signature.params.length args.length)), s)
  /-- The first argument that is not converted is refused, or its conversion has no end. -/
  argument : args.length = signature.params.length → calls = [] → ∃ position stop b,
    StopsAt lib.fromScript signature.params args s.1 position stop b ∧
      outcome = (.error (stop.atArgument callee position), (b, s.2)) ∧
      (stop = .endless → ∃ id, Relation.TransGen lib.shapes.PointsTo id id)
  failed : ∀ natives ∈ calls, ∀ b, Converts lib.fromScript signature.params args s.1 natives b →
    ∀ stop s', call natives (b, s.2) = (.error stop, s') → outcome = (.error stop, s')
  returned : ∀ natives ∈ calls, ∀ b, Converts lib.fromScript signature.params args s.1 natives b →
    ∀ results s', call natives (b, s.2) = (.ok results, s') →
      lib.Returns callee signature.results results s' outcome

section Invoke

variable {signature : FuncShape} {args : List Value}
  {call : List NativeValue → CallM σ (List NativeValue)} {b : Boundary}

theorem invoke_of_length_ne (h : args.length ≠ signature.params.length) :
    lib.invoke callee signature args call s =
      (.error (.failed (.arityMismatch callee signature.params.length args.length)), s) := by
  rw [invoke, if_pos h]
  rfl

theorem invoke_of_stopsAt {position : Nat} {stop : Stop}
    (hlength : args.length = signature.params.length)
    (h : StopsAt lib.fromScript signature.params args s.1 position stop b) :
    lib.invoke callee signature args call s =
      (.error (stop.atArgument callee position), (b, s.2)) := by
  have hrun := convertArguments_of_stopsAt callee h 0
  rw [Nat.zero_add] at hrun
  rw [invoke, if_neg (not_not.2 hlength), CallM.bind_apply, CallM.convert_of_eq hrun]

theorem invoke_of_converts {natives : List NativeValue}
    (h : Converts lib.fromScript signature.params args s.1 natives b) :
    lib.invoke callee signature args call s = (call natives >>= fun results =>
      CallM.convert (lib.resultsToScript callee signature.results results)) (b, s.2) := by
  rw [invoke, if_neg (not_not.2 h.length_eq.1)]
  exact CallM.bind_of_ok (CallM.convert_of_eq (convertArguments_of_converts callee h 0))

theorem invokes_of_length_ne (h : args.length ≠ signature.params.length) :
    lib.Invokes callee signature call args s [] (lib.invoke callee signature args call s) where
  once := Nat.zero_le _
  called _ := iff_of_false List.not_mem_nil fun hcalled => h hcalled.1
  arity := invoke_of_length_ne
  argument hlength _ := absurd hlength h
  failed := List.forall_mem_nil _
  returned := List.forall_mem_nil _

theorem invokes_of_stopsAt {position : Nat} {stop : Stop}
    (hlength : args.length = signature.params.length)
    (h : StopsAt lib.fromScript signature.params args s.1 position stop b) :
    lib.Invokes callee signature call args s [] (lib.invoke callee signature args call s) where
  once := Nat.zero_le _
  called _ := iff_of_false List.not_mem_nil fun hcalled => by
    obtain ⟨_, b', hall⟩ := hcalled
    exact h.not_converts hall
  arity hne := absurd hlength hne
  argument _ _ := by
    refine ⟨position, stop, b, h, invoke_of_stopsAt hlength h, ?_⟩
    rintro rfl
    by_contra hacyclic
    obtain ⟨e, he⟩ := h.of_terminates (Library.fromScript_terminates (not_exists.1 hacyclic))
    cases he
  failed := List.forall_mem_nil _
  returned := List.forall_mem_nil _

theorem invokes_of_converts {natives : List NativeValue}
    (h : Converts lib.fromScript signature.params args s.1 natives b) :
    lib.Invokes callee signature call args s [natives]
      (lib.invoke callee signature args call s) where
  once := Nat.le_refl _
  called found := by
    rw [List.mem_singleton]
    constructor
    · rintro rfl
      exact ⟨h.length_eq.1, b, h⟩
    · rintro ⟨_, b', hfound⟩
      exact (hfound.unique h).1
  arity hne := absurd h.length_eq.1 hne
  argument _ hnone := by cases hnone
  failed found _ b' hfound stop s' hcall := by
    rw [invoke_of_converts hfound, CallM.bind_apply, hcall]
  returned found _ b' hfound results s' hcall := by
    rw [invoke_of_converts hfound, CallM.bind_of_ok hcall]
    exact resultsToScript_returns lib callee signature.results results s'

/-- Whatever the native code does, with a record of what it is run with. -/
theorem invoke_invokes (lib : Library) (callee : String) (signature : FuncShape)
    (args : List Value) (call : List NativeValue → CallM σ (List NativeValue)) (s : Boundary × σ)
    (log : List (List NativeValue)) : ∃ calls,
    lib.invoke callee signature args (fun natives => noting natives (call natives))
        (s.1, (s.2, log)) =
      withRecord (log ++ calls) (lib.invoke callee signature args call s) ∧
    lib.Invokes callee signature call args s calls (lib.invoke callee signature args call s) := by
  by_cases hlength : args.length = signature.params.length
  swap
  · refine ⟨[], ?_, invokes_of_length_ne hlength⟩
    rw [invoke_of_length_ne hlength, invoke_of_length_ne hlength, List.append_nil]
    rfl
  rcases converts_or_stopsAt lib.fromScript hlength s.1 with
    ⟨natives, b, hall⟩ | ⟨position, stop, b, hstop⟩
  · refine ⟨[natives], ?_, invokes_of_converts hall⟩
    -- Conversions do not see the record: up to the native code both runs are one.
    have hall' : Converts lib.fromScript signature.params args (s.1, (s.2, log)).1 natives b :=
      hall
    rw [invoke_of_converts hall, invoke_of_converts hall', CallM.bind_apply, CallM.bind_apply]
    rcases hcall : call natives (b, s.2) with ⟨stop | results, s'⟩ <;>
      simp only [noting, hcall] <;> rfl
  · refine ⟨[], ?_, invokes_of_stopsAt hlength hstop⟩
    have hstop' : StopsAt lib.fromScript signature.params args (s.1, (s.2, log)).1 position
      stop b := hstop
    rw [invoke_of_stopsAt hlength hstop, invoke_of_stopsAt hlength hstop', List.append_nil]
    rfl

end Invoke

/-- Whatever the library, the builtin and the arguments. -/
theorem callBuiltin_invokes (lib : Library) (host : Host σ) (bound : Nat) (b : Builtin)
    (args : List Value) (s : Boundary × σ) (log : List (List NativeValue)) : ∃ calls,
    lib.invoke b.name b.signature args
        (fun natives => noting natives (lib.callFunc host bound b.func natives))
        (s.1, (s.2, log)) =
      withRecord (log ++ calls) (lib.callBuiltin host bound b args s) ∧
    lib.Invokes b.name b.signature (lib.callFunc host bound b.func) args s calls
      (lib.callBuiltin host bound b args s) :=
  lib.invoke_invokes b.name b.signature args (lib.callFunc host bound b.func) s log

/-- A method of an object is called like a builtin. -/
theorem callMethod_invokes {lib : Library} (host : Host σ) (bound : Nat) {target : Value}
    {h : Handle} {object : Object} {methods : List MethodShape} {name : String}
    {method : MethodShape} (htarget : lib.callTarget target = .ok (h, object, methods))
    (hmethod : methods.find? (·.name = name) = some method) (args : List Value)
    (s : Boundary × σ) (log : List (List NativeValue)) : ∃ calls,
    lib.invoke (h.typeName ++ "." ++ name) method.func args
        (fun natives => noting natives (lib.callObject host bound object name natives))
        (s.1, (s.2, log)) =
      withRecord (log ++ calls) (lib.callMethod host bound target name args s) ∧
    lib.Invokes (h.typeName ++ "." ++ name) method.func (lib.callObject host bound object name)
      args s calls (lib.callMethod host bound target name args s) := by
  rw [callMethod, htarget]
  simp only [hmethod]
  exact lib.invoke_invokes _ _ _ _ _ _

/-! ### An argument without an end -/

/-- Native code with a pointer to itself as its parameter. -/
def loopBuiltin : Builtin := ⟨"b", ⟨0, "n", .library⟩, ⟨[0], [], false⟩⟩

/-- The argument is not converted, and no error tells of it. -/
theorem argument_at_pointer_loop_endless :
    (loopDeclaration.lower.toOption.bind fun l => l.generate.1.toOption.map (·.shapes)) =
        some loopLibrary.shapes ∧
      loopLibrary.callBuiltin callbackHost 1 loopBuiltin [.string "x"] (.empty, ()) =
        (.error .endless, (.empty, ())) ∧
      ¬ ∀ (lib : Library) (b : Builtin) (args : List Value) (s : Boundary × Unit),
        args.length = b.signature.params.length →
        (∃ natives b', Converts lib.fromScript b.signature.params args s.1 natives b') ∨
          ∃ position cause s', lib.callBuiltin callbackHost 1 b args s =
            (.error (.failed (.argument b.name position cause)), s') := by
  have hendless : loopLibrary.callBuiltin callbackHost 1 loopBuiltin [.string "x"] (.empty, ()) =
    (.error .endless, (.empty, ())) := rfl
  refine ⟨shapes_loopDeclaration, hendless, fun h => ?_⟩
  rcases h loopLibrary loopBuiltin [.string "x"] (.empty, ()) rfl with
    ⟨natives, b', _ | ⟨hfirst, _⟩⟩ | ⟨position, cause, s', hcall⟩
  · cases hfirst
  · cases hendless.symm.trans hcall

end Library
end ScriptBind
