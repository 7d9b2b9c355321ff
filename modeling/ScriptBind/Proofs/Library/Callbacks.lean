import ScriptBind.Library.Call
import ScriptBind.Proofs.Crossing.ZeroValues

/-!
# ScriptBind.Proofs.Library.Callbacks

What native code gets when it calls a function that a script handed over.

* `Library.WellBehaved` - typed arguments lead to typed results.
* `Library.Forwarded` - how a wrapper calls a function of a script, and what becomes of its answer.
* `Library.Honours` - what is known of the function, by what the script handed over.
* `Library.fromScript_honours` - it is known of all that crosses at the shape of a function.
-/

namespace ScriptBind

open CrossM (Gives Yields)

variable {σ : Type}

namespace CallM

variable {α β : Type}

theorem bind_apply (m : CallM σ α) (k : α → CallM σ β) (s : Boundary × σ) :
    (m >>= k) s =
      match m s with
      | (.ok a, s) => k a s
      | (.error e, s) => (.error e, s) := by
  simp only [bind, ExceptT.bind, ExceptT.mk, StateT.bind, ExceptT.bindCont]
  rcases m s with ⟨_ | _, _⟩ <;> rfl

theorem bind_of_ok {m : CallM σ α} {k : α → CallM σ β} {s s' : Boundary × σ} {a : α}
    (h : m s = (.ok a, s')) : (m >>= k) s = k a s' := by
  rw [bind_apply, h]

theorem convert_of_eq {m : CrossM α} {s : Boundary × σ} {r : Except Stop α} {b : Boundary}
    (h : m s.1 = (r, b)) : convert m s = (r, (b, s.2)) := by
  rw [convert, h]

theorem of_convert {m : CrossM α} {s s' : Boundary × σ} {r : Except Stop α}
    (h : convert m s = (r, s')) : m s.1 = (r, s'.1) := by
  cases h
  rfl

end CallM

theorem Value.handleFree_of_parts {x : Value} (hx : ∀ h, x ≠ .native h) (hparts : x.parts = []) :
    x.HandleFree :=
  .intro hx fun y hy => by rw [hparts] at hy; cases hy

namespace Library

variable {lib : Library} {host : Host σ} {callee : String}

/-- A list of values for a list of shapes. -/
abbrev TypedAll (lib : Library) : List ShapeId → List NativeValue → Prop :=
  List.Forall₂ (lib.shapes.Typed Shape.Holds)

/-! ### Arguments and results -/

theorem convertArguments_yields {ids : List ShapeId} {args : List NativeValue}
    (h : lib.TypedAll ids args) (callee : String) : ∀ position : Nat,
    Yields (convertArguments lib.toScript callee position args ids)
      (List.Forall₂ (fun p v => Gives (lib.toScript p.1 p.2) v) (ids.zip args)) := by
  induction h with
  | nil =>
    intro position
    exact .pure .nil
  | @cons id arg ids args harg _ ih =>
    intro position
    have hyields : Yields (lib.toScript id arg) fun _ => True :=
      harg.toScript_yields.mapError lib.names.explain
    have hfirst := (hyields.and_gives fun _ hv => hv).mapError (.argument callee position)
    exact hfirst.bind fun v hv => (ih (position + 1)).bind fun vs hvs => .pure (.cons hv.2 hvs)

theorem typed_of_fromScript {id : ShapeId} {x : Value} {v : NativeValue}
    (h : Gives (lib.fromScript id x) v) (hx : x.HandleFree) :
    lib.shapes.Typed Shape.Holds id v :=
  let ⟨_, _, hv⟩ := h
  (Library.fromScript_sound lib hx hv).1

theorem convertResults_gives {ids : List ShapeId} : ∀ {items : List Value}
    {results : List NativeValue}, Gives (convertResults lib.fromScript items ids) results →
    items.length = ids.length → results.length = ids.length ∧
      ((∀ x ∈ items, x.HandleFree) → lib.TypedAll ids results) := by
  induction ids with
  | nil =>
    intro items results h hlength
    obtain rfl := List.eq_nil_of_length_eq_zero hlength
    cases CrossM.gives_pure.1 h
    exact ⟨rfl, fun _ => .nil⟩
  | cons id ids ih =>
    intro items results h hlength
    cases items with
    | nil => cases hlength
    | cons x items =>
      obtain ⟨v, hv, h⟩ := h.of_bind
      obtain ⟨vs, hvs, rfl⟩ := h.of_bind_pure
      obtain ⟨hsame, htyped⟩ := ih hvs (Nat.succ.inj hlength)
      refine ⟨congrArg Nat.succ hsame, fun hfree => ?_⟩
      rw [List.forall_mem_cons] at hfree
      exact .cons (typed_of_fromScript hv hfree.1) (htyped hfree.2)

theorem resultsFromScript_gives {ids : List ShapeId} {x : Value} {results : List NativeValue}
    (h : Gives (lib.resultsFromScript callee ids x) results) :
    results.length = ids.length ∧ (x.HandleFree → lib.TypedAll ids results) := by
  unfold resultsFromScript at h
  split at h
  · cases CrossM.gives_pure.1 h
    exact ⟨rfl, fun _ => .nil⟩
  · obtain ⟨v, hv, rfl⟩ := h.of_bind_pure
    exact ⟨rfl, fun hx => .cons (typed_of_fromScript hv hx) .nil⟩
  · cases x with
    | list items =>
      by_cases hitems : items.length = ids.length
      · obtain ⟨hlength, htyped⟩ := convertResults_gives (by simpa [hitems] using h) hitems
        exact ⟨hlength, fun hx => htyped fun y hy => hx.of_mem_parts hy⟩
      · exact (CrossM.not_gives_fail (by simpa [hitems] using h)).elim
    | _ => exact (CrossM.not_gives_fail h).elim

theorem zeroResults_eq_ok {f : ScriptFn} {ids : List ShapeId} {problem : String}
    {results : List NativeValue} {b b' : Boundary}
    (h : lib.zeroResults f ids problem b = (.ok results, b')) :
    b' = b.report (.script (f.name ++ ": " ++ problem)) ∧
      List.Forall₂ (fun id v => lib.zeroValue? id = some v) ids results := by
  unfold zeroResults at h
  obtain ⟨_, b₁, hreport, h⟩ := CrossM.ok_of_bind h
  cases hreport
  cases hvalues : ids.mapM lib.zeroValue? with
  | none =>
    rw [hvalues] at h
    cases h
  | some values =>
    rw [hvalues] at h
    cases h
    exact ⟨rfl, mapM_eq_some_iff.1 hvalues⟩

theorem typedAll_zero_iff {ids : List ShapeId} {results : List NativeValue}
    (h : List.Forall₂ (fun id v => lib.zeroValue? id = some v) ids results) :
    lib.TypedAll ids results ↔ ∀ id ∈ ids, lib.shapes.Zeroable id := by
  induction h with
  | nil => simp
  | cons hv _ ih =>
    simp only [List.forall₂_cons, ih, List.forall_mem_cons, ShapeTable.typed_zeroOf?_iff hv]

/-! ### Calls -/

/-- Typed arguments lead to typed results, one for each that is declared, if there are any. -/
def WellBehaved (lib : Library) (host : Host σ) (f : NativeFunc) (signature : FuncShape) : Prop :=
  ∀ bound args s results s', lib.TypedAll signature.params args →
    lib.callFunc host bound f args s = (.ok results, s') → lib.TypedAll signature.results results

/-- The function of a script is called once, with the arguments as the signature says. -/
structure Forwarded (lib : Library) (host : Host σ) (signature : FuncShape) (fn : ScriptFn)
    (args : List NativeValue) (s : Boundary × σ) (call : CallM σ (List NativeValue))
    (values : List Value) (b₁ : Boundary) (answer : Except String Value) (s₂ : Boundary × σ) :
    Prop where
  arguments : convertArguments lib.toScript fn.name 0 args signature.params s.1 = (.ok values, b₁)
  each : List.Forall₂ (fun p v => Gives (lib.toScript p.1 p.2) v) (signature.params.zip args) values
  called : host.script fn values (b₁, s.2) = (answer, s₂)
  answered : ∀ x results s', answer = .ok x → call s = (.ok results, s') →
    lib.resultsFromScript fn.name signature.results x s₂.1 = (.ok results, s'.1) ∧
      results.length = signature.results.length ∧
      (x.HandleFree → lib.TypedAll signature.results results)
  /-- The problem is reported, and the results are zero values. -/
  failed : ∀ problem results s', answer = .error problem → call s = (.ok results, s') →
    s'.1 = s₂.1.report (.script (fn.name ++ ": " ++ problem)) ∧
      List.Forall₂ (fun id v => lib.zeroValue? id = some v) signature.results results ∧
      (lib.TypedAll signature.results results ↔
        ∀ id ∈ signature.results, lib.shapes.Zeroable id)

theorem callWrapped_forwarded {signature : FuncShape} {fn : ScriptFn} {args : List NativeValue}
    (hargs : lib.TypedAll signature.params args) (s : Boundary × σ) :
    ∃ values b₁ answer s₂, lib.Forwarded host signature fn args s
      (lib.callWrapped host signature fn args) values b₁ answer s₂ := by
  obtain ⟨values, b₁, hvalues, heach⟩ := convertArguments_yields hargs fn.name 0 s.1
  rcases hscript : host.script fn values (b₁, s.2) with ⟨answer, s₂⟩
  have hcall : lib.callWrapped host signature fn args s =
      (match answer with
        | .ok result => CallM.convert (lib.resultsFromScript fn.name signature.results result)
        | .error problem => CallM.convert (lib.zeroResults fn signature.results problem) :
          CallM σ (List NativeValue)) s₂ := by
    rw [callWrapped, if_neg (by simpa using hargs.length_eq.symm),
      CallM.bind_of_ok (CallM.convert_of_eq hvalues)]
    have hrun : runScript host fn values (b₁, s.2) = (.ok answer, s₂) := by
      rw [runScript, hscript]
    rw [CallM.bind_of_ok hrun]
    cases answer <;> rfl
  refine ⟨values, b₁, answer, s₂, hvalues, heach, hscript, ?_, ?_⟩
  · rintro x results s' rfl h
    have hresults := CallM.of_convert (hcall.symm.trans h)
    exact ⟨hresults, resultsFromScript_gives ⟨_, _, hresults⟩⟩
  · rintro problem results s' rfl h
    obtain ⟨hreport, hzero⟩ := zeroResults_eq_ok (CallM.of_convert (hcall.symm.trans h))
    exact ⟨hreport, hzero, typedAll_zero_iff hzero⟩

/-- What is known of the function that native code gets for a value, at a signature. -/
inductive Honours (lib : Library) (host : Host σ) (signature : FuncShape) :
    Value → NativeFunc → Prop
  /-- A native function comes back as it was. It was made for the signature of the builtin. -/
  | builtin {builtin : Builtin}
      (typed : builtin.signature.params = signature.params →
        builtin.signature.results = signature.results →
        lib.WellBehaved host builtin.func builtin.signature →
        lib.WellBehaved host builtin.func signature) :
      Honours lib host signature (.builtin builtin) builtin.func
  | function {fn : ScriptFn} {f : NativeFunc}
      (forwarded : ∀ bound args s, lib.TypedAll signature.params args →
        ∃ values b₁ answer s₂, lib.Forwarded host signature fn args s
          (lib.callFunc host (bound + 1) f args) values b₁ answer s₂)
      (typed : (∀ values s x s', host.script fn values s = (.ok x, s') → x.HandleFree) →
        (∀ id ∈ signature.results, lib.shapes.Zeroable id) → lib.WellBehaved host f signature) :
      Honours lib host signature (.function fn) f

theorem wellBehaved_of_forwarded {signature : FuncShape} {fn : ScriptFn} {f : NativeFunc}
    (hforwarded : ∀ bound args s, lib.TypedAll signature.params args →
      ∃ values b₁ answer s₂, lib.Forwarded host signature fn args s
        (lib.callFunc host (bound + 1) f args) values b₁ answer s₂)
    (hfree : ∀ values s x s', host.script fn values s = (.ok x, s') → x.HandleFree)
    (hzero : ∀ id ∈ signature.results, lib.shapes.Zeroable id) :
    lib.WellBehaved host f signature := by
  intro bound args s results s' hargs h
  cases bound with
  | zero => cases h
  | succ bound =>
    obtain ⟨values, b₁, answer, s₂, hcall⟩ := hforwarded bound args s hargs
    cases answer with
    | ok x => exact (hcall.answered x results s' rfl h).2.2 (hfree _ _ _ _ hcall.called)
    | error problem => exact (hcall.failed problem results s' rfl h).2.2.2 hzero

/-- Whatever crosses at the shape of a function, but for handles, which pass as they are. -/
theorem fromScript_honours (lib : Library) (host : Host σ) {id n : ShapeId} {name : String}
    {signature : FuncShape} (hshape : lib.shapes.get? id = some ⟨n, name, .func signature⟩)
    {x : Value} (hx : x.HandleFree) {f : NativeFunc} {b b' : Boundary}
    (h : lib.fromScript id x b = (.ok (.func (some f)), b')) :
    lib.Honours host signature x f := by
  have hgives : Gives (funcFromScript name signature x) (.func (some f)) := by
    have hmap : Gives (lib.fromScript id x) (.func (some f)) := ⟨b, b', h⟩
    rw [Library.fromScript_eq] at hmap
    have hconvert := hmap.of_mapError
    rw [ShapeTable.fromScript_eq, hshape] at hconvert
    exact hconvert
  unfold funcFromScript at hgives
  split at hgives
  · cases CrossM.gives_pure.1 hgives
  · split at hgives
    · cases CrossM.gives_pure.1 hgives
    · exact (CrossM.not_gives_fail hgives).elim
  · rename_i builtin
    cases CrossM.gives_pure.1 hgives
    refine .builtin fun hparams hresults hbehaved => ?_
    intro bound args s results s' hargs hcall
    exact hresults ▸ hbehaved bound args s results s' (hparams ▸ hargs) hcall
  · rename_i fn
    obtain ⟨g, hg, hgives⟩ := hgives.of_bind
    cases CrossM.gives_pure.1 hgives
    have hcode : f.code = .wrapper signature fn := by
      obtain ⟨i, -, hg⟩ := hg.of_bind
      rw [CrossM.gives_pure.1 hg]
    have hforwarded : ∀ bound args s, lib.TypedAll signature.params args →
        ∃ values b₁ answer s₂, lib.Forwarded host signature fn args s
          (lib.callFunc host (bound + 1) f args) values b₁ answer s₂ := by
      intro bound args s hargs
      rw [callFunc, hcode]
      exact callWrapped_forwarded hargs s
    exact .function hforwarded (wellBehaved_of_forwarded hforwarded)
  · exact absurd rfl (hx.ne_native _)
  · exact (CrossM.not_gives_fail hgives).elim

/-! ### Functions without parameters -/

def callbacks : Library :=
  ⟨.ofList [("int64", .scalar (.int 64 .signed)), ("string", .scalar .string),
    ("Window", .boxed "no fields"), ("Tag", .record [⟨"level", 0⟩]),
    ("func() int64", .func ⟨[], [0], false⟩), ("func() Window", .func ⟨[], [2], false⟩),
    ("func() Tag", .func ⟨[], [3], false⟩)], .empty⟩

/-- Native code that returns a text. -/
def title : NativeFunc := ⟨0, "title", .library⟩

def titleBuiltin : Builtin := ⟨"title", title, ⟨[], [1], false⟩⟩

def failing : ScriptFn := ⟨0, "failing", 0⟩

/-- A script function that returns a handle. Native code calls its content a tag. -/
def handing : ScriptFn := ⟨1, "handing", 0⟩

def callbackHost : Host Unit where
  script f _ := return if f.id = 0 then .error "stop" else .ok (.native ⟨0, "Tag", .int 5⟩)
  native _ _ _ := return [.string "x"]
  method _ _ _ _ := return []

theorem fromScript_honours_failing :
    callbacks.shapes.get? 4 = some ⟨4, "func() int64", .func ⟨[], [0], false⟩⟩ ∧
    (Value.function failing).HandleFree ∧
    callbacks.fromScript 4 (.function failing) .empty =
      (.ok (.func (some ⟨0, "failing", .wrapper ⟨[], [0], false⟩ failing⟩)),
        { Boundary.empty with nextId := 1 }) ∧
    callbacks.Honours callbackHost ⟨[], [0], false⟩ (.function failing)
      ⟨0, "failing", .wrapper ⟨[], [0], false⟩ failing⟩ :=
  have hshape : callbacks.shapes.get? 4 = some ⟨4, "func() int64", .func ⟨[], [0], false⟩⟩ := rfl
  have hfree : (Value.function failing).HandleFree :=
    Value.handleFree_of_parts (fun _ h => by cases h) rfl
  have hcross : callbacks.fromScript 4 (.function failing) .empty =
    (.ok (.func (some ⟨0, "failing", .wrapper ⟨[], [0], false⟩ failing⟩)),
      { Boundary.empty with nextId := 1 }) := rfl
  ⟨hshape, hfree, hcross, fromScript_honours callbacks callbackHost hshape hfree hcross⟩

theorem title_wellBehaved : callbacks.WellBehaved callbackHost title ⟨[], [1], false⟩ := by
  intro bound args s results s' hargs h
  cases bound with
  | zero => cases h
  | succ bound =>
    cases h
    exact .cons (.leaf rfl rfl trivial) .nil

/-- A function for another type, a zero value that has no type, and a handle of the script. -/
theorem untyped_results :
    (callbacks.fromScript 4 (.builtin titleBuiltin) .empty =
        (.ok (.func (some title)), .empty) ∧
      callbacks.callFunc callbackHost 1 title [] (.empty, ()) =
        (.ok [.string "x"], (.empty, ())) ∧ ¬ callbacks.TypedAll [0] [.string "x"]) ∧
    (∃ f b s, callbacks.fromScript 5 (.function failing) .empty = (.ok (.func (some f)), b) ∧
      callbacks.callFunc callbackHost 1 f [] (b, ()) = (.ok [.dynamic .none], s) ∧
      ¬ callbacks.TypedAll [2] [.dynamic .none]) ∧
    (∃ f b s, callbacks.fromScript 6 (.function handing) .empty = (.ok (.func (some f)), b) ∧
      callbacks.callFunc callbackHost 1 f [] (b, ()) = (.ok [.int 5], s) ∧
      ¬ callbacks.TypedAll [3] [.int 5]) ∧
    ¬ ∀ (σ : Type) (lib : Library) (host : Host σ) (id n : ShapeId) (name : String)
      (signature : FuncShape) (x : Value) (f : NativeFunc) (b b' : Boundary),
      lib.shapes.get? id = some ⟨n, name, .func signature⟩ → x.HandleFree →
      (∀ builtin, x = .builtin builtin →
        lib.WellBehaved host builtin.func builtin.signature) →
      lib.fromScript id x b = (.ok (.func (some f)), b') → lib.WellBehaved host f signature := by
  have hstring : ¬ callbacks.TypedAll [0] [.string "x"] := by
    rintro (_ | ⟨htyped, -⟩)
    have found : callbacks.shapes.get? 0 = some ⟨0, "int64", .scalar (.int 64 .signed)⟩ := rfl
    exact (ShapeTable.typed_leaf_iff found rfl).1 htyped
  have hwindow : ¬ callbacks.TypedAll [2] [.dynamic .none] := by
    rintro (_ | ⟨htyped, -⟩)
    have found : callbacks.shapes.get? 2 = some ⟨2, "Window", .boxed "no fields"⟩ := rfl
    exact (ShapeTable.typed_leaf_iff found rfl).1 htyped
  have htag : ¬ callbacks.TypedAll [3] [.int 5] := by
    rintro (_ | ⟨htyped, -⟩)
    have found : callbacks.shapes.get? 3 = some ⟨3, "Tag", .record [⟨"level", 0⟩]⟩ := rfl
    cases htyped with
    | leaf found' hparts => cases found.symm.trans found'; cases hparts
  refine ⟨⟨rfl, rfl, hstring⟩, ⟨_, _, _, rfl, rfl, hwindow⟩, ⟨_, _, _, rfl, rfl, htag⟩, fun h => ?_⟩
  have hbehaved := h Unit callbacks callbackHost 4 4 "func() int64" ⟨[], [0], false⟩
    (.builtin titleBuiltin) title .empty .empty rfl
    (Value.handleFree_of_parts (fun _ h => by cases h) rfl)
    (fun builtin heq => by cases heq; exact title_wellBehaved) rfl
  exact hstring (hbehaved 1 [] (.empty, ()) _ _ .nil rfl)

end Library
end ScriptBind
