import ScriptBind.Binding.Generator
import ScriptBind.Proofs.Crossing.Explain

/-!
# ScriptBind.Proofs.Crossing.Agreement

The generated converters do what the interpreter of shapes does.

* `Bindings.Coherent` - each converter is that of its shape, and is found under its name.
* `Bindings.callTo_below`, `Bindings.callFrom_below` - wherever an interpreter with a bound
  terminates, a converter with the same bound does the same. The induction is on the bound.
* `Bindings.callTo_eventually`, `Bindings.callFrom_eventually` - the interpreter of the library.

An interpreter explains an error once, at the end. A converter gets errors from its parts that are
explained already, raises errors of its own, and explains both or none.
-/

namespace ScriptBind

open CrossM (Below)

/-- How the generator makes converters, as far as their behaviour goes. -/
structure Bindings.Coherent (b : Bindings) : Prop where
  ids : ∀ id shape, b.shapes.get? id = some shape → shape.id = id
  defined : ∀ e ∈ b.converters, ∃ shape, b.shapes.get? e.shape = some shape ∧
    b.function? e.ident = some (Converter.ofShape b.shapes (Generator.identsOf b.converters)
      e.ident e.direction shape)

theorem Generator.mem_of_identsOf {entries : List ConverterEntry} {id : ShapeId}
    {direction : Direction} {ident : String} (h : identsOf entries id direction = some ident) :
    ∃ e ∈ entries, e.shape = id ∧ e.direction = direction ∧ e.ident = ident := by
  rw [identsOf] at h
  split at h
  · rename_i e he
    have hmem := List.mem_of_find?_eq_some he
    have hsame := List.find?_some he
    simp only [Bool.and_eq_true, decide_eq_true_eq] at hsame
    exact ⟨e, List.mem_reverse.1 hmem, hsame.1, hsame.2, Option.some.inj h⟩
  · cases h

/-! ### Bodies -/

namespace Converter

variable {shapes : ShapeTable} {idents : Idents} {direction : Direction}

theorem part_cases (shapes : ShapeTable) (idents : Idents) (direction : Direction)
    (id : ShapeId) :
    (∃ n name s, shapes.get? id = some ⟨n, name, .scalar s⟩ ∧
        part shapes idents direction id = .scalar s) ∨
      (∃ ident, idents id direction = some ident ∧
        part shapes idents direction id = .call ident) ∨
      part shapes idents direction id = .interpret id := by
  rw [part]
  split
  · rename_i n name s found
    exact .inl ⟨n, name, s, found, rfl⟩
  · split
    · rename_i ident hident
      exact .inr (.inl ⟨ident, hident, rfl⟩)
    · exact .inr (.inr rfl)

theorem body_toScript {shape : Shape} (hp : shape.kind.hasParts = true)
    (convert : Part → ToScript) :
    (bodyOf shapes idents direction shape).toScript shape.name convert =
      shape.toScript fun id => convert (part shapes idents direction id) := by
  obtain ⟨n, name, kind⟩ := shape
  cases kind with
  | record fields =>
    simp only [bodyOf, Body.toScript, Shape.toScript, List.map_map]
    rfl
  | slice element => rfl
  | array length element => rfl
  | map value => rfl
  | pointer element => rfl
  | _ => cases hp

theorem body_fromScript {shape : Shape} (hp : shape.kind.hasParts = true)
    (convert : Part → FromScript) :
    (bodyOf shapes idents direction shape).fromScript shape.name convert =
      shape.fromScript fun id => convert (part shapes idents direction id) := by
  obtain ⟨n, name, kind⟩ := shape
  cases kind with
  | record fields =>
    simp only [bodyOf, Body.fromScript, Shape.fromScript, List.map_map]
    rfl
  | slice element => rfl
  | array length element => rfl
  | map value => rfl
  | pointer element => rfl
  | _ => cases hp

end Converter

/-! ### One converter -/

section Step

variable {lib : Library} (hnames : lib.names.OfStructs)

include hnames

theorem Part.below_toScript {bound : Nat} {idents : Converter.Idents} {call : String → ToScript}
    {id : ShapeId} {v : NativeValue}
    (hcall : ∀ ident, idents id .toScript = some ident →
      Below ((convertTo lib.shapes bound id v).mapError lib.names.explain) (call ident v)) :
    Below ((convertTo lib.shapes bound id v).mapError lib.names.explain)
      (Part.toScript lib call (Converter.part lib.shapes idents .toScript id) v) := by
  rcases Converter.part_cases lib.shapes idents .toScript id with
    ⟨n, name, s, found, hpart⟩ | ⟨ident, hident, hpart⟩ | hpart
  · rw [hpart]
    cases bound with
    | zero => exact CrossM.endless_below _
    | succ bound =>
      rw [convertTo, found]
      show Below ((s.toScript v).mapError _) (s.toScript v)
      rw [Scalar.mapError_toScript hnames]
      exact .refl _
  · rw [hpart]
    exact hcall ident hident
  · rw [hpart]
    exact (convertTo_below lib.shapes bound id v).mapError _

theorem Part.below_fromScript {bound : Nat} {idents : Converter.Idents}
    {call : String → FromScript} {id : ShapeId} {x : Value}
    (hcall : ∀ ident, idents id .fromScript = some ident →
      Below ((convertFrom lib.shapes bound id x).mapError lib.names.explain) (call ident x)) :
    Below ((convertFrom lib.shapes bound id x).mapError lib.names.explain)
      (Part.fromScript lib call (Converter.part lib.shapes idents .fromScript id) x) := by
  rcases Converter.part_cases lib.shapes idents .fromScript id with
    ⟨n, name, s, found, hpart⟩ | ⟨ident, hident, hpart⟩ | hpart
  · rw [hpart]
    cases bound with
    | zero => exact CrossM.endless_below _
    | succ bound =>
      rw [convertFrom, found]
      show Below ((s.fromScript x).mapError _) (s.fromScript x)
      rw [Scalar.mapError_fromScript hnames]
      exact .refl _
  · rw [hpart]
    exact hcall ident hident
  · rw [hpart]
    exact (convertFrom_below lib.shapes bound id x).mapError _

theorem Converter.below_toScript {bound : Nat} {idents : Converter.Idents} {ident : String}
    {call : String → ToScript} {shape : Shape} {v : NativeValue}
    (found : lib.shapes.get? shape.id = some shape)
    (hcall : ∀ id ident, idents id .toScript = some ident → ∀ v,
      Below ((convertTo lib.shapes bound id v).mapError lib.names.explain) (call ident v)) :
    Below ((convertTo lib.shapes (bound + 1) shape.id v).mapError lib.names.explain)
      ((Converter.ofShape lib.shapes idents ident .toScript shape).toScript lib call v) := by
  have hinterpret := (convertTo_below lib.shapes (bound + 1) shape.id v).mapError lib.names.explain
  rw [convertTo, found] at hinterpret ⊢
  have hcongr := Converter.explained_congruence
    (Converter.ofShape lib.shapes idents ident .toScript shape) hnames
  cases hp : shape.kind.hasParts with
  | true =>
    rw [Converter.toScript]
    simp only [Converter.ofShape, Converter.body_toScript hp]
    refine Shape.toScript_congr hcongr hp fun id x _ => ?_
    exact Converter.below_explained _ hnames
      (Part.below_toScript hnames fun ident hident => hcall id ident hident x)
  | false =>
    refine Converter.below_explained _ hnames ?_
    obtain ⟨n, name, kind⟩ := shape
    cases kind with
    | scalar s =>
      show Below ((s.toScript v).mapError _) (s.toScript v)
      rw [Scalar.mapError_toScript hnames]
      exact .refl _
    | boxed reason => cases v <;> exact .refl _
    | func signature => exact hinterpret
    | chan direction element => exact hinterpret
    | interface methods => exact hinterpret
    | _ => cases hp

theorem Converter.below_fromScript {bound : Nat} {idents : Converter.Idents} {ident : String}
    {call : String → FromScript} {shape : Shape} {x : Value}
    (found : lib.shapes.get? shape.id = some shape)
    (hcall : ∀ id ident, idents id .fromScript = some ident → ∀ x,
      Below ((convertFrom lib.shapes bound id x).mapError lib.names.explain) (call ident x)) :
    Below ((convertFrom lib.shapes (bound + 1) shape.id x).mapError lib.names.explain)
      ((Converter.ofShape lib.shapes idents ident .fromScript shape).fromScript lib call x) := by
  have hpart : ∀ id x, Below ((convertFrom lib.shapes bound id x).mapError lib.names.explain)
      (Part.fromScript lib call (Converter.part lib.shapes idents .fromScript id) x) :=
    fun id x => Part.below_fromScript hnames fun ident hident => hcall id ident hident x
  have hinterpret :=
    (convertFrom_below lib.shapes (bound + 1) shape.id x).mapError lib.names.explain
  rw [convertFrom, found] at hinterpret ⊢
  have hcongr := Converter.explained_congruence
    (Converter.ofShape lib.shapes idents ident .fromScript shape) hnames
  cases hp : shape.kind.hasParts with
  | true =>
    rw [Converter.fromScript]
    simp only [Converter.ofShape, Converter.body_fromScript hp]
    refine Shape.fromScript_congr hcongr hp (fun id y _ => ?_) fun id _ => ?_
    · exact Converter.below_explained _ hnames (hpart id y)
    · exact Converter.below_explained _ hnames (hpart id x)
  | false =>
    obtain ⟨n, name, kind⟩ := shape
    cases kind with
    | scalar s =>
      refine Converter.below_explained _ hnames ?_
      show Below ((s.fromScript x).mapError _) (s.fromScript x)
      rw [Scalar.mapError_fromScript hnames]
      exact .refl _
    | boxed reason =>
      show Below ((boxedFromScript name x).mapError _)
        (Converter.explained _ lib (boxedFromScript name x))
      unfold boxedFromScript
      split
      · split
        · exact hcongr.pure _
        · exact hcongr.fail (.mismatch _)
      · exact hcongr.fail (.mismatch _)
    | func signature => exact Converter.below_explained _ hnames hinterpret
    | chan direction element => exact Converter.below_explained _ hnames hinterpret
    | interface methods => exact Converter.below_explained _ hnames hinterpret
    | _ => cases hp

end Step

/-! ### Calls of converters -/

namespace Bindings

variable {b : Bindings} {lib : Library} (hb : b.Coherent) (hshapes : lib.shapes = b.shapes)
  (hnames : lib.names.OfStructs)

include hb hshapes hnames

theorem callTo_below (bound : Nat) : ∀ e ∈ b.converters, e.direction = .toScript →
    ∀ v, Below ((convertTo lib.shapes bound e.shape v).mapError lib.names.explain)
      (b.callTo lib bound e.ident v) := by
  induction bound with
  | zero =>
    intro e _ _ v
    exact CrossM.endless_below _
  | succ bound ih =>
    intro e he hdirection v
    obtain ⟨shape, found, hfunction⟩ := hb.defined e he
    have hid := hb.ids e.shape shape found
    rw [callTo, hfunction, hdirection]
    rw [← hid, ← hshapes] at found
    rw [← hid, ← hshapes]
    refine Converter.below_toScript hnames found ?_
    intro id ident hident v
    obtain ⟨e', he', hshape, hdirection', hident'⟩ := Generator.mem_of_identsOf hident
    rw [← hshape, ← hident']
    exact ih e' he' hdirection' v

theorem callFrom_below (bound : Nat) : ∀ e ∈ b.converters, e.direction = .fromScript →
    ∀ x, Below ((convertFrom lib.shapes bound e.shape x).mapError lib.names.explain)
      (b.callFrom lib bound e.ident x) := by
  induction bound with
  | zero =>
    intro e _ _ x
    exact CrossM.endless_below _
  | succ bound ih =>
    intro e he hdirection x
    obtain ⟨shape, found, hfunction⟩ := hb.defined e he
    have hid := hb.ids e.shape shape found
    rw [callFrom, hfunction, hdirection]
    rw [← hid, ← hshapes] at found
    rw [← hid, ← hshapes]
    refine Converter.below_fromScript hnames found ?_
    intro id ident hident x
    obtain ⟨e', he', hshape, hdirection', hident'⟩ := Generator.mem_of_identsOf hident
    rw [← hshape, ← hident']
    exact ih e' he' hdirection' x

theorem callTo_eventually {e : ConverterEntry} (he : e ∈ b.converters)
    (hdirection : e.direction = .toScript) (v : NativeValue) {bound : Nat}
    (hbound : v.depth < bound) : b.callTo lib bound e.ident v = lib.toScript e.shape v := by
  have hbelow := callTo_below hb hshapes hnames bound e he hdirection v
  rw [convertTo_eq hbound] at hbelow
  exact hbelow.eq (CrossM.terminates_mapError.2 (lib.shapes.toScript_terminates e.shape v))

theorem callFrom_eventually {e : ConverterEntry} (he : e ∈ b.converters)
    (hdirection : e.direction = .fromScript) (x : Value) {bound : Nat}
    (hbound : lib.shapes.need x ≤ bound) {c : Boundary}
    (hends : (lib.fromScript e.shape x c).1 ≠ .error .endless) :
    b.callFrom lib bound e.ident x c = lib.fromScript e.shape x c := by
  have hbelow := callFrom_below hb hshapes hnames bound e he hdirection x
  rw [convertFrom_eq hbound, ← Library.fromScript_eq] at hbelow
  exact hbelow c hends

end Bindings
end ScriptBind
