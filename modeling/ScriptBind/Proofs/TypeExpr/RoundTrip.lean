import ScriptBind.Proofs.TypeExpr.ReadBack

/-!
# ScriptBind.Proofs.TypeExpr.RoundTrip

Type notation that is written reads back.

* `TypeExpr.wellFormed_iff`, `FuncExpr.wellFormed_iff` - the well-formed expressions are those that
  read back from their written form, so it is decidable whether one is well formed.
* `TypeExpr.read_inverse_render` - reading and writing are inverse to each other.
-/

namespace ScriptBind
namespace TypeReader

theorem enough_depthFor (tokens : List Token) : Enough 0 (depthFor tokens) (tokens ++ []) := by
  rw [List.append_nil, Enough, depthFor]
  omega

theorem tokensOf_eq_ok {text : String} {tokens : List Token} (h : Token.scan text = .ok tokens)
    (hne : tokens ≠ []) : tokensOf text = .ok tokens := by
  unfold tokensOf
  rw [h]
  cases tokens with
  | nil => exact absurd rfl hne
  | cons => rfl

end TypeReader

open TypeReader

theorem TypeExpr.tokens_ne_nil (e : TypeExpr) : e.tokens ≠ [] := by
  have hstarts := startsType_tokens e []
  rw [List.append_nil] at hstarts
  intro heq
  rw [heq] at hstarts
  cases hstarts

/-- The first token is a parenthesis or a bracket. -/
theorem FuncExpr.dropFunc_tokens (f : FuncExpr) : f.tokens ≠ [] ∧ dropFunc f.tokens = f.tokens := by
  obtain ⟨typeParams, params, results, variadic⟩ := f
  cases typeParams <;> simp [FuncExpr.tokens, typeParamTokens, dropFunc]

/-- Whatever the text looks like, only its tokens count. -/
theorem TypeExpr.read_of_scan {text : String} {e : TypeExpr} (h : e.WellFormed)
    (hscan : Token.scan text = .ok e.tokens) : TypeExpr.read text = .ok e := by
  have hread := (readsBack _).type h .nil (enough_depthFor e.tokens)
  rw [List.append_nil] at hread
  unfold TypeExpr.read
  rw [tokensOf_eq_ok hscan e.tokens_ne_nil]
  exact complete_eq_ok_iff.2 hread

theorem TypeExpr.read_render {e : TypeExpr} (h : e.WellFormed) :
    TypeExpr.read e.render = .ok e := TypeExpr.read_of_scan h (TypeExpr.scan_render h)

theorem TypeExpr.read_name {n : String} (h : IsTypeName n) : TypeExpr.read n = .ok (.name n []) := by
  have hread := TypeExpr.read_render (e := .name n []) (.name h (List.forall_mem_nil _))
  rwa [show TypeExpr.render (.name n []) = n by simp [TypeExpr.render, TypeExpr.chars]] at hread

theorem FuncExpr.read_render {f : FuncExpr} (h : f.WellFormed) :
    FuncExpr.read f.render = .ok f := by
  obtain ⟨hne, hdrop⟩ := f.dropFunc_tokens
  have hread := (readsBack _).func h .nil (enough_depthFor f.tokens)
  rw [List.append_nil] at hread
  unfold FuncExpr.read
  rw [tokensOf_eq_ok (FuncExpr.scan_render h) hne]
  dsimp only
  rw [hdrop]
  exact complete_eq_ok_iff.2 hread

theorem TypeExpr.wellFormed_iff {e : TypeExpr} :
    e.WellFormed ↔ TypeExpr.read e.render = .ok e :=
  ⟨TypeExpr.read_render, TypeExpr.wellFormed_of_read⟩

theorem FuncExpr.wellFormed_iff {f : FuncExpr} :
    f.WellFormed ↔ FuncExpr.read f.render = .ok f :=
  ⟨FuncExpr.read_render, FuncExpr.wellFormed_of_read⟩

instance (e : TypeExpr) : Decidable e.WellFormed :=
  decidable_of_iff (TypeExpr.read e.render = .ok e) TypeExpr.wellFormed_iff.symm

instance (f : FuncExpr) : Decidable f.WellFormed :=
  decidable_of_iff (FuncExpr.read f.render = .ok f) FuncExpr.wellFormed_iff.symm

/-- Reading and writing are inverse to each other: what is read is well formed, and what is well
formed reads back from its written form. -/
theorem TypeExpr.read_inverse_render :
    (∀ (text : String) (e : TypeExpr), TypeExpr.read text = .ok e → e.WellFormed) ∧
    (∀ e : TypeExpr, e.WellFormed → TypeExpr.read e.render = .ok e) ∧
    (∀ (text : String) (f : FuncExpr), FuncExpr.read text = .ok f → f.WellFormed) ∧
    (∀ f : FuncExpr, f.WellFormed → FuncExpr.read f.render = .ok f) :=
  ⟨fun _ _ => TypeExpr.wellFormed_of_read, fun _ => TypeExpr.read_render,
    fun _ _ => FuncExpr.wellFormed_of_read, fun _ => FuncExpr.read_render⟩

/-- A variadic function with named parameters and unnamed results. -/
def countAll : FuncExpr where
  typeParams := ["T"]
  params := [⟨some "items", .slice (.name "T" [])⟩, ⟨some "limits", .slice (.name "int" [])⟩]
  results := [⟨none, .name "int" []⟩, ⟨none, .name "error" []⟩]
  variadic := true

theorem TypeExpr.read_inverse_render_countAll :
    TypeExpr.read "func[T any](items []T, limits ...int) (int, error)" = .ok (.func countAll) ∧
    TypeExpr.WellFormed (.func countAll) ∧
    FuncExpr.read "[T any](items []T, limits ...int) (int, error)" = .ok countAll ∧
    countAll.WellFormed := by
  have hname : ∀ n ∈ ["T", "int", "error"], TypeExpr.WellFormed (.name n []) := fun n hn =>
    .name ((by decide : ∀ n ∈ ["T", "int", "error"], IsTypeName n) n hn) nofun
  have hitems : IsTypeName "items" := by decide
  have hlimits : IsTypeName "limits" := by decide
  have hparams : ∀ p ∈ countAll.params, p.WellFormed := by
    refine List.forall_mem_cons.2 ⟨?_, List.forall_mem_singleton.2 ?_⟩
    · exact .mk (fun n hn => Option.some.inj hn ▸ hitems) (.slice (hname "T" (by decide)))
    · exact .mk (fun n hn => Option.some.inj hn ▸ hlimits) (.slice (hname "int" (by decide)))
  have hresults : ∀ r ∈ countAll.results, r.WellFormed := by
    refine List.forall_mem_cons.2 ⟨?_, List.forall_mem_singleton.2 ?_⟩
    · exact .mk nofun (hname "int" (by decide))
    · exact .mk nofun (hname "error" (by decide))
  have hwf : countAll.WellFormed :=
    .mk (by decide) hparams (.inl (by decide)) hresults (.inr (by decide))
      fun _ => ⟨some "limits", .name "int" [], rfl⟩
  have hrender : countAll.render = "[T any](items []T, limits ...int) (int, error)" := by decide
  have hrender' : (TypeExpr.func countAll).render =
      "func[T any](items []T, limits ...int) (int, error)" := by decide
  obtain ⟨hsound, hback, hsound', hback'⟩ := TypeExpr.read_inverse_render
  have hread := hback (.func countAll) (.func hwf)
  have hread' := hback' countAll hwf
  rw [hrender'] at hread
  rw [hrender] at hread'
  exact ⟨hread, hsound _ _ hread, hread', hsound' _ _ hread'⟩

end ScriptBind
