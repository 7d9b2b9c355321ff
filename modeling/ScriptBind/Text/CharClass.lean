/-!
# ScriptBind.Text.CharClass

Sets of code points as ascending lists of arithmetic progressions, the form in which the tables of
Unicode properties are kept.

* `CharClass.has` - membership.
* `CharClass.Ascending` - the order that lets a search stop early.
-/

namespace ScriptBind
namespace Text

/-- Progressions `(first, last, step)`. -/
abbrev CharClass := List (Nat × Nat × Nat)

namespace CharClass

/-- The progressions ascend, so nothing after one that starts beyond `n` can hold `n`. -/
def has : CharClass → Nat → Bool
  | [], _ => false
  | (lo, hi, step) :: rest, n =>
    if n < lo then false
    else if n ≤ hi ∧ (n - lo) % step = 0 then true
    else has rest n

/-- Each progression ends before the next one starts. -/
def Ascending : CharClass → Prop
  | [] => True
  | [(lo, hi, _)] => lo ≤ hi
  | (lo, hi, _) :: (lo', hi', step') :: rest =>
    lo ≤ hi ∧ hi < lo' ∧ Ascending ((lo', hi', step') :: rest)

end CharClass

end Text
end ScriptBind
