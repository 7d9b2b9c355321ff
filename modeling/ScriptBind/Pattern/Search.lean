import ScriptBind.Pattern.Basic

/-!
# ScriptBind.Pattern.Search

Whether a text has a part that matches a pattern. The search keeps the set of all places that the
pattern can have reached, so it needs no way back.

* `Pattern.reach` - the places where a match ends that starts at one of the given places.
* `Pattern.occursIn` - whether there is a match anywhere.
-/

namespace ScriptBind
namespace Pattern

/-- A set of places in a text of `n` characters: `n + 1` marks, from the start to the end. -/
abbrev Marks := List Bool

def both (a b : Marks) : Marks := List.zipWith (· || ·) a b

/-- The marks of the places of a kind, after the character `before`. -/
def placesOf (place : Look) (before : Option Char) : List Char → Marks
  | [] => [place.holds before none]
  | c :: rest => place.holds before (some c) :: placesOf place (some c) rest

/-- Do a step some times, or until it changes nothing. -/
def settle (step : Marks → Marks) : Nat → Marks → Marks
  | 0, marks => marks
  | n + 1, marks =>
    let next := step marks
    if next = marks then marks else settle step n next

/-- A repetition without bound reaches no more places after as many rounds as there are places. -/
def reach (text : List Char) : Pattern → Marks → Marks
  | .empty, marks => marks
  | .char set, marks => false :: List.zipWith (fun c mark => mark && set.has c) text marks
  | .look place, marks => List.zipWith (· && ·) (placesOf place none text) marks
  | .append p q, marks => q.reach text (p.reach text marks)
  | .either p q, marks => both (p.reach text marks) (q.reach text marks)
  | .repeated p least most, marks =>
    settle (fun found => both found (p.reach text found))
      ((most.map (· - least)).getD (text.length + 1))
      (settle (fun found => p.reach text found) least marks)

def occursIn (p : Pattern) (text : String) : Bool :=
  (p.reach text.toList (List.replicate (text.length + 1) true)).any id

end Pattern
end ScriptBind
