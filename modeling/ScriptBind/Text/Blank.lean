import ScriptBind.Text.CharClass

/-!
# ScriptBind.Text.Blank

White space, by the Unicode property `White_Space`. `isBlank` decides it.
-/

namespace ScriptBind
namespace Text

/-- All code points with the property `White_Space`. -/
def blanks : CharClass :=
  [(0x9, 0xd, 1), (0x20, 0x20, 1), (0x85, 0x85, 1), (0xa0, 0xa0, 1), (0x1680, 0x1680, 1),
   (0x2000, 0x200a, 1), (0x2028, 0x2029, 1), (0x202f, 0x202f, 1), (0x205f, 0x205f, 1),
   (0x3000, 0x3000, 1)]

/-- White space of any script. -/
def isBlank (c : Char) : Bool := blanks.has c.toNat

end Text
end ScriptBind
