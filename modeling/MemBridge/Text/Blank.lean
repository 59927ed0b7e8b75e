/-!
Blank characters, trimming and cutting.

A character is blank when it has the Unicode `White_Space` property; `trimBlank` drops blanks
from both ends of a text. The table is the full property list of the Unicode standard, so it
contains every character that core's `Char.isWhitespace` accepts (`isBlank_of_isWhitespace`).
`pieces` cuts a text at every occurrence of a separator character.
-/

namespace MemBridge

namespace Text

def isBlank (c : Char) : Bool :=
  let n := c.toNat
  (0x09 ≤ n && n ≤ 0x0D) || n == 0x20 || n == 0x85 || n == 0xA0 || n == 0x1680 ||
    (0x2000 ≤ n && n ≤ 0x200A) || n == 0x2028 || n == 0x2029 || n == 0x202F ||
    n == 0x205F || n == 0x3000

def dropBlank (cs : List Char) : List Char :=
  cs.dropWhile isBlank

def trimBlank (s : String) : String :=
  String.ofList (dropBlank (dropBlank s.toList).reverse).reverse

/-- The pieces of a text between occurrences of a separator character, in order; a text without
the separator is one piece, and the empty text is one empty piece. -/
def pieces (s : String) (sep : Char) : List String :=
  (s.toList.splitOn sep).map String.ofList

theorem isBlank_of_isWhitespace {c : Char} (h : c.isWhitespace = true) : isBlank c = true := by
  simp only [Char.isWhitespace, Bool.or_eq_true, decide_eq_true_eq] at h
  rcases h with ((h | h) | h) | h <;>
    simp [isBlank, h]

end Text

end MemBridge
