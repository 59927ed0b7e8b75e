/-!
Quoted texts in messages.

`Text.quoted` writes a text between double quotes. Quotes and backslashes are escaped, line
feed, carriage return, tab and NUL have short escapes, and every other character that does not
print on its own (controls, format characters, separators other than the space, private use
characters and combining marks) is written `\u{hex}` with lowercase digits.
-/

namespace MemBridge

namespace Text

/-- Ranges of characters that do not print on their own: controls, format characters,
separators other than the space, private use characters and combining marks. -/
def silentRanges : List (Nat × Nat) :=
  [(0x00, 0x1F), (0x7F, 0xA0), (0xAD, 0xAD), (0x300, 0x36F), (0x483, 0x489),
    (0x600, 0x605), (0x61C, 0x61C), (0x6DD, 0x6DD), (0x70F, 0x70F), (0x1680, 0x1680),
    (0x180E, 0x180E), (0x1AB0, 0x1AFF), (0x1DC0, 0x1DFF), (0x2000, 0x200F), (0x2028, 0x202F),
    (0x205F, 0x2064), (0x2066, 0x206F), (0x20D0, 0x20FF), (0x3000, 0x3000), (0xE000, 0xF8FF),
    (0xFE00, 0xFE0F), (0xFE20, 0xFE2F), (0xFEFF, 0xFEFF), (0xFFF9, 0xFFFB),
    (0xE0000, 0xE0FFF), (0xF0000, 0x10FFFF)]

def prints (c : Char) : Bool :=
  !(silentRanges.any fun r => r.1 ≤ c.toNat && c.toNat ≤ r.2)

def hexLower (n : Nat) : String := String.ofList (Nat.toDigits 16 n)

/-- A character as it stands in a quoted text. -/
def quotedChar (c : Char) : String :=
  match c with
  | '"' => "\\\""
  | '\\' => "\\\\"
  | '\n' => "\\n"
  | '\r' => "\\r"
  | '\t' => "\\t"
  | '\x00' => "\\0"
  | c => if prints c then String.singleton c else "\\u\x7b" ++ hexLower c.toNat ++ "\x7d"

def quoted (s : String) : String :=
  "\"" ++ String.join (s.toList.map quotedChar) ++ "\""

end Text

end MemBridge
