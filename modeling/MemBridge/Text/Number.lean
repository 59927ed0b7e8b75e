import MemBridge.Word

/-!
Decimal text of words.

`readWord` reads an unsigned word: an optional `+` followed by at least one ASCII digit, with a
value below `2^64`. `listText` writes a list of numbers in brackets, separated by a comma and a
space, which is how shapes are quoted in messages.
-/

namespace MemBridge

namespace Text

def digitsValue (cs : List Char) : Option Nat :=
  match cs with
  | [] => none
  | _ =>
    cs.foldlM (fun acc c => if c.isDigit then some (acc * 10 + (c.toNat - '0'.toNat)) else none) 0

/-- Reads an unsigned word: an optional plus sign, then digits, below `2^64`. -/
def readWord (s : String) : Option Nat :=
  let cs := match s.toList with
    | '+' :: rest => rest
    | cs => cs
  match digitsValue cs with
  | some n => if n < Word.bound then some n else none
  | none => none

def natText (n : Nat) : String :=
  String.ofList (Nat.toDigits 10 n)

def listText (xs : List Nat) : String :=
  "[" ++ ", ".intercalate (xs.map natText) ++ "]"

def colonText (xs : List Nat) : String :=
  ":".intercalate (xs.map natText)

end Text

end MemBridge
