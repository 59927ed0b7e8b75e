/-!
JSON values as read.

Numbers keep the class the reader gave them: a literal without fraction or exponent is a
natural number when it is at most `2^64 - 1` and a negative integer when it is at least
`-2^63`; every other number is a binary64 float. Objects keep their members in text order; a
member looked up by name is its last occurrence.
-/

namespace MemBridge

namespace Json

/-- A JSON value. -/
inductive Value where
  | null
  | bool (b : Bool)
  /-- A non-negative integer literal that fits an unsigned word. -/
  | nat (n : Nat)
  /-- A negative integer literal that fits a signed word. -/
  | neg (i : Int)
  | float (x : Float)
  | str (s : String)
  | arr (items : List Value)
  | obj (members : List (String × Value))
  deriving Inhabited

namespace Value

def field? (v : Value) (key : String) : Option Value :=
  match v with
  | .obj ms => (ms.reverse.find? (fun m => m.1 == key)).map (·.2)
  | _ => none

def members : Value → List (String × Value)
  | .obj ms => ms
  | _ => []

def isNull : Value → Bool
  | .null => true
  | _ => false

end Value

end Json

end MemBridge
