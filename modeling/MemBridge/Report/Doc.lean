import MemBridge.Fault
import MemBridge.Decimal.Text

/-!
Answers as documents.

A `Doc` is a JSON document whose strings may hold references (`Atom`s). Objects are built with
`Doc.record`, which orders the members by name, so the document is printed in the order it is
stored. `Doc.render` prints a document and names each reference at the same time: references
of one kind are numbered in the order they first appear in the printed text, so the same
object always gets the same label within one answer (`P3+16`, `T1`, `C2`, …). A host address
is named by its page: two addresses of one page share the page's number and differ in their
offset.

Strings are escaped as JSON requires (quote, backslash and control characters); integers are
written exactly; floats in the data form of `MemBridge.Decimal.Text`, non-finite ones as the
strings `NaN`, `inf` and `-inf`.
-/

namespace MemBridge

/-- A JSON document whose strings may refer to objects. -/
inductive Doc where
  | null
  | bool (b : Bool)
  | int (i : Int)
  | float (x : Float)
  | text (pieces : List Piece)
  | arr (items : List Doc)
  | obj (members : List (String × Doc))
  deriving Inhabited

namespace Doc

def str (s : String) : Doc := .text [.text s]

def atom (a : Atom) : Doc := .text [.atom a]

def nat (n : Nat) : Doc := .int n

def record (members : List (String × Doc)) : Doc :=
  .obj (members.mergeSort (fun a b => a.1 < b.1 || a.1 == b.1))

def nats (ns : List Nat) : Doc := .arr (ns.map Doc.nat)

def opt {α : Type} (f : α → Doc) : Option α → Doc
  | some a => f a
  | none => .null

/-- The document of a fault: its name, text, code and whether it is recoverable. A stop is
written with the name `panic` and its text only. -/
def fault (f : Fault) : Doc :=
  match f with
  | .halt m => record [("error", str "panic"), ("message", str m)]
  | f => record [("code", nat f.code), ("error", str f.name), ("message", .text f.message),
      ("recoverable", .bool f.recoverable)]

def ofExcept {α : Type} (f : α → Doc) : Except Fault α → Doc
  | .ok a => f a
  | .error e => fault e

end Doc

/-- The references named so far in an answer, per kind, in order of first appearance. -/
structure Labels where
  pages : List (Nat × Nat) := []
  tensors : List Nat := []
  frames : List Nat := []
  mappers : List Nat := []
  contexts : List Nat := []
  devices : List Nat := []
  runtime : List Int := []

namespace Labels

def number {α : Type} [BEq α] (seen : List α) (key : α) : Nat × List α :=
  match seen.idxOf? key with
  | some i => (i + 1, seen)
  | none => (seen.length + 1, seen ++ [key])

def pageSize : Nat := 4096

/-- The label of a reference, numbering it if new. -/
def name (a : Atom) : StateM Labels String := do
  let l ← get
  match a with
  | .pointer addr =>
    let (n, pages) := number l.pages (addr.block, addr.offset / pageSize)
    set { l with pages }
    return s!"P{n}+{addr.offset % pageSize}"
  | .tensor id =>
    let (n, tensors) := number l.tensors id
    set { l with tensors }
    return s!"T{n}"
  | .frame id =>
    let (n, frames) := number l.frames id
    set { l with frames }
    return s!"F{n}"
  | .mapper id =>
    let (n, mappers) := number l.mappers id
    set { l with mappers }
    return s!"M{n}"
  | .context id =>
    let (n, contexts) := number l.contexts id
    set { l with contexts }
    return s!"C{n}"
  | .device id =>
    let (n, devices) := number l.devices id
    set { l with devices }
    return s!"D{n}"
  | .ovTensor v =>
    let (n, runtime) := number l.runtime v
    set { l with runtime }
    return s!"OV{n}"

end Labels

namespace Doc

def hexDigit (n : Nat) : Char :=
  if n < 10 then Char.ofNat (48 + n) else Char.ofNat (87 + n)

/-- A character as it stands inside a JSON string. -/
def escapeChar (c : Char) : String :=
  match c with
  | '"' => "\\\""
  | '\\' => "\\\\"
  | '\n' => "\\n"
  | '\r' => "\\r"
  | '\t' => "\\t"
  | '\x08' => "\\b"
  | '\x0c' => "\\f"
  | c =>
    if c.toNat < 32 then
      "\\u00" ++ String.singleton (hexDigit (c.toNat / 16)) ++
        String.singleton (hexDigit (c.toNat % 16))
    else String.singleton c

def quote (s : String) : String :=
  "\"" ++ String.join (s.toList.map escapeChar) ++ "\""

def piecesText (ps : List Piece) : StateM Labels String :=
  ps.foldlM (fun acc p => match p with
    | .text s => pure (acc ++ s)
    | .atom a => do return acc ++ (← Labels.name a)) ""

def intText (i : Int) : String :=
  if i < 0 then "-" ++ Text.natText i.natAbs else Text.natText i.toNat

def floatText (x : Float) : String :=
  if x.isNaN || x.isInf then quote (Binary.dataText x) else Binary.dataText x

mutual

/-- Prints a document, naming references in the order they are printed. -/
def render : Doc → StateM Labels String
  | .null => pure "null"
  | .bool b => pure (if b then "true" else "false")
  | .int i => pure (intText i)
  | .float x => pure (floatText x)
  | .text ps => do return quote (← piecesText ps)
  | .arr items => do return "[" ++ ",".intercalate (← renderItems items) ++ "]"
  | .obj members => do return "\x7b" ++ ",".intercalate (← renderMembers members) ++ "\x7d"

def renderItems : List Doc → StateM Labels (List String)
  | [] => pure []
  | d :: rest => do
    let t ← render d
    return t :: (← renderItems rest)

def renderMembers : List (String × Doc) → StateM Labels (List String)
  | [] => pure []
  | (k, d) :: rest => do
    let t ← render d
    return (quote k ++ ":" ++ t) :: (← renderMembers rest)

end

def print (d : Doc) : String :=
  ((render d).run {}).1

end Doc

end MemBridge
