/-!
Texts with references to objects.

An answer names process-dependent things (host addresses, objects, contexts, devices) through
`Atom`s; a `Piece` list is a text in which such atoms stand between plain parts. The labeller
of `MemBridge.Report.Doc` turns each atom into a stable label such as `P1+0` or `T2`.
-/

namespace MemBridge

/-- A host address: a byte offset inside a host block. Blocks are page aligned and never
share a page, so the page of an address is its block and `offset / 4096`. -/
structure Addr where
  block : Nat
  offset : Nat
  deriving DecidableEq, Repr, Inhabited

namespace Addr

def advance (a : Addr) (delta : Nat) : Addr :=
  { a with offset := a.offset + delta }

@[simp] theorem advance_block (a : Addr) (d : Nat) : (a.advance d).block = a.block := rfl

@[simp] theorem advance_offset (a : Addr) (d : Nat) : (a.advance d).offset = a.offset + d := rfl

theorem advance_advance (a : Addr) (d e : Nat) : (a.advance d).advance e = a.advance (d + e) := by
  simp [advance, Nat.add_assoc]

end Addr

/-- Something an answer refers to whose raw value depends on the process. -/
inductive Atom where
  /-- A host address, written as its page label and the offset within the page. -/
  | pointer (a : Addr)
  /-- A tensor object. -/
  | tensor (id : Nat)
  /-- A frame object. -/
  | frame (id : Nat)
  /-- A mapper object. -/
  | mapper (id : Nat)
  /-- A context, by its serial number. -/
  | context (serial : Nat)
  /-- A device, by its serial number. -/
  | device (serial : Nat)
  /-- An inference-runtime tensor handle. -/
  | ovTensor (value : Int)
  deriving DecidableEq, Repr, Inhabited

/-- A part of a text: plain characters or a reference. -/
inductive Piece where
  | text (s : String)
  | atom (a : Atom)
  deriving DecidableEq, Repr, Inhabited

def Piece.plain (s : String) : List Piece := [.text s]

end MemBridge
