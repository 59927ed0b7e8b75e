import MemBridge.Console.Describe
import MemBridge.Console.Metadata
import MemBridge.Console.Decode

/-!
The state of a script.

A script names the objects it makes. A name is bound to one object, seen as what the step
that made it made: a device, a context, a mapper (a chain and a cache are mappers that show
their parts), a tensor, a frame or a frame pool. Each name holds one strong reference, given
back when the name is dropped or bound again. Host tensors made out of any context come from
one allocator that lives as long as the script.

A step runs in `Step`: it may refuse its request as malformed (a `Refusal`), or fail in the
library (a `Fault`); either way what it did to the world until then stays done. A step that
makes an object hands it over in its `Outcome`.
-/

namespace MemBridge

namespace Console

open Json

/-- What a script name is bound to. -/
inductive Binding where
  | device (r : Ref)
  | context (r : Ref)
  | mapper (r : Ref)
  | chain (r : Ref)
  | cache (r : Ref)
  | tensor (r : Ref)
  | frame (r : Ref)
  | pool (r : Ref)
  deriving Inhabited

def Binding.ref : Binding → Ref
  | .device r | .context r | .mapper r | .chain r | .cache r | .tensor r | .frame r
  | .pool r => r

/-- The state of a script: the world, the names and the allocator of host tensors. -/
structure Session where
  world : World
  vars : List (String × Binding) := []
  hostAllocator : Nat

abbrev Step := ExceptT Refusal Act

/-- The answer of a step and the object it made, if any. -/
structure Outcome where
  doc : Doc
  made : Option Binding := none

def decode {α : Type} (x : Decode α) : Step α := ExceptT.mk (pure x)

def act {α : Type} (x : Act α) : Step α := ExceptT.lift x

def checked {α : Type} (x : Except Fault α) : Step α := act (Act.lift x)

def failWith {α : Type} (f : Fault) : Step α := throwThe Fault f

def var (s : Session) (req : Value) (field : String) : Decode Binding := do
  let name ← getString req field
  match s.vars.lookup name with
  | some b => .ok b
  | none => refuse s!"unknown variable '{name}'"

/-- The bindings of the names listed in a field. -/
def vars (s : Session) (req : Value) (field : String) : Decode (List Binding) := do
  let names ← (← getArray req field).mapM (asString field)
  names.mapM fun name =>
    match s.vars.lookup name with
    | some b => .ok b
    | none => refuse s!"unknown variable '{name}'"

def notA {α : Type} (field what : String) : Decode α := refuse s!"'{field}' is not a {what}"

def asDevice (field : String) : Binding → Decode Ref
  | .device r => .ok r
  | _ => notA field "device"

def asContext (field : String) : Binding → Decode Ref
  | .context r => .ok r
  | _ => notA field "context"

def asMapper (field : String) : Binding → Decode Ref
  | .mapper r | .chain r | .cache r => .ok r
  | _ => notA field "mapper"

def asCache (field : String) : Binding → Decode Ref
  | .cache r => .ok r
  | _ => notA field "cache"

def asTensor (field : String) : Binding → Decode Ref
  | .tensor r => .ok r
  | _ => notA field "tensor"

def asFrame (field : String) : Binding → Decode Ref
  | .frame r => .ok r
  | _ => notA field "frame"

def asPool (field : String) : Binding → Decode Ref
  | .pool r => .ok r
  | _ => notA field "pool"

def deviceVar (s : Session) (req : Value) (field : String) : Decode Ref := do
  asDevice field (← var s req field)

def contextVar (s : Session) (req : Value) (field : String) : Decode Ref := do
  asContext field (← var s req field)

def mapperVar (s : Session) (req : Value) (field : String) : Decode Ref := do
  asMapper field (← var s req field)

def cacheVar (s : Session) (req : Value) (field : String) : Decode Ref := do
  asCache field (← var s req field)

def tensorVar (s : Session) (req : Value) (field : String) : Decode Ref := do
  asTensor field (← var s req field)

def frameVar (s : Session) (req : Value) (field : String) : Decode Ref := do
  asFrame field (← var s req field)

def poolVar (s : Session) (req : Value) (field : String) : Decode Ref := do
  asPool field (← var s req field)

/-- The tensor a metadata value names, as the world stands. -/
def tensorLookup (s : Session) (w : World) : TensorLookup := fun name =>
  match s.vars.lookup name with
  | some (.tensor r) =>
    match (Act.tensor r).run w with
    | .ok t _ => .ok ⟨r, t.layout⟩
    | .error _ _ => refuse s!"'{name}' is not a tensor"
  | some _ => refuse s!"'{name}' is not a tensor"
  | none => refuse s!"unknown variable '{name}'"

def lastMembers (ms : List (String × Doc)) : List (String × Doc) :=
  ms.foldr (fun m acc => if acc.any (·.1 == m.1) then acc else m :: acc) []

mutual

/-- A JSON value as a document: members in name order, the last of a repeated name kept. -/
def jsonDoc : Value → Doc
  | .null => .null
  | .bool b => .bool b
  | .nat n => .int n
  | .neg i => .int i
  | .float x => .float x
  | .str s => Doc.str s
  | .arr xs => .arr (jsonItems xs)
  | .obj ms => Doc.record (lastMembers (jsonMembers ms))

def jsonItems : List Value → List Doc
  | [] => []
  | x :: xs => jsonDoc x :: jsonItems xs

def jsonMembers : List (String × Value) → List (String × Doc)
  | [] => []
  | (k, x) :: ms => (k, jsonDoc x) :: jsonMembers ms

end

end Console

end MemBridge
