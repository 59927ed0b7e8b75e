import MemBridge.Mapper.Run
import MemBridge.Context.Registry

/-!
Composing mappers and finding one for a list of contexts.

`Mapper.makeChain` checks that each link reads from the context the previous link writes to,
and names the chain after the memory kinds it passes through. `Mapper.makeCache` puts a
cache of a policy in front of a mapper.

`Mapper.resolve` bridges the first context of a list to the last one. A live mapper already
registered for the two ends and the cache policy is reused. Otherwise each hop between
neighbouring contexts is asked of the hop's input context first and of its output context
second; the hops are chained when there are several, put behind a cache when a policy is
given, and the result is registered in both end contexts. Registering hands back a live
mapper already registered under the same key, which is how a hop of the chain itself can be
the answer.

`Mapper.tensorTo` and `Mapper.frameTo` map into a context directly from the context of the
tensor (of tensor 0 of the frame), asking the target context for a mapper first.
-/

namespace MemBridge

namespace Mapper

open Act

def contextPieces (c : Ref) : Act (List Piece) := do
  let x ← context c
  return [.text s!"{x.backend.kind.name} context #", .atom (.context x.serial)]

/-- A chain of mappers that the caller hands over; the caller owns the new reference. -/
def makeChain (links : List Ref) : Act Ref := do
  let first ← match links with
    | l :: _ => pure l
    | [] => throw (.chainBroken 0 [.text "chain has no mappers"])
  for ((a, b), index) in (links.zip links.tail).zipIdx do
    let out ← output a
    let next ← input b
    if out ≠ next then
      let detail := [.text s!"{← nameOf a} outputs to "] ++ (← contextPieces out) ++
        [.text s!" but {← nameOf b} reads from "] ++ (← contextPieces next)
      releaseAll links
      throw (.chainBroken (index + 1) detail)
  let mut name := s!"chain({(← Context.kindOf (← input first)).name}"
  for l in links do
    name := name ++ " -> " ++ (← Context.kindOf (← output l)).name
  create (.mapper (.chain links (name ++ ")")))

def makeCache (inner : Ref) (policy : PoolPolicy) : Act Ref := do
  let name := s!"cache({← nameOf inner})"
  create (.mapper (.cache { inner, policy, name }))

/-- The mapper of one hop, asked of its input context and then of its output context. -/
def hop (i o : Ref) : Act Ref := do
  match ← Context.getMapper i i o with
  | some m => return m
  | none =>
    match ← Context.getMapper o i o with
    | some m => return m
    | none => throw (.noMapper (← Context.kindOf i) (← Context.kindOf o))

/-- The mapper of the hops between neighbouring contexts of a list: the one hop, or the chain of
them; the caller owns it. -/
def bridge (contexts : List Ref) : Act Ref := do
  let hops ← collect (contexts.zip contexts.tail) fun (i, o) => hop i o
  match hops with
  | [h] => pure h
  | _ => makeChain hops

/-- Registers a mapper the caller hands over in both end contexts; returns the registered
mapper, owned by the caller. -/
def registerEnds (first last : Ref) (key : MapperKey) (m : Ref) : Act Ref := do
  let m ← Context.register first key m
  retain m
  release (← Context.register last key m)
  return m

/-- The mapper bridging the first context of a list to the last; the caller owns it. -/
def resolve (contexts : List Ref) (cache : Option PoolPolicy) : Act Ref := do
  let (first, last) ← match contexts.head?, contexts.getLast? with
    | some f, some l => if contexts.length ≥ 2 then pure (f, l) else tooFew
    | _, _ => tooFew
  if contexts.length = 2 && first = last then
    match ← Context.getMapper first first last with
    | some m => return m
    | none => throw (.noMapper (← Context.kindOf first) (← Context.kindOf last))
  let key : MapperKey := ⟨first, last, cache⟩
  if let some m ← Context.registeredMapper first key then return m
  let m ← bridge contexts
  let m ← match cache with
    | some p => makeCache m p
    | none => pure m
  registerEnds first last key m
where
  tooFew {α : Type} : Act α :=
    throw (.invalidArgument
      s!"mapper resolution needs at least two contexts, got {contexts.length}")

/-- A direct mapper between two contexts, asked of the output context first. -/
def between (input output : Ref) : Act Ref := do
  match ← Context.getMapper output input output with
  | some m => return m
  | none =>
    match ← Context.getMapper input input output with
    | some m => return m
    | none => throw (.noMapper (← Context.kindOf input) (← Context.kindOf output))

/-- Maps a tensor into a context from its own context; the caller owns the result. -/
def tensorTo (src ctx : Ref) (mode : AccessMode) : Act Ref := do
  let some source ← Tensor.contextOf src
    | throw (.invalidArgument "tensor has no live context to map from")
  retain source
  keeping source do
    if source = ctx then
      retain src
      return src
    let m ← between source ctx
    keeping m (mapTensor m src mode)

/-- Maps a frame into a context from the context of its tensor 0; the caller owns the
result. -/
def frameTo (src ctx : Ref) (mode : AccessMode) : Act Ref := do
  let some source ← Tensor.contextOf (← Frame.tensorAt src 0)
    | throw (.invalidArgument "frame has no live context to map from")
  retain source
  keeping source do
    if source = ctx then
      retain src
      return src
    let m ← between source ctx
    keeping m (mapFrame m src mode)

end Mapper

end MemBridge
