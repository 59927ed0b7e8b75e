import MemBridge.Mapper.Direct

/-!
The mapper registry of a context.

A context remembers the mappers built for a pair of contexts and a cache policy without
holding them: an entry counts only while its mapper lives, and dead entries are swept out
whenever an entry is added. Registering a mapper for a key that already has a live one hands
back the live one instead.

`Context.getMapper` is how a context answers for a pair: a live registered mapper first, else
the identity when both ends are one context, else a route its backend builds, provided one of
the ends has its memory kind. What it builds it registers.
-/

namespace MemBridge

namespace Context

open Act

/-- The live mapper registered under a key; the caller owns the returned reference. -/
def registeredMapper (r : Ref) (key : MapperKey) : Act (Option Ref) := do
  match (← context r).registry.lookup key with
  | some m =>
    if ← alive m then
      retain m
      return some m
    else return none
  | none => return none

/-- Adds an entry, sweeping out the dead ones; an entry of the same key is replaced. -/
def insertMapper (r : Ref) (key : MapperKey) (m : Ref) : Act Unit := do
  let c ← context r
  let mut live := []
  for e in c.registry do
    if ← alive e.2 then live := live ++ [e]
  let kept := live.filter (·.1 != key)
  modifyContext r fun c => { c with registry := kept ++ [(key, m)] }

/-- Registers a mapper the caller hands over, unless a live one is registered under the key;
returns the registered mapper, owned by the caller. -/
def register (r : Ref) (key : MapperKey) (m : Ref) : Act Ref := do
  match ← registeredMapper r key with
  | some existing =>
    release m
    return existing
  | none =>
    insertMapper r key m
    return m

def attachMapper (r : Ref) (m : Ref) : Act Unit := do
  let key : MapperKey := ⟨← Mapper.input m, ← Mapper.output m, none⟩
  insertMapper r key m

def registeredCount (r : Ref) : Act Nat := do
  let mut n := 0
  for e in (← context r).registry do
    if ← alive e.2 then n := n + 1
  return n

/-- The direct mapper a context offers from `input` to `output`, registered or newly built;
the caller owns the returned reference. -/
def getMapper (r input output : Ref) : Act (Option Ref) := do
  let key : MapperKey := ⟨input, output, none⟩
  if let some m ← registeredMapper r key then return some m
  let m ← if input = output then Mapper.makeIdentity input
    else
      let own ← kindOf r
      let ik ← kindOf input
      let ok ← kindOf output
      if ik ≠ own && ok ≠ own then return none
      match (← context r).backend.routeFor ik ok with
      | some route => Mapper.makeDirect route input output
      | none => return none
  some <$> register r key m

end Context

end MemBridge
