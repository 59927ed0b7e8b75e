import MemBridge.Mapper.Resolve
import MemBridge.Context.Allocate
import MemBridge.Frame.Description
import MemBridge.Report.Doc

/-!
Descriptions of live objects.

A tensor is described by its layout, handles, offset, host address, parent and context (only
while that context lives); a frame by its media type, format, tensors, metadata names,
parent and live regions; a context by its handles, its primary handle, its parent and the
number of live mappers it has registered; a mapper by its name and its two contexts, with the
links of a chain or the policy and inner mapper of a cache.

Objects appear as references: a host address in a tensor's `data` or `usm_ptr` handle by its
page, a runtime tensor number by its own label, a device number in a context's `device`
handle by the device.
-/

namespace MemBridge

namespace Console

open Act

def handleDoc (key : String) : Handle → Doc
  | .addr a => Doc.atom (.pointer a)
  | .num v => if key == Key.runtimeTensor then Doc.atom (.ovTensor v) else .int v

/-- The description of a tensor. -/
def tensorDoc (r : Ref) : Act Doc := do
  let t ← tensor r
  let ctx ← Tensor.contextOf r
  let ctxDoc ← match ctx with
    | some c => pure (Doc.atom (.context (← context c).serial))
    | none => pure .null
  let l := t.layout
  return Doc.record [("id", Doc.atom (.tensor r)), ("memory_type", Doc.str t.kind.name),
    ("info", Doc.str l.text), ("shape", Doc.nats l.shape), ("stride", Doc.nats l.stride),
    ("dtype", Doc.str l.elem.name), ("primary", Doc.str t.primary),
    ("handles", .obj (t.handles.map fun (k, h) => (k, handleDoc k h))),
    ("offset", Doc.nat t.offset), ("nbytes", Doc.nat l.nbytes), ("span", Doc.nat l.span),
    ("contiguous", .bool l.isContiguous),
    ("data", Doc.opt (fun a => Doc.atom (.pointer a)) t.host),
    ("parent", Doc.opt (fun p => Doc.atom (.tensor p)) t.parent), ("ctx", ctxDoc)]

/-- The description of a frame. -/
def frameDoc (r : Ref) : Act Doc := do
  let f ← frame r
  let regions ← Frame.regionsOf r
  let mut tensors := []
  for t in f.tensors do
    tensors := tensors ++ [← tensorDoc t]
  return Doc.record [("id", Doc.atom (.frame r)), ("media", Doc.str f.media.name),
    ("format", Doc.nat f.format),
    ("format_name",
      Doc.opt (fun (x : ImageFormat) => Doc.str x.name) (ImageFormat.ofCode? f.format)),
    ("memory_type", Doc.str f.kind.name), ("tensors", .arr tensors),
    ("metadata", .arr (f.metadata.map fun d => Doc.str d.name)),
    ("parent", Doc.opt (fun p => Doc.atom (.frame p)) f.parent),
    ("regions", .arr (regions.map fun g => Doc.atom (.frame g)))]

/-- A context handle in a description: the device as the device, anything else as a
number. -/
def contextHandleDoc (key : String) (v : Int) : Doc :=
  if key == Key.device then Doc.atom (.device v.toNat) else .int v

/-- The description of a context. -/
def contextDoc (r : Ref) : Act Doc := do
  let c ← context r
  let keys ← Context.keysOf r
  let mut handles := []
  for k in keys do
    handles := handles ++ [(k, contextHandleDoc k (← Context.handleOf r k))]
  let primary ← match ← attempt (Context.handleOf r "") with
    | .ok v =>
      let mut shown := Doc.int v
      for k in keys do
        if (← Context.handleOf r k) = v then
          shown := contextHandleDoc k v
          break
      pure shown
    | .error e => pure (Doc.fault e)
  let parent ← match c.parent with
    | some p => pure (Doc.atom (.context (← context p).serial))
    | none => pure .null
  return Doc.record [("id", Doc.atom (.context c.serial)),
    ("memory_type", Doc.str c.backend.kind.name), ("keys", .arr (keys.map Doc.str)),
    ("handles", .obj handles), ("primary", primary), ("parent", parent),
    ("registered", Doc.nat (← Context.registeredCount r))]

def contextAtom (r : Ref) : Act Doc := do
  return Doc.atom (.context (← context r).serial)

def mapperMembers (r : Ref) : Act (List (String × Doc)) := do
  return [("id", Doc.atom (.mapper r)), ("name", Doc.str (← Mapper.nameOf r)),
    ("input", ← contextAtom (← Mapper.input r)),
    ("output", ← contextAtom (← Mapper.output r))]

def mapperDoc (r : Ref) : Act Doc := do
  return Doc.record (← mapperMembers r)

/-- The description of a chain: a mapper with its links. -/
def chainDoc (r : Ref) : Act Doc := do
  let links ← match ← mapper r with
    | .chain links _ => pure links
    | _ => pure []
  return Doc.record ((← mapperMembers r) ++ [("len", Doc.nat links.length),
    ("is_empty", .bool links.isEmpty), ("links", .arr (links.map fun l => Doc.atom (.mapper l)))])

def cacheDoc (r : Ref) : Act Doc := do
  let c ← Mapper.cacheOf r
  return Doc.record ((← mapperMembers r) ++ [("policy", Doc.str c.policy.name),
    ("inner", Doc.atom (.mapper c.inner))])

def poolDoc (r : Ref) : Act Doc := do
  let p ← framePool r
  return Doc.record [("format", Doc.str p.format.name), ("capacity", Doc.nat p.frames.length),
    ("available", Doc.nat (← FramePool.available r)), ("memory_type", Doc.str p.kind.name)]

end Console

end MemBridge
