import MemBridge.Console.Setup
import MemBridge.Console.Basic

/-!
Script steps on tensors, frames, metadata and mappings.

Bytes are answered as hexadecimal text up to 512 of them; longer data is answered by its
length, the sum of its byte values and the first and last 32 bytes. A write brings its bytes
as hexadecimal text or as the pattern `(start + k · step) mod modulus` for byte `k`.
-/

namespace MemBridge

namespace Console

open Json Act

/-- The layout a request gives by shape, element type and optional strides. -/
def layoutOf (req : Value) : Step Layout := do
  let shape ← decode (getWords req "shape")
  let elem ← checked (ElementType.parse (← decode (getString req "dtype")))
  match ← decode (getOpt req "stride" asWords) with
  | some stride => checked (Layout.withStride shape stride elem)
  | none => checked (Layout.ofShape shape elem)

def madeTensor (t : Ref) : Step Outcome := do
  return ⟨← tensorDoc t, some (.tensor t)⟩

def madeFrame (f : Ref) : Step Outcome := do
  return ⟨← frameDoc f, some (.frame f)⟩

/-- A host tensor from a host context; a view reaching past its allocation bucket is
refused. -/
def stepAllocHost (s : Session) (req : Value) : Step Outcome := do
  let c ← decode (contextVar s req "ctx")
  let layout ← layoutOf req
  if let Except.ok bucket := bucketFor layout.nbytes then
    if layout.span > bucket then
      decode (refuse s!"span {layout.span} exceeds the allocation of {bucket} bytes")
  madeTensor (← Context.allocateHost c layout)

/-- An image frame in host memory. -/
def stepAllocImage (s : Session) (req : Value) (surfaces : Bool) : Step Outcome := do
  let c ← decode (contextVar s req "ctx")
  let name ← decode (getString req "format")
  let width ← decode (getWord req "width")
  let height ← decode (getWord req "height")
  let fmt ← checked (ImageFormat.parse name)
  if surfaces then madeFrame (← Context.allocateSurfaceFrame c fmt width height)
  else madeFrame (← Context.allocateImage c fmt width height)

/-- A tensor of unified shared memory. -/
def stepAllocShared (s : Session) (req : Value) : Step Outcome := do
  let c ← decode (contextVar s req "ctx")
  let shape ← decode (getWords req "shape")
  let elem ← checked (ElementType.parse (← decode (getString req "dtype")))
  let layout ← checked (Layout.ofShape shape elem)
  madeTensor (← Context.allocateShared c layout)

/-- A tensor over memory of the script's own allocator, of `max nbytes span` bytes. -/
def stepHostTensor (s : Session) (req : Value) : Step Outcome := do
  let layout ← layoutOf req
  let kind ← checked (memoryKind (← decode (getOr req "memory_type" asString "CPU")))
  let ctx ← match opt req "ctx" with
    | some _ => some <$> decode (contextVar s req "ctx")
    | none => pure none
  let buffer ← hostAlloc s.hostAllocator (max layout.nbytes layout.span)
  let link : ContextLink := match ctx with
    | some c => .strong c
    | none => .none
  if let some c := ctx then retain c
  let spec : TensorSpec :=
    { layout, kind, host := some buffer.base, holding := some (.buffer buffer), context := link }
  madeTensor (← spec.build)

/-- A handle a tensor request gives: a number, or a handle of another tensor. -/
def handleEntry (s : Session) (entry : Value) : Step (String × Handle) := do
  match entry with
  | .arr [k, v] =>
    let key ← decode (asString "handles" k)
    match v with
    | .obj _ =>
      let t ← decode (tensorVar s v "of")
      let other ← decode (getString v "key")
      return (key, ← Tensor.handleOf t other)
    | _ => return (key, .num (← decode (asInt "handles" v)))
  | _ => decode (refuse "handles must be [key, value] pairs")

/-- A tensor built from its parts, without host memory. -/
def stepTensor (s : Session) (req : Value) : Step Outcome := do
  let kind ← checked (memoryKind (← decode (getString req "memory_type")))
  let layout ← layoutOf req
  let mut handles := []
  for e in ← decode (getArray req "handles") do
    handles := handles ++ [← handleEntry s e]
  let primary ← decode (getOpt req "primary" asString)
  let offset ← decode (getOr req "offset" asWord 0)
  let strong ← match opt req "ctx" with
    | some _ => some <$> decode (contextVar s req "ctx")
    | none => pure none
  let weak ← match opt req "weak_ctx" with
    | some _ => some <$> decode (contextVar s req "weak_ctx")
    | none => pure none
  let parent ← match opt req "parent" with
    | some _ => some <$> decode (tensorVar s req "parent")
    | none => pure none
  let link : ContextLink := match strong, weak with
    | some c, _ => .strong c
    | none, some c => .weak c
    | none, none => .none
  if let .strong c := link then retain c
  if let some p := parent then retain p
  let spec : TensorSpec := { layout, kind, context := link, primary, offset, parent }
  let spec := handles.foldl (fun sp (k, h) => sp.withHandle k h) spec
  madeTensor (← spec.build)

/-- Describes what a name is bound to. -/
def stepShow (s : Session) (req : Value) : Step Outcome := do
  let doc ← match ← decode (var s req "var") with
    | .device r => pure (Doc.record [("device", Doc.atom (.device (← device r).serial))])
    | .context r => contextDoc r
    | .mapper r => mapperDoc r
    | .chain r => chainDoc r
    | .cache r => cacheDoc r
    | .tensor r => tensorDoc r
    | .frame r => frameDoc r
    | .pool r => poolDoc r
  return ⟨doc, none⟩

/-- A handle of a tensor, or a default. -/
def stepHandle (s : Session) (req : Value) : Step Outcome := do
  let r ← decode (tensorVar s req "tensor")
  let key ← decode (getString req "key")
  let default ← decode (getOpt req "default" asInt)
  let t ← tensor r
  let v ← match default with
    | some d => pure (t.handleOr key (.num d))
    | none => checked (t.handle key)
  return ⟨handleDoc (if key.isEmpty then t.primary else key) v, none⟩

def stepData (s : Session) (req : Value) : Step Outcome := do
  let r ← decode (tensorVar s req "tensor")
  let a ← checked (← tensor r).data
  return ⟨Doc.atom (.pointer a), none⟩

def rangeOf (key : String) (v : Value) : Decode (Nat × Nat) := do
  match ← asWords key v with
  | [a, b] => return (a, b)
  | _ => refuse s!"field '{key}' must be [start, end]"

def stepSlice (s : Session) (req : Value) : Step Outcome := do
  let r ← decode (tensorVar s req "tensor")
  let ranges ← decode do (← getArray req "ranges").mapM (rangeOf "ranges")
  madeTensor (← Tensor.slice r ranges)

def stepSliceRegion (s : Session) (req : Value) : Step Outcome := do
  let r ← decode (tensorVar s req "tensor")
  let y ← decode (rangeOf "y" (← decode (need req "y")))
  let x ← decode (rangeOf "x" (← decode (need req "x")))
  madeTensor (← Tensor.sliceRegion r y x)

/-- The answer to a read: all bytes as hexadecimal up to 512 of them, else a summary. -/
def bytesDoc (bs : ByteArray) : Doc :=
  let xs := bs.toList
  if xs.length ≤ 512 then
    Doc.record [("len", Doc.nat xs.length), ("hex", Doc.str (hexText xs))]
  else
    Doc.record [("len", Doc.nat xs.length),
      ("sum", Doc.nat ((xs.map UInt8.toNat).foldr (· + ·) 0)),
      ("head", Doc.str (hexText (xs.take 32))),
      ("tail", Doc.str (hexText (xs.drop (xs.length - 32))))]

def stepRead (s : Session) (req : Value) : Step Outcome := do
  let r ← decode (tensorVar s req "tensor")
  return ⟨bytesDoc (← Tensor.readBytes r), none⟩

def patternBytes (start step modulus len : Nat) : ByteArray :=
  ByteArray.mk ((List.range len).map fun k => UInt8.ofNat ((start + k * step) % modulus)).toArray

/-- Writes bytes into a tensor. -/
def stepWrite (s : Session) (req : Value) : Step Outcome := do
  let r ← decode (tensorVar s req "tensor")
  let bytes ← match ← decode (getOpt req "hex" asString) with
    | some h => pure (ByteArray.mk (← decode (hexBytes h)).toArray)
    | none => do
      let start ← decode (getOr req "start" asWord 0)
      let step ← decode (getOr req "step" asWord 1)
      let modulus ← decode (getOr req "mod" asWord 256)
      let len ← match ← decode (getOpt req "len" asWord) with
        | some n => pure n
        | none => Tensor.elementBytes (← tensor r)
      if modulus = 0 then
        failWith (.halt "attempt to calculate the remainder with a divisor of zero")
      pure (patternBytes start step modulus len)
  Tensor.writeBytes r bytes
  return ⟨Doc.record [("written", Doc.nat bytes.size)], none⟩

/-- Sets or clears the parent of a tensor. -/
def stepSetParent (s : Session) (req : Value) (clear : Bool) : Step Outcome := do
  let r ← decode (tensorVar s req "tensor")
  let parent ← if clear then pure none else match opt req "parent" with
    | some _ => some <$> decode (tensorVar s req "parent")
    | none => pure none
  if let some p := parent then retain p
  Tensor.setParent r parent
  return ⟨← tensorDoc r, none⟩

/-- A frame over tensors. -/
def stepFrame (s : Session) (req : Value) : Step Outcome := do
  let media ← decode (mediaType (← decode (getString req "media")))
  let format ← checked (← decode (formatField req))
  let tensors ← decode do (← vars s req "tensors").mapM (asTensor "tensors")
  for t in tensors do retain t
  madeFrame (← Frame.make media format tensors)

def stepFrameOfTensor (s : Session) (req : Value) : Step Outcome := do
  let t ← decode (tensorVar s req "tensor")
  retain t
  madeFrame (← Frame.make .tensors 0 [t])

/-- A tensor of a frame, by index or as the only one. -/
def stepFrameTensor (s : Session) (req : Value) : Step Outcome := do
  let f ← decode (frameVar s req "frame")
  let index ← match ← decode (need req "index") with
    | .str "sole" => pure TensorIndex.sole
    | v => TensorIndex.nth <$> decode (asWord "index" v)
  let t ← checked ((← frame f).select index)
  retain t
  madeTensor t

def rectField (req : Value) : Decode Rect := do
  rectOf "rect" (← need req "rect")

def stepRegion (s : Session) (req : Value) : Step Outcome := do
  let f ← decode (frameVar s req "frame")
  let rect ← decode (rectField req)
  madeFrame (← Frame.region f rect)

def stepRegions (s : Session) (req : Value) : Step Outcome := do
  let f ← decode (frameVar s req "frame")
  return ⟨.arr ((← Frame.regionsOf f).map fun g => Doc.atom (.frame g)), none⟩

def stepAddRegion (s : Session) (req : Value) : Step Outcome := do
  let f ← decode (frameVar s req "frame")
  let g ← decode (frameVar s req "region")
  Frame.addRegion f g
  return ⟨← frameDoc f, none⟩

def stepClearRegions (s : Session) (req : Value) : Step Outcome := do
  let f ← decode (frameVar s req "frame")
  Frame.clearRegions f
  return ⟨← frameDoc f, none⟩

/-- Sets or clears the parent of a frame. -/
def stepFrameParent (s : Session) (req : Value) : Step Outcome := do
  let f ← decode (frameVar s req "frame")
  let parent ← match opt req "parent" with
    | some _ => some <$> decode (frameVar s req "parent")
    | none => pure none
  if let some p := parent then retain p
  Frame.setParent f parent
  return ⟨← frameDoc f, none⟩

/-- The description of a frame without its memory. -/
def frameSpecOf (f : Ref) : Act (Except Fault FrameSpec) := do
  let x ← frame f
  let mut kind : Option MemoryKind := none
  let mut layouts := []
  for t in x.tensors do
    let y ← tensor t
    match kind with
    | none => kind := some y.kind
    | some k => if k ≠ y.kind then return .error (.typeMismatch k y.kind)
    layouts := layouts ++ [y.layout]
  return .ok ⟨x.media, kind, x.format, layouts⟩

def stepFrameInfo (s : Session) (req : Value) : Step Outcome := do
  let f ← decode (frameVar s req "frame")
  let spec ← checked (← frameSpecOf f)
  let nbytes ← checked spec.nbytes
  return ⟨Doc.record [("display", Doc.str spec.text), ("nbytes", Doc.nat nbytes)], none⟩

/-- The record a metadata request gives, with `from_tensor` naming the tensor an inference
result describes. -/
def recordField (s : Session) (w : World) (kind : RecordKind) (fields : Value) :
    Step Record := do
  match kind, opt fields "from_tensor" with
  | .inference, some _ =>
    let r ← decode (tensorVar s fields "from_tensor")
    let t ← tensor r
    let modelName ← decode (getOr fields "model_name" asString "")
    let layerName ← decode (getOr fields "layer_name" asString "")
    return .inference ⟨modelName, layerName, "", t.layout.shape, t.layout.elem,
      some ⟨r, t.layout⟩⟩
  | _, _ => checked (← decode (recordOf (tensorLookup s w) kind fields))

def namesDoc (f : Ref) : Act Doc := do
  return .arr ((← Frame.metadataNames f).map Doc.str)

/-- Runs one metadata operation on a frame. -/
def metaOp (s : Session) (f : Ref) (op : Value) : Step Doc := do
  let w ← get
  let lookup := tensorLookup s w
  match ← decode (getString op "op") with
  | "add" =>
    Frame.addMetadata f (← decode (getString op "name"))
    namesDoc f
  | "set" =>
    let d ← decode (dictionaryOf lookup (← decode (need op "dict")))
    Frame.keepDictionary d
    Frame.setMetadata f d
    namesDoc f
  | "clear" =>
    Frame.clearMetadata f
    namesDoc f
  | "names" => namesDoc f
  | "copy_from" =>
    let src ← decode (frameVar s op "frame")
    Frame.copyMetadata f src
    namesDoc f
  | "attach" =>
    let kind ← decode (recordKind (← decode (getString op "kind")))
    let r ← recordField s w kind (← decode (need op "fields"))
    Frame.attach f r.toDict
    namesDoc f
  | "find" =>
    let d ← Frame.findMetadata f (← decode (getString op "name"))
    return Doc.opt dictDoc d
  | "remove" =>
    match ← Frame.removeMetadata f (← decode (getString op "name")) with
    | some d =>
      let doc := dictDoc d
      Frame.dropDictionary d
      return doc
    | none => return .null
  | "all" => return .arr ((← frame f).metadata.map dictDoc)
  | "with" =>
    let name ← decode (getString op "name")
    let ops ← decode (getArray op "ops")
    match ← Frame.withMetadata f name (dictOps lookup · ops) with
    | some docs => return .arr docs
    | none => return .null
  | "record" =>
    let kind ← decode (recordKind (← decode (getString op "kind")))
    match ← Frame.findMetadata f kind.dictName with
    | some d => return Doc.ofExcept recordFields (Record.ofDict kind d)
    | none => return .null
  | o => decode (refuse s!"unknown meta op '{o}'")

def caught (x : Step Doc) : Step Doc :=
  tryCatchThe Fault (tryCatch x fun r => pure r.doc) fun f => pure (Doc.fault f)

/-- Runs metadata operations on a frame, one answer each. -/
def stepMeta (s : Session) (req : Value) : Step Outcome := do
  let f ← decode (frameVar s req "frame")
  let ops ← decode (getArray req "ops")
  let mut docs := []
  for op in ops do
    docs := docs ++ [← caught (metaOp s f op)]
  return ⟨.arr docs, none⟩

/-- Maps a tensor or a frame with a mapper. -/
def stepMap (s : Session) (req : Value) (frames : Bool) : Step Outcome := do
  let m ← decode (mapperVar s req "mapper")
  let mode ← decode (accessMode req)
  -- the driver passes the mapper a reference of its own to the source, let go after the call
  if frames then
    let f ← decode (frameVar s req "frame")
    retain f
    madeFrame (← (keeping f (Mapper.mapFrame m f mode) : Act Ref))
  else
    let t ← decode (tensorVar s req "tensor")
    retain t
    madeTensor (← (keeping t (Mapper.mapTensor m t mode) : Act Ref))

/-- Maps a tensor or a frame into a context from its own. -/
def stepMapTo (s : Session) (req : Value) : Step Outcome := do
  let c ← decode (contextVar s req "ctx")
  let mode ← decode (accessMode req)
  match opt req "tensor" with
  | some _ =>
    let t ← decode (tensorVar s req "tensor")
    madeTensor (← Mapper.tensorTo t c mode)
  | none =>
    let f ← decode (frameVar s req "frame")
    madeFrame (← Mapper.frameTo f c mode)

end Console

end MemBridge
