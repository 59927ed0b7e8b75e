import MemBridge.Config.Read
import MemBridge.Fault

/-!
Configuration records.

`MapperOptions` says whether resolved mappers are wrapped in a cache and what that cache does
when a destination is asked for again while still in use. `DeviceConfig` sets up a simulated
device: its name, a memory limit (zero for none), the row pitch alignment of image surfaces
and the bound on fence waits. Both are read from JSON text; every field may be left out and
then takes its default. A text that does not read is a `configParse` fault with the reader's
message.
-/

namespace MemBridge

/-- What a mapping cache does when a destination it handed out is asked for again while
still in use. -/
inductive PoolPolicy where
  /-- Refuse with a pool contract violation. -/
  | strict
  /-- Hand it out again. -/
  | reissue
  deriving DecidableEq, Repr, Inhabited

def PoolPolicy.name : PoolPolicy → String
  | .strict => "strict"
  | .reissue => "reissue"

/-- Options for resolving mappers. -/
structure MapperOptions where
  useCache : Bool := false
  poolPolicy : PoolPolicy := .strict
  deriving Inhabited

def MapperOptions.cachePolicy (o : MapperOptions) : Option PoolPolicy :=
  if o.useCache then some o.poolPolicy else none

/-- Settings of a simulated device. -/
structure DeviceConfig where
  name : String := "soft0"
  memoryLimit : Nat := 0
  pitchAlignment : Nat := 64
  syncTimeoutMs : Nat := 1000
  deriving Inhabited

namespace Config

def mapperSchema : Schema :=
  ⟨"MapperOptions", [("use_cache", .bool), ("pool_policy", .choice ["strict", "reissue"])]⟩

def deviceSchema : Schema :=
  ⟨"SoftDeviceConfig", [("name", .text), ("memory_limit_bytes", .word "usize"),
    ("pitch_alignment", .word "usize"), ("sync_timeout_ms", .word "u64")]⟩

def boolOr (v : Option FieldValue) (d : Bool) : Bool :=
  match v with
  | some (.bool b) => b
  | _ => d

def wordOr (v : Option FieldValue) (d : Nat) : Nat :=
  match v with
  | some (.word n) => n
  | _ => d

def textOr (v : Option FieldValue) (d : String) : String :=
  match v with
  | some (.text s) => s
  | _ => d

end Config

/-- Reads mapper options from JSON text. -/
def MapperOptions.parse (text : String) : Except Fault MapperOptions :=
  match Config.parseRecord Config.mapperSchema text with
  | .error m => .error (.configParse m)
  | .ok vs =>
    let policy := match vs.getD 1 none with
      | some (.choice 1) => PoolPolicy.reissue
      | _ => .strict
    .ok ⟨Config.boolOr (vs.getD 0 none) false, policy⟩

/-- Reads a device configuration from JSON text. -/
def DeviceConfig.parse (text : String) : Except Fault DeviceConfig :=
  match Config.parseRecord Config.deviceSchema text with
  | .error m => .error (.configParse m)
  | .ok vs =>
    .ok ⟨Config.textOr (vs.getD 0 none) "soft0", Config.wordOr (vs.getD 1 none) 0,
      Config.wordOr (vs.getD 2 none) 64, Config.wordOr (vs.getD 3 none) 1000⟩

def isPowerOfTwo (n : Nat) : Bool := n != 0 && n &&& (n - 1) == 0

def DeviceConfig.check (c : DeviceConfig) : Except Fault Unit :=
  if isPowerOfTwo c.pitchAlignment then .ok ()
  else .error (.config s!"pitch_alignment must be a power of two, got {c.pitchAlignment}")

end MemBridge
