import MemBridge.Console.Decode
import MemBridge.Config.Options

/-!
Answers about configuration texts.
-/

namespace MemBridge

namespace Console

open Json

def answerMapperOptions (req : Value) : Decode Doc := do
  let text ← getString req "json"
  return Doc.ofExcept (fun o => Doc.record [("use_cache", .bool o.useCache),
    ("pool_policy", Doc.str o.poolPolicy.name),
    ("cache_policy", Doc.opt (Doc.str ·.name) o.cachePolicy)]) (MapperOptions.parse text)

/-- A device configuration read from its JSON text, and whether a device accepts it. -/
def answerDeviceConfig (req : Value) : Decode Doc := do
  let text ← getString req "json"
  return Doc.ofExcept (fun c => Doc.record [("name", Doc.str c.name),
    ("memory_limit_bytes", Doc.nat c.memoryLimit), ("pitch_alignment", Doc.nat c.pitchAlignment),
    ("sync_timeout_ms", Doc.nat c.syncTimeoutMs), ("sync_timeout_ms_dur", Doc.nat c.syncTimeoutMs),
    ("device", Doc.ofExcept (fun () => Doc.str "ok") c.check)]) (DeviceConfig.parse text)

end Console

end MemBridge
