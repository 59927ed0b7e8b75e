import MemBridge.Fault

/-!
Completion fences.

A fence says whether some awaited work (named by `operation`) is done. Nothing completes work
on its own in this model, so a wait on an unsignaled fence always runs out its time and fails
with a timeout that names the operation and the time waited.
-/

namespace MemBridge

/-- A one-shot completion flag. -/
structure Fence where
  operation : String
  signaled : Bool
  deriving DecidableEq, Repr, Inhabited

namespace Fence

def wait (f : Fence) (millis : Nat) : Except Fault Unit :=
  if f.signaled then .ok () else .error (.timeout f.operation millis)

theorem wait_eq_ok_iff (f : Fence) (millis : Nat) :
    f.wait millis = .ok () ↔ f.signaled = true := by
  unfold wait
  split <;> simp_all

end Fence

end MemBridge
