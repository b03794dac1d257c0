import MeesignServer.State.Step
import MeesignServer.State.SpecTask

/-! What `add_group_task` and `add_sign_task` answer. Both turn down a bad name and an unknown device
    or group with `None`, leaving the state as it was, and otherwise add one task under the drawn
    identifier, announce it and answer the identifier; `add_sign_task` never panics. `add_group_task`
    checks neither the threshold, so that it panics in `GroupTask::new` on one above the number of
    devices, nor the key type, which it only logs. -/

namespace MeesignServer

variable {T : Type} [Task T]

namespace State

/-- The key type decides nothing in `add_group_task`: an unsupported one is only logged. -/
theorem addGroupTask_keyType (s : State T) (name : String) (devices : List Bytes) (threshold : Nat)
    (protocol : ProtocolType) (keyType keyType' : KeyType) (uuid : Uuid) (net : Net) :
    s.addGroupTask name devices threshold protocol keyType uuid net =
      s.addGroupTask name devices threshold protocol keyType' uuid net := rfl

end State

/-- A group task over one registered device with threshold two panics, while threshold one gives the
    task, whatever the key type. -/
theorem group_task_above_device_count_panics :
    let net : Net := fun _ => .closed
    let s : State SpecTask := execAll net [.addDevice [1] "a"] State.new
    Reachable s ∧ (s.addGroupTask "a" [[1]] 2 .gg18 ⟨0⟩ ⟨0⟩ net).value = none ∧
      ∀ keyType : KeyType, (s.addGroupTask "a" [[1]] 1 .gg18 keyType ⟨0⟩ net).value = some (some ⟨0⟩) := by
  intro net s
  refine ⟨runs_execAll _ _ _ (by decide), by decide, fun keyType => ?_⟩
  rw [State.addGroupTask_keyType s "a" [[1]] 1 .gg18 keyType ⟨0⟩]
  decide

end MeesignServer
