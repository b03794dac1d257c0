import MeesignServer.State.Model

/-! What the spec promises of every task, as far as the orchestrator relies on it. A task keeps its
    devices and its acknowledgements through every method, a finished task stays finished, a group
    task has the devices it is made of and a signing task those of its group, and the group a task
    establishes has members among its devices (§3, §4.5). -/

namespace MeesignServer

namespace Task

variable {T : Type} [Task T]

/-- `t'` continues `t`: the same devices, every acknowledgement kept, and `Finished` kept. -/
structure Follows (t t' : T) : Prop where
  devices : getDevices t' = getDevices t
  acknowledged : ∀ device, deviceAcknowledged t device = true → deviceAcknowledged t' device = true
  finished : getStatus t = .finished → getStatus t' = .finished

theorem Follows.refl (t : T) : Follows t t := ⟨rfl, fun _ => id, id⟩

theorem Follows.trans {t t' t'' : T} (h₁ : Follows t t') (h₂ : Follows t' t'') : Follows t t'' :=
  ⟨h₂.devices.trans h₁.devices, fun d h => h₂.acknowledged d (h₁.acknowledged d h), h₂.finished ∘ h₁.finished⟩

end Task

/-- The laws of the tasks of `crate::tasks` that the spec states (§3, §4.5). -/
class LawfulTask (T : Type) [Task T] : Prop where
  /-- A group task has the devices it is created with. -/
  getDevices_newGroupTask {name : String} {devices : List Device} {threshold : Nat} {t : T} :
    Task.newGroupTask name devices threshold = some t → Task.getDevices t = devices
  /-- A signing task has the devices of its group. -/
  getDevices_newSignPDFTask (g : Group) (name : String) (data : Bytes) :
    Task.getDevices (Task.newSignPDFTask g name data : T) = g.devices
  /-- The group a task establishes has members among the devices of the task. -/
  result_devices {t : T} {g : Group} :
    Task.getResult t = some (.groupEstablished g) → ∀ d ∈ g.devices, d ∈ Task.getDevices t
  /-- `update`, `decide`, `acknowledge` and `restart` keep the devices, the acknowledgements and a
      `Finished` status. -/
  follows_update (t : T) (device data : Bytes) : Task.Follows t (Task.update t device data).1
  follows_decide (t : T) (device : Bytes) (decision : Bool) : Task.Follows t (Task.decide t device decision).1
  follows_acknowledge (t : T) (device : Bytes) : Task.Follows t (Task.acknowledge t device)
  follows_restart (t : T) : Task.Follows t (Task.restart t).1
  /-- `acknowledge` records the device and keeps the status. -/
  acknowledge_acknowledged (t : T) (device : Bytes) : Task.deviceAcknowledged (Task.acknowledge t device) device = true
  getStatus_acknowledge (t : T) (device : Bytes) : Task.getStatus (Task.acknowledge t device) = Task.getStatus t

end MeesignServer
