import MeesignServer.Basic
import Mathlib.Logic.Function.Basic

/-! The orchestrator of `state.rs`. It owns the registered devices, the established groups by
    identifier, the tasks by `Uuid` and a channel sender for every subscribed device; it validates
    requests, creates and updates tasks, stores the group of a group task that finishes, and pushes
    every visible change of a task to the subscribers among its devices with a `try_send` that never
    blocks. The tasks live behind the trait `Task` of `crate::tasks`, whose code is not in the source,
    so the orchestrator is modelled for every implementation of it. -/

namespace MeesignServer

/-- Modelled from the spec: `crate::device::Device`, whose code is not in the source. A registered
    device has its identifier and its display name (§3); the liveness flag is left out, since no
    modelled function reads it. -/
structure Device where
  identifier : Bytes
  name : String
deriving DecidableEq, Repr

/-- `crate::proto::ProtocolType`, with the one variant `state.rs` matches on. -/
inductive ProtocolType
  | gg18
deriving DecidableEq, Repr

/-- Modelled from the spec: `crate::proto::KeyType`, whose variants the source does not list. -/
structure KeyType where
  tag : Nat
deriving DecidableEq, Repr

/-- Modelled from the spec: `crate::group::Group`, whose code is not in the source. A group has an
    identifier, a name, its member devices, a threshold and the protocol it was made with (§3). -/
structure Group where
  identifier : Bytes
  name : String
  devices : List Device
  threshold : Nat
  protocol : ProtocolType
deriving DecidableEq, Repr

/-- Modelled from the spec: `Group::contains`, membership of a device identifier (§4.2). -/
def Group.contains (g : Group) (device : Bytes) : Bool :=
  g.devices.any (·.identifier == device)

/-- Modelled from the spec: `crate::tasks::TaskStatus` (§4.5). `state.rs` compares it with
    `TaskStatus::Finished`, which carries no payload. -/
inductive TaskStatus
  | waiting (devices : List Bytes)
  | finished
  | failed (reason : String)
deriving DecidableEq, Repr

/-- Modelled from the spec: `crate::tasks::TaskResult`, what a finished task carries (§4.5). -/
inductive TaskResult
  | groupEstablished (group : Group)
  | signed (signature : Bytes)
deriving DecidableEq, Repr

/-- A `uuid::Uuid`: 128 bits. -/
structure Uuid where
  bits : BitVec 128
deriving DecidableEq, Repr

/-- The trait `crate::tasks::Task` and the constructors of its implementations `GroupTask` and
    `SignPDFTask`, as `state.rs` calls them. -/
class Task (T : Type) where
  /-- `GroupTask::new(name, devices, threshold)`; `none` when it panics. -/
  newGroupTask : String → List Device → Nat → Option T
  /-- `SignPDFTask::new(group, name, data)`. -/
  newSignPDFTask : Group → String → Bytes → T
  getStatus : T → TaskStatus
  getResult : T → Option TaskResult
  /-- `update(device, data)`: whether the task changed visibly, or an error. -/
  update : T → Bytes → Bytes → T × Except String Bool
  /-- `decide(device, decision)`: whether the task changed. -/
  decide : T → Bytes → Bool → T × Bool
  acknowledge : T → Bytes → T
  restart : T → T × Except String Bool
  hasDevice : T → Bytes → Bool
  deviceAcknowledged : T → Bytes → Bool
  getDevices : T → List Device

/-! ### Subscriber channels -/

/-- The sending half of a subscriber's channel, a `tokio::sync::mpsc::Sender`: a handle to one
    bounded channel, which clones of it share. -/
structure Sender where
  channel : Nat
deriving DecidableEq, Repr

/-- A bounded channel as its senders see it: open with `room` free places, or closed. -/
inductive Channel
  | open (room : Nat)
  | closed
deriving DecidableEq, Repr

/-- The condition the receivers have left every channel in. -/
abbrev Net := Nat → Channel

/-- `Sender::try_send`: it fails on a closed or a full channel and takes one place otherwise. -/
def Net.trySend (net : Net) (tx : Sender) : Net × Bool :=
  match net tx.channel with
  | .open (room + 1) => (Function.update net tx.channel (.open room), true)
  | _ => (net, false)

/-- `Outcome.map`: the value of a call that returns, changed by `f`. -/
def Outcome.map {σ α β : Type} (f : α → β) (o : Outcome σ α) : Outcome σ β :=
  ⟨o.state, o.value.map f⟩

/-! ### The state -/

/-- `State` of `state.rs`. -/
structure State (T : Type) where
  devices : Map Bytes Device
  groups : Map Bytes Group
  tasks : Map Uuid T
  subscribers : Map Bytes Sender

namespace State

variable {T : Type}

/-- `State::new`. -/
def new : State T := ⟨∅, ∅, ∅, ∅⟩

/-- The name check of `add_device` and `add_group_task`: more than 64 characters, or one of them
    ASCII punctuation or a control character. -/
def invalidName (name : String) : Bool :=
  name.length > 64 || name.data.any fun c => isAsciiPunctuation c || isControl c

/-- The check of `add_sign_task`: data over 8 MiB, a name over 256 bytes, or a control character in
    the name. -/
def invalidSignRequest (name : String) (data : Bytes) : Bool :=
  data.length > 8 * 1024 * 1024 || name.utf8ByteSize > 256 || name.data.any isControl

/-- `add_device`. -/
def addDevice (s : State T) (identifier : Bytes) (name : String) : State T × Bool :=
  if invalidName name then (s, false)
  else if identifier ∈ s.devices then (s, false)
  else ({ s with devices := s.devices.insert identifier ⟨identifier, name⟩ }, true)

/-- `add_task`, with the identifier that `Uuid::new_v4` draws. -/
def addTask (s : State T) (task : T) (uuid : Uuid) : State T :=
  { s with tasks := s.tasks.insert uuid task }

/-- `get_task`. -/
def getTask (s : State T) (taskId : Uuid) : Option T :=
  s.tasks.lookup taskId

/-- `add_subscriber`. -/
def addSubscriber (s : State T) (deviceId : Bytes) (tx : Sender) : State T :=
  { s with subscribers := s.subscribers.insert deviceId tx }

/-- `remove_subscriber`. -/
def removeSubscriber (s : State T) (deviceId : Bytes) : State T :=
  { s with subscribers := s.subscribers.erase deviceId }

/-- The first loop of `send_updates`: a `try_send` to the subscriber of each listed device that has
    one, in order. It gives the channels after them and the devices whose `try_send` failed. -/
def trySends (subscribers : Map Bytes Sender) (net : Net) : List Bytes → Net × List Bytes
  | [] => (net, [])
  | deviceId :: rest =>
    match subscribers.lookup deviceId with
    | none => trySends subscribers net rest
    | some tx =>
      let sent := net.trySend tx
      let sends := trySends subscribers sent.1 rest
      (sends.1, if sent.2 then sends.2 else deviceId :: sends.2)

/-- The pattern `Ok(true)` of `update_task`. -/
def okTrue : Except String Bool → Bool
  | .ok changed => changed
  | .error _ => false

variable [Task T]

/-- `send_updates`: the task is looked up and unwrapped, its devices are notified, and then the
    subscribers whose `try_send` failed are removed. -/
def sendUpdates (s : State T) (taskId : Uuid) (net : Net) : Outcome (State T × Net) Unit :=
  match s.getTask taskId with
  | none => ⟨(s, net), none⟩
  | some task =>
    let sends := trySends s.subscribers net ((Task.getDevices task).map (·.identifier))
    ⟨(sends.2.foldl removeSubscriber s, sends.1), some ()⟩

/-- The `send_updates` that `update_task` and `decide_task` make when the task changed. -/
def notify (s : State T) (taskId : Uuid) (changed : Bool) (net : Net) : Outcome (State T × Net) Unit :=
  if changed then s.sendUpdates taskId net else ⟨(s, net), some ()⟩

/-- `add_group_task`: the name and then each device are checked, the task is built, added and
    announced. The key type is only checked to log a warning. -/
def addGroupTask (s : State T) (name : String) (devices : List Bytes) (threshold : Nat)
    (protocol : ProtocolType) (_keyType : KeyType) (uuid : Uuid) (net : Net) :
    Outcome (State T × Net) (Option Uuid) :=
  if invalidName name then ⟨(s, net), some none⟩
  else
    match devices.mapM s.devices.lookup with
    | none => ⟨(s, net), some none⟩
    | some deviceList =>
      match protocol with
      | .gg18 =>
        match Task.newGroupTask name deviceList threshold with
        | none => ⟨(s, net), none⟩
        | some task => ((s.addTask task uuid).sendUpdates uuid net).map fun _ => some uuid

/-- `add_sign_task`: the request is checked, the group looked up, and the task added and announced. -/
def addSignTask (s : State T) (group : Bytes) (name : String) (data : Bytes) (uuid : Uuid)
    (net : Net) : Outcome (State T × Net) (Option Uuid) :=
  if invalidSignRequest name data then ⟨(s, net), some none⟩
  else
    match s.groups.lookup group with
    | none => ⟨(s, net), some none⟩
    | some g =>
      match g.protocol with
      | .gg18 => ((s.addTask (Task.newSignPDFTask g name data) uuid).sendUpdates uuid net).map fun _ => some uuid

/-- The filter of `get_device_tasks`. -/
def listed (task : T) (device : Bytes) : Bool :=
  Task.hasDevice task device && (Task.getStatus task != .finished ||
    (Task.getStatus task == .finished && !Task.deviceAcknowledged task device))

/-- `get_device_tasks`. -/
def getDeviceTasks (s : State T) (device : Bytes) : List (Uuid × T) :=
  (s.tasks.entries.filter fun e => listed e.2 device).map fun e => (e.1, e.2)

/-- `get_device_groups`. -/
def getDeviceGroups (s : State T) (device : Bytes) : List Group :=
  (s.groups.entries.map (·.2)).filter (·.contains device)

/-- `update_task`: the task is looked up and unwrapped and updated in place. When this update turns
    its status to `Finished`, its result is unwrapped and a group it establishes is stored under the
    group identifier. A visible change is announced, and the result of `update` returned. -/
def updateTask (s : State T) (taskId : Uuid) (device data : Bytes) (net : Net) :
    Outcome (State T × Net) (Except String Bool) :=
  match s.tasks.lookup taskId with
  | none => ⟨(s, net), none⟩
  | some task =>
    let updated := Task.update task device data
    let s := { s with tasks := s.tasks.insert taskId updated.1 }
    if Task.getStatus task != .finished && Task.getStatus updated.1 == .finished then
      match Task.getResult updated.1 with
      | none => ⟨(s, net), none⟩
      | some (.groupEstablished g) =>
        ({ s with groups := s.groups.insert g.identifier g }.notify taskId (okTrue updated.2) net).map
          fun _ => updated.2
      | some _ => (s.notify taskId (okTrue updated.2) net).map fun _ => updated.2
    else (s.notify taskId (okTrue updated.2) net).map fun _ => updated.2

/-- `decide_task`. -/
def decideTask (s : State T) (taskId : Uuid) (device : Bytes) (decision : Bool) (net : Net) :
    Outcome (State T × Net) Bool :=
  match s.tasks.lookup taskId with
  | none => ⟨(s, net), none⟩
  | some task =>
    let decided := Task.decide task device decision
    ({ s with tasks := s.tasks.insert taskId decided.1 }.notify taskId decided.2 net).map fun _ => decided.2

/-- `acknowledge_task`. -/
def acknowledgeTask (s : State T) (taskId : Uuid) (device : Bytes) : Outcome (State T) Unit :=
  match s.tasks.lookup taskId with
  | none => ⟨s, none⟩
  | some task => ⟨{ s with tasks := s.tasks.insert taskId (Task.acknowledge task device) }, some ()⟩

/-- `restart_task`: an unknown task or a failed restart answers `false`. -/
def restartTask (s : State T) (taskId : Uuid) : State T × Bool :=
  match s.tasks.lookup taskId with
  | none => (s, false)
  | some task =>
    ({ s with tasks := s.tasks.insert taskId (Task.restart task).1 },
      match (Task.restart task).2 with
      | .ok changed => changed
      | .error _ => false)

end State

end MeesignServer
