import MeesignServer.State.Devices

/-! Where the groups of the orchestrator change. Only an `update_task` that turns its task from not
    `Finished` to `Finished` stores a group, the one the task establishes, and it stores it with
    `HashMap::insert`: a later group task whose group has the same identifier replaces the group
    stored under it. Identifiers once mapped stay mapped. Every group sits under its own identifier,
    so with the registry invariant `get_device_groups` lists groups only to registered devices. -/

namespace MeesignServer

variable {T : Type} [Task T]

theorem groups_cases (op : Op) (s : State T) (net : Net) :
    (op.exec s net).state.1.groups = s.groups ∨
      ∃ taskId device data task g, op = .updateTask taskId device data ∧ s.tasks.lookup taskId = some task ∧
        Task.getStatus task ≠ .finished ∧ Task.getStatus (Task.update task device data).1 = .finished ∧
        Task.getResult (Task.update task device data).1 = some (.groupEstablished g) ∧
        (op.exec s net).state.1.groups = s.groups.insert g.identifier g := by
  have h := effect op s net
  generalize (op.exec s net).state.1 = s' at h ⊢
  generalize hc : s'.core = c at h
  have hg : s'.groups = c.2.1 := congrArg (fun c => c.2.1) hc
  cases h with
  | establish htask hnot hfin hres => exact .inr ⟨_, _, _, _, _, rfl, htask, hnot, hfin, hres, hg⟩
  | _ => exact .inl hg

/-- Every stored group sits under its own identifier. -/
def GroupsKeyed (groups : Map Bytes Group) : Prop :=
  ∀ {identifier : Bytes} {g : Group}, groups.lookup identifier = some g → g.identifier = identifier

theorem groupsKeyed_exec (op : Op) (s : State T) (net : Net) (h : GroupsKeyed s.groups) :
    GroupsKeyed (op.exec s net).state.1.groups := by
  rcases groups_cases op s net with hg | ⟨_, _, _, _, g, -, -, -, -, -, hg⟩
  · rwa [hg]
  · intro identifier g' hlookup
    rw [hg] at hlookup
    rcases lookup_insert_eq_some.mp hlookup with ⟨rfl, rfl⟩ | ⟨-, hlookup⟩
    · rfl
    · exact h hlookup

theorem Runs.groupsKeyed {s s' : State T} (h : Runs s s') (hk : GroupsKeyed s.groups) : GroupsKeyed s'.groups := by
  induction h with
  | refl => exact hk
  | step op net _ _ ih => exact groupsKeyed_exec op _ net ih

omit [Task T] in
/-- `get_device_groups` lists the stored groups that contain the device. -/
theorem mem_getDeviceGroups {s : State T} {device : Bytes} {g : Group} :
    g ∈ s.getDeviceGroups device ↔ (∃ identifier, s.groups.lookup identifier = some g) ∧ g.contains device = true := by
  simp only [State.getDeviceGroups, List.mem_filter, List.mem_map, ← Option.mem_def, AList.mem_lookup_iff]
  constructor
  · rintro ⟨⟨⟨identifier, _⟩, he, rfl⟩, hc⟩
    exact ⟨⟨identifier, he⟩, hc⟩
  · rintro ⟨⟨identifier, he⟩, hc⟩
    exact ⟨⟨_, he, rfl⟩, hc⟩

section
variable [LawfulTask T]

/-- In every reachable state, each group that `get_device_groups` lists for a device is stored under
    its own identifier and has the device as a registered member: only a registered device is
    listed any group. -/
theorem device_groups_registered (s : State T) (hs : Reachable s) (device : Bytes) :
    ∀ g ∈ s.getDeviceGroups device, s.groups.lookup g.identifier = some g ∧
      ∃ d ∈ g.devices, d.identifier = device ∧ s.devices.lookup device = some d := by
  intro g hg
  obtain ⟨⟨identifier, hlookup⟩, hc⟩ := mem_getDeviceGroups.mp hg
  obtain ⟨d, hd, hid⟩ := List.any_eq_true.mp hc
  have hid : d.identifier = device := by simpa using hid
  refine ⟨hs.groupsKeyed (fun h => by simp [State.new] at h) hlookup ▸ hlookup, d, hd, hid, ?_⟩
  exact hid ▸ (hs.registered Registered.empty).group_devices hlookup d hd

end

/-- Device `[1]` registered, and the group task over it completed: `get_device_groups` lists its
    group for `[1]`, stored under `[1]` with `[1]` a registered member. -/
theorem device_groups_after_group_task :
    let s : State SpecTask := execAll (fun _ => .closed)
      [.addDevice [1] "a", .addGroupTask "g" [[1]] 1 .gg18 ⟨0⟩ ⟨0⟩, .updateTask ⟨0⟩ [1] []] State.new
    Reachable s ∧ s.getDeviceGroups [1] = [⟨[1], "g", [⟨[1], "a"⟩], 1, .gg18⟩] ∧
      ∀ g ∈ s.getDeviceGroups [1], s.groups.lookup g.identifier = some g ∧
        ∃ d ∈ g.devices, d.identifier = [1] ∧ s.devices.lookup [1] = some d := by
  intro s
  have hs : Reachable s := runs_execAll _ _ _ (by decide)
  exact ⟨hs, by decide, device_groups_registered s hs [1]⟩

end MeesignServer
