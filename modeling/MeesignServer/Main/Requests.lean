import MeesignServer.Main.State

/-! The requests of `rpc.rs` against the `State` of `main.rs`: what they return and where they panic.
    Unknown groups, task indices past the end of the list and devices outside a task are not
    reported but unwrapped, and the panic comes before any change. A group task over a list that
    repeats a device builds a group with fewer members than its threshold. A group identifier is the
    concatenation of the member identifiers in the order of the keys: it tells members apart only
    when all identifiers have one length, and the same members in another order give another. -/

namespace MeesignServer.Main

theorem set_of_getElem? {α : Type} {l : List α} {i : Nat} {a : α} (h : l[i]? = some a) : l.set i a = l :=
  List.ext_getElem? fun j => by
    rw [List.getElem?_set]
    split
    · subst_vars; simp [List.getElem?_eq_some_iff.mp h |>.1, h]
    · rfl

namespace Task

theorem update_of_not_mem {t : Task} {d : Bytes} (h : d ∉ t.subtasks) (p : Bytes) :
    t.update d p = ⟨t, some (.error "Incompatible device ID")⟩ := by
  cases t <;> simp_all [update, subtasks, SignTask.update, GroupTask.update]

theorem getWork_of_not_mem {t : Task} {d : Bytes} (h : d ∉ t.subtasks) : t.getWork d = none := by
  have : t.subtasks.lookup d = none := AList.lookup_eq_none.mpr h
  cases t <;> simp_all [getWork, subtasks, SignTask.getWork, GroupTask.getWork]

end Task

/-! ### Requests that panic -/

/-- A request naming an unknown group, a task index past the end of the list, or (to `update_task`)
    a device outside the task panics before it changes anything; `get_work` on a listed task answers
    `None` to a device outside it. -/
theorem bad_requests_panic_unchanged (s : State) (group data device payload : Bytes) (task : Nat) :
    ((∀ g ∈ s.groups, g.identifier ≠ group) → s.addSignTask group data = ⟨s, none⟩) ∧
    (s.tasks.length ≤ task →
      s.getTask task = none ∧ s.getWork task device = none ∧ s.updateTask task device payload = ⟨s, none⟩) ∧
    (∀ t, s.tasks[task]? = some t → device ∉ t.subtasks →
      s.updateTask task device payload = ⟨s, none⟩ ∧ s.getWork task device = some none) := by
  refine ⟨fun h => ?_, fun h => ?_, fun t ht hd => ?_⟩
  · have : s.groups.find? (·.identifier == group) = none := List.find?_eq_none.mpr fun g hg => by simpa using h g hg
    simp [State.addSignTask, this]
  · simp [State.getTask, State.getWork, State.updateTask, List.getElem?_eq_none h]
  · simp [State.updateTask, State.getWork, ht, Task.update_of_not_mem hd, Task.getWork_of_not_mem hd,
      set_of_getElem? ht]

/-- At `State::new`, a request to sign under a group, or for the status of a task, panics. -/
theorem sign_and_get_task_panic_at_new :
    (State.new.addSignTask [1] []).value = none ∧ State.new.getTask 0 = none := by decide

/-! ### Group tasks that complete -/

/-- A group task over a list that names one device twice, with the threshold that `rpc.rs` gives by
    default, builds a group of one member and threshold two. -/
theorem repeated_device_threshold_above_members :
    ((State.new.addDevice [1]).addGroupTask [[1], [1]] 2).value = some true ∧
      (((State.new.addDevice [1]).addGroupTask [[1], [1]] 2).state.updateTask 0 [1] []).state.tasks.map
          (fun | .group t => t.result | .sign _ => none) = [some ⟨[1], [[1]], 2⟩] := by decide

/-! ### Group identifiers -/

theorem flatten_inj_of_length {n : Nat} (hn : 0 < n) :
    ∀ {l₁ l₂ : List Bytes}, (∀ d ∈ l₁, d.length = n) → (∀ d ∈ l₂, d.length = n) →
      l₁.flatten = l₂.flatten → l₁ = l₂
  | [], [], _, _, _ => rfl
  | [], d :: _, _, h₂, h => by
    have : d = [] := List.append_eq_nil.mp h.symm |>.1
    have := h₂ d (List.mem_cons_self _ _)
    simp_all
  | d :: _, [], h₁, _, h => by
    have : d = [] := List.append_eq_nil.mp h |>.1
    have := h₁ d (List.mem_cons_self _ _)
    simp_all
  | d₁ :: l₁, d₂ :: l₂, h₁, h₂, h => by
    obtain ⟨rfl, ht⟩ := List.append_inj h ((h₁ d₁ (List.mem_cons_self _ _)).trans (h₂ d₂ (List.mem_cons_self _ _)).symm)
    rw [flatten_inj_of_length hn (fun d hd => h₁ d (List.mem_cons_of_mem _ hd))
      (fun d hd => h₂ d (List.mem_cons_of_mem _ hd)) ht]

/-- The group a reachable group task builds has as identifier the concatenation of its members in
    the order of the keys of `subtasks`, and these members are the distinct listed devices. Two such
    groups have the same identifier exactly when they have the same members in the same order, as
    long as every device identifier has one positive length `n`. -/
theorem built_identifier_eq_iff_of_length {ds₁ ds₂ : List Bytes} {thr₁ thr₂ n : Nat}
    {t₁ t₂ : GroupTask} {g₁ g₂ : Group} (h₁ : GroupTask.Reachable ds₁ thr₁ t₁)
    (h₂ : GroupTask.Reachable ds₂ thr₂ t₂) (hg₁ : t₁.result = some g₁) (hg₂ : t₂.result = some g₂)
    (hn : 0 < n) (hl₁ : ∀ d ∈ ds₁, d.length = n) (hl₂ : ∀ d ∈ ds₂, d.length = n) :
    (g₁.identifier = g₁.devices.flatten ∧ g₁.devices.Perm ds₁.dedup) ∧
      (g₂.identifier = g₂.devices.flatten ∧ g₂.devices.Perm ds₂.dedup) ∧
      (g₁.identifier = g₂.identifier ↔ g₁.devices = g₂.devices) := by
  obtain ⟨-, hp₁, hi₁, -⟩ := h₁.inv.result g₁ hg₁
  obtain ⟨-, hp₂, hi₂, -⟩ := h₂.inv.result g₂ hg₂
  refine ⟨⟨hi₁, hp₁⟩, ⟨hi₂, hp₂⟩, ?_⟩
  rw [hi₁, hi₂]
  refine ⟨flatten_inj_of_length hn ?_ ?_, congrArg _⟩
  · exact fun d hd => hl₁ d (List.mem_dedup.mp (hp₁.subset hd))
  · exact fun d hd => hl₂ d (List.mem_dedup.mp (hp₂.subset hd))

/-- Group tasks over `[1]` and `[2]` completed in the two orders of their updates, and one over
    `[3]` and `[4]`. An update moves its device to the front of the keys, so the first task
    builds identifier `[2, 1]` and the second `[1, 2]`: the same members in another order give
    another identifier, and other members give another identifier still. -/
theorem built_identifiers_follow_key_order :
    let g₁ : Group := ⟨[2, 1], [[2], [1]], 2⟩
    let g₂ : Group := ⟨[1, 2], [[1], [2]], 2⟩
    let g₃ : Group := ⟨[4, 3], [[4], [3]], 2⟩
    ((g₁.identifier = g₁.devices.flatten ∧ g₁.devices.Perm [[1], [2]].dedup) ∧
      (g₂.identifier = g₂.devices.flatten ∧ g₂.devices.Perm [[1], [2]].dedup) ∧
      (g₁.identifier = g₂.identifier ↔ g₁.devices = g₂.devices)) ∧
    ((g₁.identifier = g₁.devices.flatten ∧ g₁.devices.Perm [[1], [2]].dedup) ∧
      (g₃.identifier = g₃.devices.flatten ∧ g₃.devices.Perm [[3], [4]].dedup) ∧
      (g₁.identifier = g₃.identifier ↔ g₁.devices = g₃.devices)) ∧
    g₁.identifier ≠ g₂.identifier ∧ g₁.identifier ≠ g₃.identifier := by
  intro g₁ g₂ g₃
  have hl₁₂ : ∀ d ∈ ([[1], [2]] : List Bytes), d.length = 1 := by decide
  have hl₃₄ : ∀ d ∈ ([[3], [4]] : List Bytes), d.length = 1 := by decide
  exact ⟨@built_identifier_eq_iff_of_length [[1], [2]] [[1], [2]] 2 2 1 _ _ g₁ g₂
      (.update [2] [] (.update [1] [] (.new rfl))) (.update [1] [] (.update [2] [] (.new rfl)))
      (by decide) (by decide) Nat.one_pos hl₁₂ hl₁₂,
    @built_identifier_eq_iff_of_length [[1], [2]] [[3], [4]] 2 2 1 _ _ g₁ g₃
      (.update [2] [] (.update [1] [] (.new rfl))) (.update [4] [] (.update [3] [] (.new rfl)))
      (by decide) (by decide) Nat.one_pos hl₁₂ hl₃₄,
    by decide, by decide⟩

/-- Two group tasks over the devices `[1]`, `[1, 1]` and over the device `[1, 1, 1]` build groups
    with different members and the same identifier `[1, 1, 1]`; and two group tasks over `[1]` and
    `[2]`, whose updates come in the two orders, build the identifiers `[2, 1]` and `[1, 2]`. -/
theorem built_identifier_collision :
    ((GroupTask.new [[1], [1, 1]] 2).bind fun t => ((t.update [1] []).state.update [1, 1] []).state.result).map
        (·.identifier) = some [1, 1, 1] ∧
      ((GroupTask.new [[1, 1, 1]] 1).bind fun t => (t.update [1, 1, 1] []).state.result) =
        some ⟨[1, 1, 1], [[1, 1, 1]], 1⟩ ∧
      ((GroupTask.new [[1], [1, 1]] 2).bind fun t =>
        ((t.update [1] []).state.update [1, 1] []).state.result).map (·.devices.length) = some 2 ∧
      ((GroupTask.new [[1], [2]] 2).bind fun t => ((t.update [1] []).state.update [2] []).state.result).map
        (·.identifier) = some [2, 1] ∧
      ((GroupTask.new [[1], [2]] 2).bind fun t => ((t.update [2] []).state.update [1] []).state.result).map
        (·.identifier) = some [1, 2] := by
  decide

end MeesignServer.Main
