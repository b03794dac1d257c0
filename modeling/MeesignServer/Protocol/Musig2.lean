import MeesignServer.Protocol.Round

/-! The two protocols of `musig2.rs`: `Musig2Group`, a key generation with last round two, and
    `Musig2Sign`, a signing with last round three. Their `advance` and `finalize` are one body each,
    applied to each protocol's last round. `initialize` asserts nothing and sets the round to one in
    any round; `advance` asserts `(0..last_round).contains(&round)`, which round zero passes. So
    both keep the round discipline of `Call.step`, and a second `initialize` after `finalize` opens
    a second session that finalizes again. -/

namespace MeesignServer

variable {C : Type} [Communicator C]

/-- The body of `advance` in both protocols: the assertion that the round lies in `0..last_round`,
    the relay, and the increment. -/
def advanceRound (lastRound round : UInt16) (c : C) : Option (UInt16 × C) :=
  if 0 ≤ round ∧ round < lastRound then some (round + 1, Communicator.relay c) else none

/-- The body of `finalize` in both protocols: the assertion `last_round == round`, the increment,
    and the final message of the communicator. -/
def finalizeRound (lastRound round : UInt16) (c : C) : Option ((UInt16 × C) × Option Bytes) :=
  if lastRound == round then some ((round + 1, c), Communicator.getFinalMessage c) else none

theorem advanceRound_round (lastRound round : UInt16) (c : C) :
    (advanceRound lastRound round c).map (·.1) = Call.advance.step lastRound round := by
  by_cases h : 0 ≤ round ∧ round < lastRound <;> simp [advanceRound, Call.step, Call.allowed, Call.next, h]

theorem finalizeRound_round (lastRound round : UInt16) (c : C) :
    (finalizeRound lastRound round c).map (·.1.1) = Call.finalize.step lastRound round := by
  by_cases h : lastRound = round <;> simp [finalizeRound, Call.step, Call.allowed, Call.next, h]

/-! ### `Musig2Group` -/

/-- `Musig2Group`. -/
structure Musig2Group where
  parties : UInt32
  threshold : UInt32
  round : UInt16
deriving DecidableEq, Repr

namespace Musig2Group

/-- `Musig2Group::new`. -/
def new (parties threshold : UInt32) : Musig2Group :=
  ⟨parties, threshold, 0⟩

/-- `last_round`. -/
def lastRound (_ : Musig2Group) : UInt16 := 2

/-- `initialize`: every device becomes active and is sent the group init message with its index,
    the number of parties and the threshold; the data is not read. -/
def init (p : Musig2Group) (c : C) (_data : Bytes) : Musig2Group × C :=
  let c := Communicator.setActiveDevices c
  ({ p with round := 1 }, Communicator.sendAll c fun idx => .group ⟨.musig2, idx, p.parties, p.threshold⟩)

/-- `advance`. -/
def advance (p : Musig2Group) (c : C) : Option (Musig2Group × C) :=
  (advanceRound p.lastRound p.round c).map fun r => ({ p with round := r.1 }, r.2)

/-- `finalize`. -/
def finalize (p : Musig2Group) (c : C) : Option ((Musig2Group × C) × Option Bytes) :=
  (finalizeRound p.lastRound p.round c).map fun r => (({ p with round := r.1.1 }, r.1.2), r.2)

instance : Protocol Musig2Group where
  init := init
  advance := advance
  finalize := finalize
  round := round
  lastRound := lastRound

theorem round_call (p : Musig2Group) (c : C) (k : Call) :
    (Protocol.call p c k).map (fun q => Protocol.round q.1) = k.step (Protocol.lastRound p) (Protocol.round p) := by
  cases k with
  | init => rfl
  | advance =>
    rw [← advanceRound_round _ _ c]
    simp only [Protocol.call, Protocol.advance, advance, Option.map_map]
    rfl
  | finalize =>
    rw [← finalizeRound_round _ _ c]
    simp only [Protocol.call, Protocol.finalize, finalize, Option.map_map]
    rfl

theorem lastRound_call {p : Musig2Group} {c : C} {k : Call} {q : Musig2Group × C} (_ : Protocol.call p c k = some q) :
    Protocol.lastRound q.1 = Protocol.lastRound p := rfl

theorem lastRound_lt (p : Musig2Group) : (Protocol.lastRound p).toNat < 65535 := by
  show (2 : UInt16).toNat < 65535
  decide

instance : LawfulProtocol Musig2Group where
  round_call := round_call
  lastRound_call := lastRound_call
  lastRound_lt := lastRound_lt

end Musig2Group

/-! ### `Musig2Sign` -/

/-- `Musig2Sign`. -/
structure Musig2Sign where
  round : UInt16
deriving DecidableEq, Repr

namespace Musig2Sign

/-- `Musig2Sign::new`. -/
def new : Musig2Sign :=
  ⟨0⟩

/-- `last_round`. -/
def lastRound (_ : Musig2Sign) : UInt16 := 3

/-- `initialize`: every device becomes active and is sent the signing init message with the indices
    of the participants, its own index and the data to sign. -/
def init (p : Musig2Sign) (c : C) (data : Bytes) : Musig2Sign × C :=
  let c := Communicator.setActiveDevices c
  let participantIndices := Communicator.getProtocolIndices c
  ({ p with round := 1 }, Communicator.sendAll c fun idx => .sign ⟨.musig2, participantIndices, idx, data⟩)

/-- `advance`. -/
def advance (p : Musig2Sign) (c : C) : Option (Musig2Sign × C) :=
  (advanceRound p.lastRound p.round c).map fun r => ({ p with round := r.1 }, r.2)

/-- `finalize`. -/
def finalize (p : Musig2Sign) (c : C) : Option ((Musig2Sign × C) × Option Bytes) :=
  (finalizeRound p.lastRound p.round c).map fun r => (({ p with round := r.1.1 }, r.1.2), r.2)

instance : Protocol Musig2Sign where
  init := init
  advance := advance
  finalize := finalize
  round := round
  lastRound := lastRound

theorem round_call (p : Musig2Sign) (c : C) (k : Call) :
    (Protocol.call p c k).map (fun q => Protocol.round q.1) = k.step (Protocol.lastRound p) (Protocol.round p) := by
  cases k with
  | init => rfl
  | advance =>
    rw [← advanceRound_round _ _ c]
    simp only [Protocol.call, Protocol.advance, advance, Option.map_map]
    rfl
  | finalize =>
    rw [← finalizeRound_round _ _ c]
    simp only [Protocol.call, Protocol.finalize, finalize, Option.map_map]
    rfl

theorem lastRound_call {p : Musig2Sign} {c : C} {k : Call} {q : Musig2Sign × C} (_ : Protocol.call p c k = some q) :
    Protocol.lastRound q.1 = Protocol.lastRound p := rfl

theorem lastRound_lt (p : Musig2Sign) : (Protocol.lastRound p).toNat < 65535 := by
  show (3 : UInt16).toNat < 65535
  decide

instance : LawfulProtocol Musig2Sign where
  round_call := round_call
  lastRound_call := lastRound_call
  lastRound_lt := lastRound_lt

end Musig2Sign

/-! ### Rounds over runs -/

/-- A fresh `Musig2Group` (last round two) and a fresh `Musig2Sign` (last round three) keep the round
    discipline on every communicator: a call completes exactly when its assertion passes, which is
    always for `initialize`, below the last round for `advance` and at it for `finalize`; `initialize`
    sets the round to one and the others raise it by one; the round stays at most one past the last
    round; and between two calls of `initialize` `finalize` completes at most once. -/
theorem musig2_round_discipline :
    (∀ parties threshold : UInt32, (Musig2Group.new parties threshold).round = 0 ∧
      Protocol.lastRound (Musig2Group.new parties threshold) = 2 ∧
      ∀ (C : Type) [Communicator C], RoundDiscipline Musig2Group C (Musig2Group.new parties threshold)) ∧
    (Musig2Sign.new.round = 0 ∧ Protocol.lastRound Musig2Sign.new = 3 ∧
      ∀ (C : Type) [Communicator C], RoundDiscipline Musig2Sign C Musig2Sign.new) :=
  ⟨fun _ _ => ⟨rfl, rfl, fun C _ => LawfulProtocol.roundDiscipline C _ (Nat.zero_le _)⟩,
    ⟨rfl, rfl, fun C _ => LawfulProtocol.roundDiscipline C _ (Nat.zero_le _)⟩⟩

/-- A signing session over two devices, `initialize`, two `advance` and `finalize`, completes,
    leaves the round at four and finalizes once. -/
theorem musig2_sign_session_finalizes_once :
    let c : SpecCommunicator := ⟨[[1], [2]], [], [], [], []⟩
    let session : List Call := [.advance, .advance, .finalize]
    ∃ q, Protocol.run (.init [7] :: session) Musig2Sign.new c = some q ∧
      (Protocol.round q.1).toNat = 4 ∧ session.count .finalize ≤ 1 := by
  intro c session
  obtain ⟨q, hq⟩ := Option.isSome_iff_exists.mp
    (show (Protocol.run (.init [7] :: session) Musig2Sign.new c).isSome = true by decide)
  obtain ⟨q₁, h₁, hround, hcount⟩ :=
    (musig2_round_discipline.2.2.2 SpecCommunicator).stretch [.init [7]] session c q hq (by decide)
  cases h₁
  exact ⟨q, hq, hround, hcount⟩

/-- On a fresh `Musig2Group`, `advance` completes at round zero; after `initialize`, `advance` and
    `finalize` the round is three, a second `initialize` takes it back to one, and a second session
    finalizes again. -/
theorem musig2_group_calls_outside_windows :
    let c : SpecCommunicator := ⟨[[1], [2]], [], [], [], []⟩
    let p := Musig2Group.new 2 2
    (Protocol.call p c .advance).isSome = true ∧
      (Protocol.run [.init [], .advance, .finalize] p c).map (Protocol.round ·.1) = some 3 ∧
      (Protocol.run [.init [], .advance, .finalize, .init []] p c).map (Protocol.round ·.1) = some 1 ∧
      (Protocol.run [.init [], .advance, .finalize, .init [], .advance, .finalize] p c).isSome = true := by
  decide

/-! ### Sessions -/

/-- On any communicator, whatever calls came before, a `Musig2Group` finalizes only after exactly one
    `advance` since its last `initialize`, and a `Musig2Sign` only after exactly two: each relays
    once for every round between the init messages and the final message. -/
theorem musig2_sessions_relay_each_round (C : Type) [Communicator C] (pre post : List Call) (data : Bytes)
    (c : C) (hpost : ∀ k ∈ post, k.isInit = false) :
    (∀ (p : Musig2Group) q, Protocol.run (pre ++ .init data :: post ++ [.finalize]) p c = some q →
      post = [.advance]) ∧
    (∀ (p : Musig2Sign) q, Protocol.run (pre ++ .init data :: post ++ [.finalize]) p c = some q →
      post = [.advance, .advance]) :=
  ⟨fun _ _ h => session_advances hpost h, fun _ _ h => session_advances hpost h⟩

/-- A signing session after an `advance` at round zero: the calls between `initialize` and
    `finalize` are two calls of `advance`. -/
theorem musig2_sign_session_after_stray_advance :
    let c : SpecCommunicator := ⟨[[1], [2]], [], [], [], []⟩
    let post : List Call := [.advance, .advance]
    (∀ k ∈ post, k.isInit = false) ∧
      (Protocol.run ([.advance] ++ .init [7] :: post ++ [.finalize]) Musig2Sign.new c).isSome = true ∧
      post = [.advance, .advance] := by
  intro c post
  have hpost : ∀ k ∈ post, k.isInit = false := by decide
  have hrun : (Protocol.run ([.advance] ++ .init [7] :: post ++ [.finalize]) Musig2Sign.new c).isSome = true := by
    decide
  obtain ⟨q, hq⟩ := Option.isSome_iff_exists.mp hrun
  exact ⟨hpost, hrun, (musig2_sessions_relay_each_round SpecCommunicator [.advance] post [7] c hpost).2 _ q hq⟩

end MeesignServer
