import MeesignServer.Basic

/-! The round state machine behind the trait `Protocol` of `crate::protocols`. A task initializes
    its protocol, advances it round by round while the communicator relays the devices' messages,
    and finalizes it at the last round; an `assert!` that fails panics. `Call.step` says once what
    a call does to the round counter. A protocol whose calls move the round as `Call.step` says
    (`LawfulProtocol`) keeps its round at most one past the last round over every run, raises it by
    one with each `advance` and `finalize`, and finalizes at most once between two calls of
    `initialize`. -/

namespace MeesignServer

/-! ### The communicator -/

/-- `meesign_crypto::proto::ProtocolType`, whose variant an init message carries as an `i32`. -/
inductive CryptoProtocol
  | musig2
deriving DecidableEq, Repr

/-- `meesign_crypto::proto::ProtocolGroupInit`, the init message of a key generation. -/
structure ProtocolGroupInit where
  protocolType : CryptoProtocol
  index : UInt32
  parties : UInt32
  threshold : UInt32
deriving DecidableEq, Repr

/-- `meesign_crypto::proto::ProtocolInit`, the init message of a signing. -/
structure ProtocolInit where
  protocolType : CryptoProtocol
  indices : List UInt32
  index : UInt32
  data : Bytes
deriving DecidableEq, Repr

/-- An init message, before `encode_to_vec` gives the bytes a device receives. -/
inductive InitMessage
  | group (message : ProtocolGroupInit)
  | sign (message : ProtocolInit)
deriving DecidableEq, Repr

/-- Modelled from the spec: `crate::communicator::Communicator`, whose code is not in the source
    (§4.3). A protocol fixes the active devices, numbers them, sends each an init message built from
    its index, relays each round's messages, and reads the final message. -/
class Communicator (C : Type) where
  setActiveDevices : C → C
  getProtocolIndices : C → List UInt32
  sendAll : C → (UInt32 → InitMessage) → C
  relay : C → C
  getFinalMessage : C → Option Bytes

/-- Modelled from the spec: a communicator as §3 and §4.3 describe it. It knows the task's devices
    and the active ones, the init message sent to each, the message each device posted in the
    current round, and what the last relay made available to each device, keyed by sender. -/
structure SpecCommunicator where
  devices : List Bytes
  active : List Bytes
  sent : List (Bytes × InitMessage)
  posted : List (Bytes × Bytes)
  relayed : List (Bytes × List (Bytes × Bytes))
deriving DecidableEq, Repr

namespace SpecCommunicator

/-- Every device of the task is active, as in the group and Musig2 protocols of the spec. -/
def setActiveDevices (c : SpecCommunicator) : SpecCommunicator :=
  { c with active := c.devices }

/-- The ordinal of each active device. -/
def getProtocolIndices (c : SpecCommunicator) : List UInt32 :=
  (List.range c.active.length).map UInt32.ofNat

def sendAll (c : SpecCommunicator) (payload : UInt32 → InitMessage) : SpecCommunicator :=
  { c with sent := c.active.enum.map fun e => (e.2, payload (UInt32.ofNat e.1)) }

/-- Every active device gets the messages the others posted this round; the round's posts clear. -/
def relay (c : SpecCommunicator) : SpecCommunicator :=
  { c with relayed := c.active.map (fun d => (d, c.posted.filter (·.1 != d))), posted := [] }

/-- Once every active device has posted, their posts in the order of the active devices. -/
def getFinalMessage (c : SpecCommunicator) : Option Bytes :=
  (c.active.mapM fun d => (c.posted.find? (·.1 == d)).map (·.2)).map List.flatten

instance : Communicator SpecCommunicator where
  setActiveDevices := setActiveDevices
  getProtocolIndices := getProtocolIndices
  sendAll := sendAll
  relay := relay
  getFinalMessage := getFinalMessage

end SpecCommunicator

/-! ### Protocols and calls -/

/-- The trait `crate::protocols::Protocol`, whose declaration is not in the source, with the methods
    `musig2.rs` implements; a method whose assertion fails answers `none`. -/
class Protocol (P : Type) where
  /-- The method `initialize`. -/
  init {C : Type} [Communicator C] : P → C → Bytes → P × C
  advance {C : Type} [Communicator C] : P → C → Option (P × C)
  finalize {C : Type} [Communicator C] : P → C → Option ((P × C) × Option Bytes)
  round : P → UInt16
  lastRound : P → UInt16

/-- A call that a task makes on its protocol. -/
inductive Call
  /-- A call of `initialize`. -/
  | init (data : Bytes)
  | advance
  | finalize
deriving DecidableEq, Repr

namespace Call

def isInit : Call → Bool
  | .init _ => true
  | _ => false

/-- The assertions of `musig2.rs` at round `round`: none in `initialize`,
    `(0..last_round).contains(&round)` in `advance`, `last_round == round` in `finalize`. -/
def allowed (lastRound round : UInt16) : Call → Bool
  | .init _ => true
  | .advance => decide (0 ≤ round ∧ round < lastRound)
  | .finalize => lastRound == round

/-- The round after a call: `initialize` sets it to one, `advance` and `finalize` add one. -/
def next (round : UInt16) : Call → UInt16
  | .init _ => 1
  | _ => round + 1

/-- What a call does to the round counter; `none` when its assertion fails. -/
def step (lastRound round : UInt16) (k : Call) : Option UInt16 :=
  if k.allowed lastRound round then some (k.next round) else none

end Call

namespace Protocol

variable {P C : Type} [Protocol P] [Communicator C]

/-- One call; `none` when it panics. -/
def call (p : P) (c : C) : Call → Option (P × C)
  | .init data => some (init p c data)
  | .advance => advance p c
  | .finalize => (finalize p c).map (·.1)

/-- Calls made one after another; `none` when one of them panics. -/
def run : List Call → P → C → Option (P × C)
  | [], p, c => some (p, c)
  | k :: ks, p, c => (call p c k).bind fun q => run ks q.1 q.2

theorem run_append (ks₁ ks₂ : List Call) (p : P) (c : C) :
    run (ks₁ ++ ks₂) p c = (run ks₁ p c).bind fun q => run ks₂ q.1 q.2 := by
  induction ks₁ generalizing p c with
  | nil => rfl
  | cons k ks₁ ih =>
    simp only [List.cons_append, run, Option.bind_assoc]
    congr 1
    funext q
    exact ih q.1 q.2

end Protocol

/-! ### Rounds as the calls move them -/

/-- The calls of `P` move the round as `Call.step` says and keep the last round, which leaves room
    for the increment of `finalize`. -/
class LawfulProtocol (P : Type) [Protocol P] : Prop where
  round_call {C : Type} [Communicator C] (p : P) (c : C) (k : Call) :
    (Protocol.call p c k).map (fun q => Protocol.round q.1) = k.step (Protocol.lastRound p) (Protocol.round p)
  lastRound_call {C : Type} [Communicator C] {p : P} {c : C} {k : Call} {q : P × C} :
    Protocol.call p c k = some q → Protocol.lastRound q.1 = Protocol.lastRound p
  lastRound_lt (p : P) : (Protocol.lastRound p).toNat < 65535

theorem UInt16.toNat_add_one (a : UInt16) : (a + 1).toNat = (a.toNat + 1) % 65536 := rfl

theorem UInt16.toNat_add_one_of_lt {a : UInt16} (h : a.toNat < 65535) : (a + 1).toNat = a.toNat + 1 := by
  rw [UInt16.toNat_add_one]
  omega

namespace Call

variable {lastRound round : UInt16}

theorem allowed_advance : allowed lastRound round .advance = decide (round.toNat < lastRound.toNat) := by
  simp only [allowed, decide_eq_decide]
  exact ⟨fun h => h.2, fun h => ⟨Nat.zero_le _, h⟩⟩

theorem allowed_finalize : allowed lastRound round .finalize = decide (round.toNat = lastRound.toNat) := by
  rw [allowed, Bool.eq_iff_iff, beq_iff_eq, decide_eq_true_eq]
  exact ⟨fun h => h ▸ rfl, fun h => (UInt16.toNat.inj h).symm⟩

/-- An `advance` or a `finalize` that passes its assertion raises the round by one, as a number. -/
theorem next_toNat (hlast : lastRound.toNat < 65535) {k : Call} (hk : k.allowed lastRound round = true)
    (hinit : k.isInit = false) : (k.next round).toNat = round.toNat + 1 := by
  cases k with
  | init => cases hinit
  | advance =>
    rw [allowed_advance, decide_eq_true_eq] at hk
    exact UInt16.toNat_add_one_of_lt (by omega)
  | finalize =>
    rw [allowed_finalize, decide_eq_true_eq] at hk
    exact UInt16.toNat_add_one_of_lt (by omega)

theorem isSome_step {k : Call} : (k.step lastRound round).isSome = k.allowed lastRound round := by
  unfold step
  split <;> simp_all

/-- A call that passes its assertion leaves the round at most one past the last round. -/
theorem next_le (hlast : lastRound.toNat < 65535) {k : Call} (hk : k.allowed lastRound round = true) :
    (k.next round).toNat ≤ lastRound.toNat + 1 := by
  cases k with
  | init => exact Nat.le_add_left 1 _
  | advance =>
    rw [allowed_advance, decide_eq_true_eq] at hk
    show (round + 1).toNat ≤ _
    rw [UInt16.toNat_add_one_of_lt (by omega)]
    omega
  | finalize =>
    rw [allowed_finalize, decide_eq_true_eq] at hk
    show (round + 1).toNat ≤ _
    rw [UInt16.toNat_add_one_of_lt (by omega)]
    omega

/-- Past the last round only `initialize` passes its assertion. -/
theorem allowed_of_lastRound_lt {k : Call} (h : lastRound.toNat < round.toNat) (hk : k.allowed lastRound round = true) :
    k.isInit = true := by
  cases k with
  | init => rfl
  | advance => rw [allowed_advance, decide_eq_true_eq] at hk; omega
  | finalize => rw [allowed_finalize, decide_eq_true_eq] at hk; omega

end Call

section
variable {P C : Type} [Protocol P] [LawfulProtocol P] [Communicator C]

open Protocol

theorem call_isSome (p : P) (c : C) (k : Call) :
    (call p c k).isSome = k.allowed (lastRound p) (Protocol.round p) := by
  rw [← Option.isSome_map' (f := fun q => Protocol.round q.1), LawfulProtocol.round_call, Call.isSome_step]

theorem round_of_call {p : P} {c : C} {k : Call} {q : P × C} (h : call p c k = some q) :
    k.allowed (lastRound p) (Protocol.round p) = true ∧ Protocol.round q.1 = k.next (Protocol.round p) := by
  have hq := LawfulProtocol.round_call p c k
  rw [h, Call.step] at hq
  split at hq
  · exact ⟨‹_›, Option.some.inj hq⟩
  · cases hq

/-- The round of a call that completes: one after `initialize`, one more after the others. -/
theorem round_toNat_of_call {p : P} {c : C} {k : Call} {q : P × C} (h : call p c k = some q) :
    (Protocol.round q.1).toNat = if k.isInit then 1 else (Protocol.round p).toNat + 1 := by
  obtain ⟨hk, hr⟩ := round_of_call h
  rw [hr]
  cases hinit : k.isInit
  · exact Call.next_toNat (LawfulProtocol.lastRound_lt p) hk hinit
  · cases k <;> first | rfl | cases hinit

/-- Over a run the round stays at most one past the last round, which stays as it was. -/
theorem round_le_of_run {ks : List Call} :
    ∀ {p : P} {c : C} {q : P × C}, run ks p c = some q →
      (Protocol.round p).toNat ≤ (lastRound p).toNat + 1 →
      lastRound q.1 = lastRound p ∧ (Protocol.round q.1).toNat ≤ (lastRound q.1).toNat + 1 := by
  induction ks with
  | nil =>
    intro p c q h hp
    cases h
    exact ⟨rfl, hp⟩
  | cons k ks ih =>
    intro p c q h _
    obtain ⟨q₁, h₁, h⟩ := Option.bind_eq_some.mp h
    have hlast₁ := LawfulProtocol.lastRound_call h₁
    obtain ⟨hk, hround₁⟩ := round_of_call h₁
    obtain ⟨hlast, hround⟩ := ih h (by rw [hround₁, hlast₁]; exact Call.next_le (LawfulProtocol.lastRound_lt p) hk)
    exact ⟨hlast.trans hlast₁, hround⟩

/-- After a `finalize` the round is past the last round, so only `initialize` completes. -/
theorem isInit_of_call_after_finalize {p : P} {c c' : C} {q₁ q₂ : P × C} {k : Call}
    (h₁ : call p c .finalize = some q₁) (h₂ : call q₁.1 c' k = some q₂) : k.isInit = true := by
  have hfin := (round_of_call h₁).1
  rw [Call.allowed_finalize, decide_eq_true_eq] at hfin
  refine Call.allowed_of_lastRound_lt ?_ (round_of_call h₂).1
  rw [round_toNat_of_call h₁, LawfulProtocol.lastRound_call h₁]
  show _ < (Protocol.round p).toNat + 1
  omega

/-- Without `initialize`, each call of a run raises the round by one, and a `finalize` can only be
    the last call. -/
theorem run_without_initialize {ks : List Call} (hks : ∀ k ∈ ks, k.isInit = false) :
    ∀ {p : P} {c : C} {q : P × C}, run ks p c = some q →
      (Protocol.round q.1).toNat = (Protocol.round p).toNat + ks.length ∧ ks.count .finalize ≤ 1 := by
  induction ks with
  | nil =>
    intro p c q h
    cases h
    exact ⟨rfl, Nat.zero_le _⟩
  | cons k ks ih =>
    intro p c q h
    obtain ⟨q₁, h₁, hrest⟩ := Option.bind_eq_some.mp h
    have hk := hks k (List.mem_cons_self _ _)
    have hround₁ : (Protocol.round q₁.1).toNat = (Protocol.round p).toNat + 1 := by
      rw [round_toNat_of_call h₁, hk]
      rfl
    obtain ⟨hround, hcount⟩ := ih (fun k' hk' => hks k' (List.mem_cons_of_mem _ hk')) hrest
    refine ⟨by rw [hround, hround₁, List.length_cons]; omega, ?_⟩
    cases k with
    | init => cases hk
    | advance => simpa using hcount
    | finalize =>
      cases ks with
      | nil => simp
      | cons k' ks =>
        obtain ⟨q₂, h₂, -⟩ := Option.bind_eq_some.mp hrest
        have := isInit_of_call_after_finalize h₁ h₂
        rw [hks k' (List.mem_cons_of_mem _ (List.mem_cons_self _ _))] at this
        cases this

theorem lastRound_run : ∀ {ks : List Call} {p : P} {c : C} {q : P × C}, run ks p c = some q → lastRound q.1 = lastRound p
  | [], _, _, _, h => by cases h; rfl
  | _ :: _, _, _, _, h => by
    obtain ⟨q₁, h₁, h⟩ := Option.bind_eq_some.mp h
    exact (lastRound_run h).trans (LawfulProtocol.lastRound_call h₁)

/-- In a stretch without `initialize` that another such call follows, `finalize` does not complete. -/
theorem finalize_not_mem {k : Call} (hk : k.isInit = false) :
    ∀ {ks : List Call}, (∀ k' ∈ ks, k'.isInit = false) → ∀ {p : P} {c : C} {q : P × C},
      run (ks ++ [k]) p c = some q → Call.finalize ∉ ks
  | [], _, _, _, _, _ => List.not_mem_nil _
  | k₁ :: ks, hks, _, _, _, h => by
    obtain ⟨q₁, h₁, h⟩ := Option.bind_eq_some.mp h
    change run (ks ++ [k]) q₁.1 q₁.2 = some _ at h
    have hnext : ∃ k₂ rest, ks ++ [k] = k₂ :: rest ∧ k₂.isInit = false := by
      cases ks with
      | nil => exact ⟨k, [], rfl, hk⟩
      | cons k₂ rest => exact ⟨k₂, rest ++ [k], rfl, hks k₂ (List.mem_cons_of_mem _ (List.mem_cons_self _ _))⟩
    obtain ⟨k₂, rest, hsplit, hk₂⟩ := hnext
    obtain ⟨q₂, h₂, -⟩ := Option.bind_eq_some.mp (hsplit ▸ h : run (k₂ :: rest) q₁.1 q₁.2 = some _)
    rintro (_ | ⟨_, hmem⟩)
    · rw [isInit_of_call_after_finalize h₁ h₂] at hk₂
      cases hk₂
    · exact finalize_not_mem hk (fun k' hk' => hks k' (List.mem_cons_of_mem _ hk')) h hmem

/-- A run that ends in a `finalize` that completes makes exactly `last_round - 1` calls of `advance`
    after its last `initialize`, and nothing else, whatever came before: one relay for each round
    between the init messages and the final message. -/
theorem session_advances {pre post : List Call} {data : Bytes} (hpost : ∀ k ∈ post, k.isInit = false)
    {p : P} {c : C} {q : P × C} (h : run (pre ++ .init data :: post ++ [.finalize]) p c = some q) :
    post = List.replicate ((lastRound p).toNat - 1) .advance := by
  rw [List.append_assoc, run_append] at h
  obtain ⟨q₀, h₀, h⟩ := Option.bind_eq_some.mp h
  obtain ⟨q₁, h₁, h⟩ := Option.bind_eq_some.mp h
  change run (post ++ [.finalize]) q₁.1 q₁.2 = some q at h
  have hround₁ : (Protocol.round q₁.1).toNat = 1 := by
    rw [round_toNat_of_call h₁]
    rfl
  have hno := finalize_not_mem (k := .finalize) rfl hpost h
  rw [run_append] at h
  obtain ⟨q₂, h₂, h⟩ := Option.bind_eq_some.mp h
  obtain ⟨q₃, h₃, -⟩ := Option.bind_eq_some.mp h
  have hstretch := run_without_initialize hpost h₂
  have hfin := (round_of_call h₃).1
  rw [Call.allowed_finalize, decide_eq_true_eq, hstretch.1, hround₁, lastRound_run h₂,
    LawfulProtocol.lastRound_call h₁, lastRound_run h₀] at hfin
  refine List.eq_replicate_iff.mpr ⟨by omega, fun k hk => ?_⟩
  cases k with
  | init => cases hpost _ hk
  | advance => rfl
  | finalize => exact absurd hk hno
end

/-! ### The round discipline of a protocol -/

/-- What the calls of `P` on a communicator of type `C` do to the round, from the instance `fresh`
    on: a call completes exactly when its assertion passes; `initialize` sets the round to one and
    `advance` and `finalize` raise it by one; over every run the round stays at most one past the
    last round; and in every stretch of a run without `initialize` the round rises by one per call
    and `finalize` completes at most once. -/
structure RoundDiscipline (P : Type) [Protocol P] (C : Type) [Communicator C] (fresh : P) : Prop where
  window : ∀ (p : P) (c : C) (k : Call),
    (Protocol.call p c k).isSome = k.allowed (Protocol.lastRound p) (Protocol.round p)
  round_call : ∀ (p : P) (c : C) (k : Call) (q : P × C), Protocol.call p c k = some q →
    (Protocol.round q.1).toNat = if k.isInit then 1 else (Protocol.round p).toNat + 1
  bounded : ∀ (ks : List Call) (c : C) (q : P × C), Protocol.run ks fresh c = some q →
    (Protocol.round q.1).toNat ≤ (Protocol.lastRound fresh).toNat + 1
  stretch : ∀ (ks₁ ks₂ : List Call) (c : C) (q : P × C), Protocol.run (ks₁ ++ ks₂) fresh c = some q →
    (∀ k ∈ ks₂, k.isInit = false) → ∃ q₁, Protocol.run ks₁ fresh c = some q₁ ∧
      (Protocol.round q.1).toNat = (Protocol.round q₁.1).toNat + ks₂.length ∧ ks₂.count .finalize ≤ 1

/-- A protocol whose calls follow `Call.step` keeps the round discipline from every instance whose
    round is at most one past its last round. -/
theorem LawfulProtocol.roundDiscipline {P : Type} [Protocol P] [LawfulProtocol P] (C : Type) [Communicator C]
    (fresh : P) (h : (Protocol.round fresh).toNat ≤ (Protocol.lastRound fresh).toNat + 1) :
    RoundDiscipline P C fresh where
  window := call_isSome
  round_call _ _ _ _ := round_toNat_of_call
  bounded ks c q hq := by
    obtain ⟨hlast, hround⟩ := round_le_of_run hq h
    rwa [hlast] at hround
  stretch ks₁ ks₂ c q hq hks := by
    rw [Protocol.run_append] at hq
    obtain ⟨q₁, h₁, h₂⟩ := Option.bind_eq_some.mp hq
    exact ⟨q₁, h₁, run_without_initialize hks h₂⟩

end MeesignServer
