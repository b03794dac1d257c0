import Mathlib.Data.List.AList

/-! What both versions of the coordinator share: byte strings, the `HashMap`s of the source as
    association lists, how a call that may panic ends, and the character classes of the name
    checks. -/

namespace MeesignServer

/-- A `Vec<u8>` or `&[u8]` of the source. -/
abbrev Bytes := List UInt8

/-- A `HashMap<K, V>` of the source, one entry per key. The order of `entries` stands for the order
    in which the hash map yields its entries, which the source leaves unspecified. -/
abbrev Map (κ ν : Type) := AList (fun _ : κ => ν)

/-- How a call of the coordinator ends. `value` is what it returns, `none` when it panics (an
    `unwrap` of `None` or of an `Err`, a failed `assert!`). `state` is what the call leaves behind in
    both cases: a panic unwinds without undoing what the call changed before it, and the `tokio`
    lock around the state does not poison, so the next request sees that state. -/
structure Outcome (σ α : Type) where
  state : σ
  value : Option α

/-! ### Character classes -/

/-- `char::is_ascii_punctuation`: `!` to `/`, `:` to `@`, `[` to the backtick, `{` to `~`. -/
def isAsciiPunctuation (c : Char) : Bool :=
  (33 ≤ c.toNat && c.toNat ≤ 47) || (58 ≤ c.toNat && c.toNat ≤ 64) ||
    (91 ≤ c.toNat && c.toNat ≤ 96) || (123 ≤ c.toNat && c.toNat ≤ 126)

/-- `char::is_control`: the general category `Cc`, that is `U+0000` to `U+001F` and `U+007F` to
    `U+009F`. -/
def isControl (c : Char) : Bool :=
  c.toNat ≤ 31 || (127 ≤ c.toNat && c.toNat ≤ 159)

/-! ### Lists -/

theorem foldl_append_eq_flatten {α : Type} :
    ∀ (l : List (List α)) (acc : List α), l.foldl (· ++ ·) acc = acc ++ l.flatten
  | [], acc => by simp
  | x :: l, acc => by simp [foldl_append_eq_flatten l (acc ++ x)]

theorem mem_of_mapM_eq_some {α β : Type} {f : α → Option β} :
    ∀ {l : List α} {l' : List β}, l.mapM f = some l' → ∀ b ∈ l', ∃ a ∈ l, f a = some b
  | [], l', h, b, hb => by rw [List.mapM_nil] at h; cases h; simp at hb
  | a :: l, l', h, b, hb => by
    simp only [List.mapM_cons, Option.bind_eq_bind, Option.bind_eq_some, Option.pure_def, Option.some.injEq] at h
    obtain ⟨b', hb', bs, hbs, rfl⟩ := h
    rcases List.mem_cons.mp hb with rfl | hb
    · exact ⟨a, List.mem_cons_self _ _, hb'⟩
    · obtain ⟨a', ha', hfa⟩ := mem_of_mapM_eq_some hbs b hb
      exact ⟨a', List.mem_cons_of_mem _ ha', hfa⟩

/-! ### Maps -/

theorem lookup_insert_eq_some {κ ν : Type} [DecidableEq κ] {m : Map κ ν} {k k' : κ} {v v' : ν} :
    (m.insert k v).lookup k' = some v' ↔ (k' = k ∧ v = v') ∨ (k' ≠ k ∧ m.lookup k' = some v') := by
  by_cases h : k' = k
  · subst h; simp [AList.lookup_insert]
  · simp [AList.lookup_insert_ne h, h]

/-- Inserting under a key the map does not have keeps every entry. -/
theorem lookup_insert_of_not_mem {κ ν : Type} [DecidableEq κ] {m : Map κ ν} {k k' : κ} {v v' : ν}
    (hk : k ∉ m) (h : m.lookup k' = some v') : (m.insert k v).lookup k' = some v' := by
  have hne : k' ≠ k := by
    rintro rfl
    rw [AList.lookup_eq_none.mpr hk] at h
    cases h
  rwa [AList.lookup_insert_ne hne]

end MeesignServer
