/-
# TestDiscovery.Proofs.Pattern.Rounds -- a relation, round after round

`Rounds R k i j` leads from `i` to `j` in exactly `k` rounds of `R`.  When no round
leads backward, more rounds than there are positions between the two ends have an
idle one among them (`exists_idle`).  An idle round can be left out or made again, so
beyond that number it does not matter how many rounds are made
(`rounds_iff_of_lt_of_le`).
-/
import Mathlib.Order.Basic
import Mathlib.Order.Nat

namespace TestDiscovery.Pattern

set_option autoImplicit false

/-- `k` rounds of a relation, one after the other. -/
inductive Rounds (R : Nat → Nat → Prop) : Nat → Nat → Nat → Prop
  | none (i : Nat) : Rounds R 0 i i
  | more {k i j l : Nat} (first : R i j) (rest : Rounds R k j l) : Rounds R (k + 1) i l

variable {R : Nat → Nat → Prop} {k n i j l : Nat}

theorem rounds_zero_iff : Rounds R 0 i j ↔ i = j := by
  constructor
  · rintro ⟨⟩
    rfl
  · rintro rfl
    exact .none i

theorem rounds_succ_iff : Rounds R (k + 1) i j ↔ ∃ l, R i l ∧ Rounds R k l j := by
  constructor
  · rintro (_ | ⟨first, rest⟩)
    exact ⟨_, first, rest⟩
  · rintro ⟨l, first, rest⟩
    exact .more first rest

theorem rounds_add_iff (m : Nat) :
    Rounds R (k + m) i j ↔ ∃ l, Rounds R k i l ∧ Rounds R m l j := by
  induction k generalizing i with
  | zero =>
      rw [Nat.zero_add]
      simp only [rounds_zero_iff, exists_eq_left']
  | succ k ih =>
      rw [Nat.add_right_comm, rounds_succ_iff]
      constructor
      · rintro ⟨a, first, rest⟩
        obtain ⟨b, front, back⟩ := ih.1 rest
        exact ⟨b, .more first front, back⟩
      · rintro ⟨b, front, back⟩
        obtain ⟨a, first, rest⟩ := rounds_succ_iff.1 front
        exact ⟨a, first, ih.2 ⟨b, rest, back⟩⟩

/-- Rounds that may be left out are some smaller number of rounds. -/
theorem rounds_optional_iff :
    Rounds (fun a b => a = b ∨ R a b) k i j ↔ ∃ m ≤ k, Rounds R m i j := by
  induction k generalizing i with
  | zero =>
      rw [rounds_zero_iff]
      constructor
      · rintro rfl
        exact ⟨0, Nat.le_refl 0, .none i⟩
      · rintro ⟨m, le, rounds⟩
        obtain rfl : m = 0 := Nat.le_zero.1 le
        exact rounds_zero_iff.1 rounds
  | succ k ih =>
      rw [rounds_succ_iff]
      constructor
      · rintro ⟨l, rfl | first, rest⟩
        · obtain ⟨m, le, rounds⟩ := ih.1 rest
          exact ⟨m, Nat.le_succ_of_le le, rounds⟩
        · obtain ⟨m, le, rounds⟩ := ih.1 rest
          exact ⟨m + 1, Nat.succ_le_succ le, .more first rounds⟩
      · rintro ⟨m, le, rounds⟩
        cases rounds with
        | none => exact ⟨_, Or.inl rfl, ih.2 ⟨0, Nat.zero_le k, .none _⟩⟩
        | more first rest => exact ⟨_, Or.inr first, ih.2 ⟨_, Nat.le_of_succ_le_succ le, rest⟩⟩

/-! ## Rounds that do not lead backward -/

section Forward

variable (forward : ∀ a b, R a b → a ≤ b)

include forward

theorem Rounds.le (rounds : Rounds R k i j) : i ≤ j := by
  induction rounds with
  | none i => exact Nat.le_refl i
  | more first _ ih => exact Nat.le_trans (forward _ _ first) ih

/-- **More rounds than positions have an idle one among them.** -/
theorem exists_idle (rounds : Rounds R k i j) (many : j - i < k) :
    ∃ a b l, k = a + 1 + b ∧ Rounds R a i l ∧ R l l ∧ Rounds R b l j := by
  induction rounds with
  | none i => omega
  | @more k i m j first rest ih =>
      rcases Nat.lt_or_eq_of_le (forward _ _ first) with moved | rfl
      · have := rest.le forward
        obtain ⟨a, b, l, rfl, front, idle, back⟩ := ih (by omega)
        exact ⟨a + 1, b, l, by omega, .more first front, idle, back⟩
      · exact ⟨0, k, i, by omega, .none i, first, rest⟩

theorem rounds_succ_iff_of_lt (many : j - i < k) : Rounds R (k + 1) i j ↔ Rounds R k i j := by
  constructor
  · intro rounds
    obtain ⟨a, b, l, count, front, -, back⟩ := exists_idle forward rounds (by omega)
    obtain rfl : k = a + b := by omega
    exact (rounds_add_iff b).2 ⟨l, front, back⟩
  · intro rounds
    obtain ⟨a, b, l, rfl, front, idle, back⟩ := exists_idle forward rounds many
    rw [Nat.add_right_comm, Nat.add_assoc, Nat.add_assoc]
    exact (rounds_add_iff _).2 ⟨l, front, by
      rw [← Nat.add_assoc, Nat.add_comm]; exact .more idle (.more idle back)⟩

/-- **Beyond the number of positions it does not matter how many rounds are made.** -/
theorem rounds_iff_of_lt_of_le (many : j - i < n) (le : n ≤ k) :
    Rounds R k i j ↔ Rounds R n i j := by
  induction k, le using Nat.le_induction with
  | base => exact Iff.rfl
  | succ k le ih => exact (rounds_succ_iff_of_lt forward (by omega)).trans ih

end Forward

end TestDiscovery.Pattern
