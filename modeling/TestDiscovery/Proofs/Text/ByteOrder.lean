/-
# TestDiscovery.Proofs.Text.ByteOrder -- texts in the order of their bytes

The order of texts is that of their UTF-8 bytes (`Utf8.encode_lt_encode`).  A smaller
character has smaller bytes, whatever follows them: with fewer bytes its first byte is
smaller, and with as many the bytes differ where the code points do.
-/
import TestDiscovery.Text.Utf8
import Mathlib.Tactic.SplitIfs

namespace TestDiscovery.Text.Utf8

set_option autoImplicit false

theorem encode_eq_flatMap (s : String) : encode s = s.toList.flatMap String.utf8EncodeChar := by
  have bytes : s.toByteArray = s.toList.utf8Encode := by
    rw [← String.toByteArray_ofList, String.ofList_toList]
  rw [encode, bytes, List.utf8Encode, List.data_toByteArray, List.toList_toArray]

/-! ## Characters -/

theorem ofNat_cons_lt_iff {a b : Nat} {xs ys : List UInt8} :
    UInt8.ofNat a :: xs < UInt8.ofNat b :: ys ↔
      a % 256 < b % 256 ∨ a % 256 = b % 256 ∧ xs < ys := by
  rw [List.cons_lt_cons_iff, UInt8.lt_iff_toNat_lt, ← UInt8.toNat_inj, UInt8.toNat_ofNat',
    UInt8.toNat_ofNat']

/-- A smaller character has smaller bytes, whatever follows. -/
theorem utf8EncodeChar_append_lt {c d : Char} (h : c < d) (xs ys : List UInt8) :
    String.utf8EncodeChar c ++ xs < String.utf8EncodeChar d ++ ys := by
  have less : c.val.toNat < d.val.toNat := h
  have bound : d.val.toNat < 0x110000 := by
    rcases d.valid with low | ⟨-, high⟩
    · exact Nat.lt_trans low (by decide)
    · exact high
  unfold String.utf8EncodeChar
  generalize c.val.toNat = v at less
  generalize d.val.toNat = w at less bound
  dsimp only
  -- The cases are the lengths of the two; in each the bytes are compared from the first on.
  split_ifs
  all_goals
    simp (disch := omega) only [List.cons_append, List.nil_append, ofNat_cons_lt_iff,
      Nat.mod_eq_of_lt]
    omega

/-! ## Texts -/

theorem append_lt_append {xs ys : List UInt8} (h : xs < ys) (front : List UInt8) :
    front ++ xs < front ++ ys := by
  induction front with
  | nil => exact h
  | cons b front ih => exact List.cons_lt_cons_iff.2 (.inr ⟨rfl, ih⟩)

theorem flatMap_utf8EncodeChar_lt {cs ds : List Char} (h : cs < ds) :
    cs.flatMap String.utf8EncodeChar < ds.flatMap String.utf8EncodeChar := by
  induction cs generalizing ds with
  | nil =>
      cases ds with
      | nil => cases h
      | cons d ds =>
          have some_ : (d :: ds).flatMap String.utf8EncodeChar ≠ [] := by
            simp [String.utf8EncodeChar_ne_nil]
          obtain ⟨b, bytes, shape⟩ := List.exists_cons_of_ne_nil some_
          rw [shape]
          exact List.nil_lt_cons b bytes
  | cons c cs ih =>
      cases ds with
      | nil => cases h
      | cons d ds =>
          rw [List.flatMap_cons, List.flatMap_cons]
          rcases List.cons_lt_cons_iff.1 h with first | ⟨rfl, rest⟩
          · exact utf8EncodeChar_append_lt first _ _
          · exact append_lt_append (ih rest) _

/-- **A smaller text has smaller bytes.** -/
theorem encode_lt_encode {s t : String} (h : s < t) : encode s < encode t := by
  rw [encode_eq_flatMap, encode_eq_flatMap]
  exact flatMap_utf8EncodeChar_lt (String.lt_iff.1 h)

/-- Texts are in the order of their bytes. -/
theorem encode_lt_encode_iff {s t : String} : encode s < encode t ↔ s < t := by
  refine ⟨fun less => Decidable.byContradiction fun notLess => ?_, encode_lt_encode⟩
  by_cases same : s = t
  · subst same
    exact List.lt_irrefl _ less
  · have greater : t < s := Decidable.byContradiction fun notGreater =>
      same (String.le_antisymm (String.not_lt.1 notGreater) (String.not_lt.1 notLess))
    exact List.lt_asymm less (encode_lt_encode greater)

end TestDiscovery.Text.Utf8
