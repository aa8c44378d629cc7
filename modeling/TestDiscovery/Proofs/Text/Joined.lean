/-
# TestDiscovery.Proofs.Text.Joined -- what a joined list tells of its parts

A list that is joined with a separator of two different characters can be told from
the joined text, as long as no part has the separator in it (`eq_of_intercalate_eq`).
That a part begins or ends with one of the two characters does no harm.
-/
import Mathlib.Data.List.Basic

namespace TestDiscovery.Text

set_option autoImplicit false

variable {x y : Char}

/-- A text without the separator in it ends before the first separator of a joined text. -/
theorem isPrefix_of_append_eq (ne : x ≠ y) {p q r s : List Char} (free : ¬ [x, y] <:+: q)
    (h : p ++ x :: y :: r = q ++ x :: y :: s) : q <+: p := by
  rcases List.append_eq_append_iff.1 h with ⟨more, longer, rest⟩ | ⟨more, longer, -⟩
  · cases more with
    | nil => exact ⟨[], by simpa using longer⟩
    | cons a more =>
        cases more with
        | nil =>
            obtain ⟨-, rest⟩ := List.cons.inj rest
            exact absurd (List.cons.inj rest).1.symm ne
        | cons b more =>
            obtain ⟨rfl, others⟩ := List.cons.inj rest
            obtain ⟨rfl, -⟩ := List.cons.inj others
            exact absurd ⟨p, more, by simp [longer]⟩ free
  · exact ⟨more, longer.symm⟩

theorem parts_eq_of_joined_eq (ne : x ≠ y) {p q r s : List Char} (hp : ¬ [x, y] <:+: p)
    (hq : ¬ [x, y] <:+: q) (h : p ++ x :: y :: r = q ++ x :: y :: s) : p = q ∧ r = s := by
  have before : q <+: p := isPrefix_of_append_eq ne hq h
  have after : p <+: q := isPrefix_of_append_eq ne hp h.symm
  obtain rfl : p = q := after.eq_of_length_le before.length_le
  simpa using h

/-- A text without the separator in it is no joined list of two parts or more. -/
theorem ne_intercalate_of_free {p : List Char} (free : ¬ [x, y] <:+: p) (q q' : List Char)
    (qs : List (List Char)) : p ≠ [x, y].intercalate (q :: q' :: qs) := by
  rintro rfl
  rw [List.intercalate_cons_cons] at free
  exact free ⟨q, [x, y].intercalate (q' :: qs), by simp⟩

/-- **A list that is not empty can be told from its joined text**, if its parts are free of the
separator.  No separator can lie across the border of a part, as its two characters differ. -/
theorem eq_of_intercalate_eq (ne : x ≠ y) {p q : List Char} {ps qs : List (List Char)}
    (freeP : ∀ part ∈ p :: ps, ¬ [x, y] <:+: part) (freeQ : ∀ part ∈ q :: qs, ¬ [x, y] <:+: part)
    (h : [x, y].intercalate (p :: ps) = [x, y].intercalate (q :: qs)) : p :: ps = q :: qs := by
  obtain ⟨headP, restP⟩ := List.forall_mem_cons.1 freeP
  obtain ⟨headQ, restQ⟩ := List.forall_mem_cons.1 freeQ
  induction ps generalizing p q qs with
  | nil =>
      rw [List.intercalate_singleton] at h
      cases qs with
      | nil => rw [h, List.intercalate_singleton]
      | cons q' qs => exact absurd h (ne_intercalate_of_free headP q q' qs)
  | cons p' ps ih =>
      cases qs with
      | nil =>
          rw [List.intercalate_singleton] at h
          exact absurd h.symm (ne_intercalate_of_free headQ p p' ps)
      | cons q' qs =>
          simp only [List.intercalate_cons_cons, List.append_assoc, List.cons_append,
            List.nil_append] at h
          obtain ⟨rfl, rest⟩ := parts_eq_of_joined_eq ne headP headQ h
          obtain ⟨headP', restP'⟩ := List.forall_mem_cons.1 restP
          obtain ⟨headQ', restQ'⟩ := List.forall_mem_cons.1 restQ
          rw [ih restP restQ rest headP' restP' headQ' restQ']

end TestDiscovery.Text
