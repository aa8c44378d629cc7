/-
# TestDiscovery.Proofs.Pattern.Significant -- what a text holds for its readers

A pattern may be followed by what closes a group around it and ends the text
(`closing`).  A reader is settled (`Settled`) when it stays within the text it reads
and finds the same in a text that goes on with `closing`.

Readers that pass over white space and comments look at the `significant`
characters.  Those of the longer text are those of the shorter one and closing
characters behind them (`significant_closing`), of which there are none when the
text ends inside a comment.
-/
import TestDiscovery.Pattern.Lexer
import TestDiscovery.Proofs.Outcome
import Mathlib.Data.List.TakeWhile

namespace TestDiscovery.Pattern

set_option autoImplicit false

open TestDiscovery.Text (isSpace Reading)

/-- What closes a group around a pattern and then binds it to the end of the text. -/
def closing : List Char := [')', '$']

/-- The reader stays within the text, and finds the same when the text goes on with `closing`. -/
def Settled {α : Type} (read : List Char → Except Fault (Reading α)) : Prop :=
  ∀ cs r, read cs = .ok r → r.length ≤ cs.length ∧ read (cs ++ closing) = .ok r

/-! ## Beginnings of lists -/

theorem takeWhile_append_of_drop_eq_cons {α : Type} {p : α → Bool} {xs rest : List α} {x : α}
    (h : xs.drop (xs.takeWhile p).length = x :: rest) (ys : List α) :
    (xs ++ ys).takeWhile p = xs.takeWhile p ∧
      (xs ++ ys).drop (xs.takeWhile p).length = x :: (rest ++ ys) ∧ x ∈ xs := by
  have shorter : (xs.takeWhile p).length < xs.length := by
    have := congrArg List.length h
    rw [List.length_drop, List.length_cons] at this
    omega
  refine ⟨?_, ?_, List.mem_of_mem_drop (h ▸ List.mem_cons_self)⟩
  · rw [List.takeWhile_append, if_neg (by omega)]
  · rw [List.drop_append_of_le_length (by omega), h, List.cons_append]

/-! ## Significant characters -/

/-- A closing character. -/
def IsCloser (p : Placed) : Prop := p.1 = ')' ∨ p.1 = '$'

theorem placed_append (n : Nat) (xs ys : List Char) :
    placed n (xs ++ ys) = placed n xs ++ placed (n + xs.length) ys := by
  induction xs generalizing n with
  | nil => rfl
  | cons x xs ih =>
      rw [List.cons_append, placed, placed, ih, List.cons_append, List.length_cons]
      congr 3
      omega

theorem exists_placedCode_append (comment : Bool) (n : Nat) (xs ys : List Char) :
    ∃ inside m, placedCode comment n (xs ++ ys) =
      placedCode comment n xs ++ placedCode inside m ys := by
  induction xs generalizing comment n with
  | nil => exact ⟨comment, n, rfl⟩
  | cons x xs ih =>
      simp only [List.cons_append, placedCode]
      split
      · exact ih _ _
      · split
        · exact ih _ _
        · split
          · exact ih _ _
          · obtain ⟨inside, m, same⟩ := ih false (n + 1)
            exact ⟨inside, m, by rw [same, List.cons_append]⟩

theorem mem_of_mem_placed {n : Nat} {cs : List Char} {p : Placed} (h : p ∈ placed n cs) :
    p.1 ∈ cs ∧ p.2 ≤ n + cs.length := by
  induction cs generalizing n with
  | nil => cases h
  | cons c cs ih =>
      rw [List.length_cons]
      rcases List.mem_cons.1 h with rfl | h
      · exact ⟨List.mem_cons_self, by omega⟩
      · obtain ⟨here, place⟩ := ih h
        exact ⟨List.mem_cons_of_mem c here, by omega⟩

theorem mem_of_mem_placedCode {comment : Bool} {n : Nat} {cs : List Char} {p : Placed}
    (h : p ∈ placedCode comment n cs) : p.1 ∈ cs ∧ p.2 ≤ n + cs.length := by
  induction cs generalizing comment n with
  | nil => cases h
  | cons c cs ih =>
      have later : ∀ {inside : Bool}, p ∈ placedCode inside (n + 1) cs →
          p.1 ∈ c :: cs ∧ p.2 ≤ n + (c :: cs).length := by
        intro inside h
        obtain ⟨here, place⟩ := ih h
        exact ⟨List.mem_cons_of_mem c here, by rw [List.length_cons]; omega⟩
      rw [placedCode] at h
      split at h
      · exact later h
      · split at h
        · exact later h
        · split at h
          · exact later h
          · rcases List.mem_cons.1 h with rfl | h
            · exact ⟨List.mem_cons_self, by rw [List.length_cons]; omega⟩
            · exact later h

theorem le_length_of_mem_significant {verbose : Bool} {cs : List Char} {p : Placed}
    (h : p ∈ significant verbose cs) : p.2 ≤ cs.length := by
  unfold significant at h
  split at h
  · have := (mem_of_mem_placedCode h).2
    omega
  · have := (mem_of_mem_placed h).2
    omega

/-- **The text that goes on with `closing` has closing characters behind its own**, which keep
their places. -/
theorem significant_closing (verbose : Bool) (cs : List Char) :
    ∃ more, significant verbose (cs ++ closing) = significant verbose cs ++ more ∧
      (∀ p ∈ significant verbose cs, p.2 ≤ cs.length) ∧ ∀ p ∈ more, IsCloser p := by
  have closer : ∀ {p : Placed}, p.1 ∈ closing → IsCloser p := by
    intro p h
    simpa [closing, IsCloser] using h
  have places : ∀ p ∈ significant verbose cs, p.2 ≤ cs.length :=
    fun p hp => le_length_of_mem_significant hp
  cases verbose with
  | true =>
      obtain ⟨inside, m, same⟩ := exists_placedCode_append false 0 cs closing
      exact ⟨_, same, places, fun p h => closer (mem_of_mem_placedCode h).1⟩
  | false =>
      exact ⟨_, placed_append 0 cs closing, places, fun p h => closer (mem_of_mem_placed h).1⟩

theorem placed_eq_cons {cs : List Char} {m n : Nat} {c : Char} {after : List Placed}
    (h : placed m cs = (c, n) :: after) :
    m < n ∧ n ≤ m + cs.length ∧ after = placed n (cs.drop (n - m)) := by
  cases cs with
  | nil => cases h
  | cons d cs =>
      cases h
      refine ⟨Nat.lt_succ_self m, ?_, ?_⟩
      · rw [List.length_cons]
        omega
      · rw [Nat.add_sub_cancel_left, List.drop_succ_cons, List.drop_zero]

theorem placedCode_eq_cons {comment : Bool} {cs : List Char} {m n : Nat} {c : Char}
    {after : List Placed} (h : placedCode comment m cs = (c, n) :: after) :
    m < n ∧ n ≤ m + cs.length ∧ after = placedCode false n (cs.drop (n - m)) := by
  induction cs generalizing comment m with
  | nil => cases h
  | cons d cs ih =>
      have later : ∀ {inside : Bool}, placedCode inside (m + 1) cs = (c, n) :: after →
          m < n ∧ n ≤ m + (d :: cs).length ∧
            after = placedCode false n ((d :: cs).drop (n - m)) := by
        intro inside h
        obtain ⟨low, high, rest⟩ := ih h
        have next : n - m = (n - (m + 1)) + 1 := by omega
        refine ⟨by omega, ?_, ?_⟩
        · rw [List.length_cons]
          omega
        · rw [rest, next, List.drop_succ_cons]
      rw [placedCode] at h
      split at h
      · exact later h
      · split at h
        · exact later h
        · split at h
          · exact later h
          · cases h
            refine ⟨Nat.lt_succ_self m, ?_, ?_⟩
            · rw [List.length_cons]
              omega
            · rw [Nat.add_sub_cancel_left, List.drop_succ_cons, List.drop_zero]

/-- What counts behind the first significant character. -/
theorem significant_eq_cons {verbose : Bool} {cs : List Char} {c : Char} {n : Nat}
    {after : List Placed} (h : significant verbose cs = (c, n) :: after) :
    after = if verbose then placedCode false n (cs.drop n) else placed n (cs.drop n) := by
  unfold significant at h
  split at h
  · rename_i isVerbose
    rw [if_pos isVerbose, (placedCode_eq_cons h).2.2, Nat.sub_zero]
  · rename_i notVerbose
    rw [if_neg notVerbose, (placed_eq_cons h).2.2, Nat.sub_zero]

end TestDiscovery.Pattern
