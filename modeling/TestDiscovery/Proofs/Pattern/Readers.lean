/-
# TestDiscovery.Proofs.Pattern.Readers -- readers at the end of a pattern

The readers of escapes, of counts and of what a parenthesis starts are settled: what
they read in a pattern alone takes in nothing of what follows it, and they read the
same when something does.
-/
import TestDiscovery.Proofs.Pattern.Significant

namespace TestDiscovery.Pattern

set_option autoImplicit false

open TestDiscovery.Text (isSpace cutAt cutAt_append eq_append_of_cutAt Reading)

/-! ## Escapes -/

theorem settled_hexEscape (digits : Nat) (verbose : Bool) : Settled (hexEscape digits verbose) := by
  intro cs r h
  obtain ⟨more, longer, places, -⟩ := significant_closing verbose cs
  unfold hexEscape at h ⊢
  rw [longer]
  generalize significant verbose cs = code at h places ⊢
  split at h
  · rename_i k rest
    simp only [List.cons_append]
    cases stops : rest.drop (rest.takeWhile fun x => x.1 != '\x7d').length with
    | nil => simp [stops] at h
    | cons p after =>
        obtain ⟨body, stop, member⟩ := takeWhile_append_of_drop_eq_cons stops more
        simp only [stops] at h
        simp only [body, stop]
        refine ⟨?_, h⟩
        split at h
        · obtain ⟨d, -, read⟩ := bind_eq_ok_iff.1 h
          cases read
          exact places p (List.mem_cons_of_mem _ member)
        · cases h
  · rename_i noBrace
    dsimp only at h
    split at h
    · rename_i c n last
      split at h
      · rename_i fixed
        have enough : digits ≤ code.length := by
          have := fixed.1
          rw [List.length_take] at this
          omega
        obtain ⟨d, read, result⟩ := bind_eq_ok_iff.1 h
        cases result
        refine ⟨places _ (List.mem_of_mem_take (List.mem_of_getLast? last)), ?_⟩
        split
        · rename_i k rest same
          cases code with
          | nil => simp at last
          | cons p code =>
              cases same
              exact absurd rfl (noBrace _ _)
        · simp only [List.take_append_of_le_length enough, last, fixed, read]
          rfl
      · cases h
    · cases h

theorem settled_propertyEscape (negated verbose : Bool) :
    Settled (propertyEscape negated verbose) := by
  intro cs r h
  obtain ⟨more, longer, places, -⟩ := significant_closing verbose cs
  unfold propertyEscape at h ⊢
  rw [longer]
  generalize significant verbose cs = code at h places ⊢
  split at h
  · cases h
  · rename_i k rest
    simp only [List.cons_append]
    cases stops : rest.drop (rest.takeWhile fun x => x.1 != '\x7d').length with
    | nil => simp [stops] at h
    | cons p after =>
        obtain ⟨body, stop, member⟩ := takeWhile_append_of_drop_eq_cons stops more
        simp only [stops] at h
        simp only [body, stop]
        cases h
        exact ⟨places p (List.mem_cons_of_mem _ member), rfl⟩
  · cases h
  · rename_i c n rest noBrace noBackslash
    cases h
    refine ⟨places _ List.mem_cons_self, ?_⟩
    rw [List.cons_append]
    split
    · rename_i none_
      cases none_
    · rename_i same
      cases same
      exact absurd rfl noBrace
    · rename_i same
      cases same
      exact absurd rfl noBackslash
    · rename_i same
      cases same
      rfl

theorem settled_boundaryEscape (verbose : Bool) : Settled (boundaryEscape verbose) := by
  intro cs r h
  unfold boundaryEscape at h
  split at h
  · rename_i cs
    obtain ⟨more, longer, places, -⟩ := significant_closing verbose cs
    simp only [boundaryEscape, List.cons_append, longer]
    generalize significant verbose cs = code at h places ⊢
    cases stops : code.drop (code.takeWhile fun x => isBoundaryChar x.1).length with
    | nil =>
        simp only [stops] at h
        split at h
        · cases h
        · rename_i filled
          split at h
          · rename_i none_
            rw [List.isEmpty_iff.1 none_, List.length_nil, List.drop_zero] at stops
            simp [stops] at filled
          · cases h
    | cons p after =>
        obtain ⟨body, stop, member⟩ := takeWhile_append_of_drop_eq_cons stops more
        have filled : code.isEmpty = false ∧ (code ++ more).isEmpty = false := by
          cases code with
          | nil => cases member
          | cons q code => exact ⟨rfl, rfl⟩
        obtain ⟨c, n⟩ := p
        have within := places _ member
        simp only [stops, filled, Bool.false_eq_true, if_false] at h
        simp only [body, stop, filled, Bool.false_eq_true, if_false, List.length_cons]
        split at h
        · rename_i none_
          cases h
          exact ⟨Nat.zero_le _, if_pos none_⟩
        · rename_i some_
          rw [if_neg some_]
          split at h
          · rename_i same
            cases same
            split at h
            · rename_i a named
              cases h
              exact ⟨Nat.succ_le_succ within, rfl⟩
            · cases h
          · cases h
  · rename_i noBrace
    cases h
    refine ⟨Nat.zero_le _, ?_⟩
    unfold boundaryEscape
    split
    · rename_i same
      cases cs with
      | nil => cases same
      | cons c cs =>
          cases same
          exact absurd rfl (noBrace cs)
    · rfl

theorem settled_letterEscape (verbose : Bool) (c : Char) : Settled (letterEscape verbose c) := by
  intro cs r h
  unfold letterEscape at h ⊢
  split at h
  · rename_i hex
    obtain ⟨l, read, result⟩ := bind_eq_ok_iff.1 h
    cases result
    obtain ⟨within, same⟩ := settled_hexEscape _ _ cs l read
    refine ⟨within, ?_⟩
    rw [if_pos hex, same]
    rfl
  · rename_i noHex
    rw [if_neg noHex]
    split at h
    · rename_i property
      rw [if_pos property]
      exact settled_propertyEscape _ _ cs r h
    · rename_i noProperty
      rw [if_neg noProperty]
      split at h
      · rename_i boundary
        rw [if_pos boundary]
        exact settled_boundaryEscape _ cs r h
      · rename_i noBoundary
        rw [if_neg noBoundary]
        refine ⟨?_, h⟩
        split at h
        · cases h
          exact Nat.zero_le _
        · split at h
          · cases h
            exact Nat.zero_le _
          · split at h
            · cases h
              exact Nat.zero_le _
            · split at h
              · cases h
                exact Nat.zero_le _
              · cases h

theorem settled_escape (verbose : Bool) : Settled (escape verbose) := by
  intro cs r h
  cases cs with
  | nil => cases h
  | cons c cs =>
      obtain ⟨a, read, result⟩ := bind_eq_ok_iff.1 h
      cases result
      obtain ⟨within, same⟩ := settled_letterEscape verbose c cs a read
      refine ⟨Nat.succ_le_succ within, ?_⟩
      rw [List.cons_append, escape, same]
      rfl

/-! ## Repetitions -/

theorem dropWhile_append_of_ne_nil {α : Type} {p : α → Bool} {xs : List α}
    (h : xs.dropWhile p ≠ []) (ys : List α) :
    (xs ++ ys).dropWhile p = xs.dropWhile p ++ ys := by
  rw [List.dropWhile_append, if_neg (by simpa using h)]

/-- A count that something follows is not touched by what comes after that. -/
theorem count_append {code : List Placed} {m : Option Nat} {p : Placed} {rest : List Placed}
    (h : count code = (m, p :: rest)) (more : List Placed) :
    count (code ++ more) = (m, p :: (rest ++ more)) ∧ ∀ q ∈ p :: rest, q ∈ code := by
  obtain ⟨number, stops⟩ := Prod.mk.inj h
  have started : code.dropWhile (fun x => isSpace x.1) ≠ [] := by
    intro none_
    simp [none_] at stops
  generalize front : code.dropWhile (fun x => isSpace x.1) = digits at number stops started
  cases after : digits.drop (digits.takeWhile fun x => x.1.isDigit).length with
  | nil => simp [after] at stops
  | cons q others =>
      obtain ⟨body, stop, -⟩ := takeWhile_append_of_drop_eq_cons after more
      have ended : (q :: others).dropWhile (fun x => isSpace x.1) ≠ [] := by
        rw [← after, stops]
        exact List.cons_ne_nil p rest
      constructor
      · have longer := dropWhile_append_of_ne_nil (front ▸ started) more
        simp only [count, longer, front, body, stop]
        rw [← List.cons_append, dropWhile_append_of_ne_nil ended, ← after, stops, number,
          List.cons_append]
      · intro x member
        rw [← stops] at member
        have inDigits := List.mem_of_mem_drop ((List.dropWhile_sublist _).subset member)
        rw [← front] at inDigits
        exact (List.dropWhile_sublist _).subset inDigits

theorem lazyMark_cons (c : Char) (k : Nat) (rest : List Placed) (n : Nat) :
    lazyMark ((c, k) :: rest) n = if c = '?' then k else n := by
  unfold lazyMark
  split
  · rename_i same
    cases same
    rfl
  · rename_i noMark
    rw [if_neg fun mark => noMark k rest (by rw [mark])]

/-- A closing character is no question mark. -/
theorem lazyMark_append {more : List Placed} (closers : ∀ p ∈ more, IsCloser p)
    (rest : List Placed) (n : Nat) : lazyMark (rest ++ more) n = lazyMark rest n := by
  cases rest with
  | nil =>
      cases more with
      | nil => rfl
      | cons p more =>
          obtain ⟨c, k⟩ := p
          obtain rfl | rfl : c = ')' ∨ c = '$' := closers _ List.mem_cons_self
          · rfl
          · rfl
  | cons p rest => rw [List.cons_append, lazyMark_cons, lazyMark_cons]

theorem lazyMark_le {c : Char} {rest : List Placed} {n size : Nat}
    (places : ∀ p ∈ (c, n) :: rest, p.2 ≤ size) : lazyMark rest n ≤ size := by
  unfold lazyMark
  split
  · exact places _ (List.mem_cons_of_mem _ List.mem_cons_self)
  · exact places _ List.mem_cons_self

theorem length_of_bounds {lo length : Nat} {hi : Option Nat} {r : Reading Lexeme}
    (h : bounds lo hi length = .ok r) : r.length = length := by
  unfold bounds at h
  split at h
  · cases h
    rfl
  · cases h

theorem settled_counted (verbose : Bool) : Settled (counted verbose) := by
  intro cs r h
  obtain ⟨more, longer, places, closers⟩ := significant_closing verbose cs
  unfold counted at h ⊢
  rw [longer]
  generalize significant verbose cs = code at h places ⊢
  split at h
  · rename_i lo n rest read
    obtain ⟨same, members⟩ := count_append read more
    simp only [same, lazyMark_append closers]
    rw [length_of_bounds h]
    exact ⟨lazyMark_le fun p hp => places p (members p hp), h⟩
  · rename_i lo k n rest read
    obtain ⟨same, members⟩ := count_append read more
    simp only [same, List.cons_append, lazyMark_append closers]
    rw [length_of_bounds h]
    exact ⟨lazyMark_le fun p hp => places p (members p (List.mem_cons_of_mem _ hp)), h⟩
  · rename_i lo k rest noBrace read
    obtain ⟨same, members⟩ := count_append read more
    simp only [same]
    split at h
    · rename_i hi n rest' read'
      obtain ⟨same', members'⟩ := count_append read' more
      rw [length_of_bounds h]
      refine ⟨lazyMark_le fun p hp =>
        places p (members p (List.mem_cons_of_mem _ (members' p hp))), ?_⟩
      split
      · rename_i same
        cases same
      · rename_i same
        cases rest with
        | nil => cases read'
        | cons p rest =>
            cases same
            exact absurd rfl (noBrace _ _)
      · rename_i same
        cases same
        simp only [same', lazyMark_append closers]
        exact h
      · rename_i others
        exact absurd rfl (others _ _ _)
    · cases h
  · cases h

/-! ## Groups -/

theorem cutAt_append_of_cutAt {sep : Char} {cs before after : List Char}
    (h : cutAt sep cs = some (before, after)) (ys : List Char) :
    cutAt sep (cs ++ ys) = some (before, after ++ ys) := by
  obtain ⟨rfl, free⟩ := eq_append_of_cutAt h
  rw [List.append_assoc, List.cons_append, cutAt_append sep before _ free]

theorem length_lt_of_cutAt {sep : Char} {cs before after : List Char}
    (h : cutAt sep cs = some (before, after)) : before.length + after.length < cs.length := by
  obtain ⟨rfl, -⟩ := eq_append_of_cutAt h
  rw [List.length_append, List.length_cons]
  omega

theorem settled_groupName (taken : List (List Char)) : Settled (groupName taken) := by
  intro cs r h
  unfold groupName at h ⊢
  split at h
  · rename_i name after cut
    have := length_lt_of_cutAt cut
    simp only [cutAt_append_of_cutAt cut]
    refine ⟨?_, h⟩
    split at h
    · cases h
    · split at h
      · cases h
      · cases h
        dsimp only
        omega
  · cases h

theorem settled_groupFlags : Settled groupFlags := by
  intro cs r h
  obtain ⟨items, read, rest⟩ := bind_eq_ok_iff.1 h
  unfold groupFlags
  cases stops : cs.drop (cs.takeWhile fun c => c != ':' && c != ')').length with
  | nil =>
      rw [stops] at rest
      cases rest
  | cons d after =>
      obtain ⟨letters, stop, -⟩ := takeWhile_append_of_drop_eq_cons stops closing
      have shorter : (cs.takeWhile fun c => c != ':' && c != ')').length < cs.length := by
        have := congrArg List.length stops
        rw [List.length_drop, List.length_cons] at this
        omega
      rw [stops] at rest
      by_cases colon : d = ':'
      · subst colon
        cases rest
        refine ⟨shorter, bind_eq_ok_iff.2 ⟨items, letters ▸ read, ?_⟩⟩
        rw [letters, stop]
        rfl
      · split at rest
        · rename_i same
          cases same
          exact absurd rfl colon
        · split at rest
          · cases rest
          · rename_i some_
            cases rest
            refine ⟨shorter, bind_eq_ok_iff.2 ⟨items, letters ▸ read, ?_⟩⟩
            rw [letters, stop]
            split
            · rename_i same
              cases same
              exact absurd rfl colon
            · rw [if_neg some_]
              rfl
            · rename_i same
              cases same
        · cases rest

theorem settled_groupOption (taken : List (List Char)) : Settled (groupOption taken) := by
  intro cs r h
  unfold groupOption at h
  split at h
  · rename_i cs
    obtain ⟨a, read, result⟩ := bind_eq_ok_iff.1 h
    cases result
    obtain ⟨within, same⟩ := settled_groupName taken cs a read
    refine ⟨Nat.add_le_add_right within 2, ?_⟩
    simp only [List.cons_append, groupOption, same]
    rfl
  · rename_i cs
    obtain ⟨a, read, result⟩ := bind_eq_ok_iff.1 h
    cases result
    obtain ⟨within, same⟩ := settled_groupName taken cs a read
    refine ⟨Nat.add_le_add_right within 1, ?_⟩
    simp only [List.cons_append, groupOption, same]
    rfl
  · rename_i noNamed noBracket
    obtain ⟨within, same⟩ := settled_groupFlags cs r h
    refine ⟨within, ?_⟩
    unfold groupOption
    split
    · rename_i named
      rcases cs with _ | ⟨c, _ | ⟨d, cs⟩⟩
      · simp [closing] at named
      · simp [closing] at named
      · cases named
        exact absurd rfl (noNamed cs)
    · rename_i bracket
      rcases cs with _ | ⟨c, cs⟩
      · simp [closing] at bracket
      · cases bracket
        exact absurd rfl (noBracket cs)
    · exact same

theorem settled_opening (verbose : Bool) (taken : List (List Char)) :
    Settled (opening verbose taken) := by
  intro cs r h
  obtain ⟨more, longer, places, closers⟩ := significant_closing verbose cs
  unfold opening at h ⊢
  rw [longer]
  generalize significant verbose cs = code at h places ⊢
  split at h
  · rename_i n rest
    have within : n ≤ cs.length := places _ List.mem_cons_self
    obtain ⟨a, read, result⟩ := bind_eq_ok_iff.1 h
    cases result
    obtain ⟨shorter, same⟩ := settled_groupOption taken _ a read
    rw [List.length_drop] at shorter
    refine ⟨by dsimp only; omega, ?_⟩
    simp only [List.cons_append, List.drop_append_of_le_length within, same]
    rfl
  · rename_i noMark
    cases h
    refine ⟨Nat.zero_le _, ?_⟩
    split
    · rename_i n rest same
      cases code with
      | nil =>
          obtain mark | mark := closers ('?', n) (by rw [← List.nil_append more, same]; simp)
          · cases mark
          · cases mark
      | cons p code =>
          cases same
          exact absurd rfl (noMark _ _)
    · rfl

end TestDiscovery.Pattern
