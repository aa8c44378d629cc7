/-
# TestDiscovery.Proofs.Pattern.SetReaders -- readers inside bracketed sets

The readers of bracketed sets are settled too.  The start of a set and the names of
classes are found or not found alike in a text that goes on with `closing`; an item
may look ahead over a hyphen, to see whether it starts a range, and what it sees
there is the text's own (`peekAfterHyphen_append`).
-/
import TestDiscovery.Proofs.Pattern.Readers

namespace TestDiscovery.Pattern

set_option autoImplicit false

open TestDiscovery.Text (isSpace cutAt cutAt_eq_none_iff Reading)

/-! ## Bracketed sets -/

theorem takeWhile_append_of_forall_not {α : Type} {p : α → Bool} {ys : List α}
    (h : ∀ y ∈ ys, p y = false) (xs : List α) : (xs ++ ys).takeWhile p = xs.takeWhile p := by
  rw [List.takeWhile_append]
  split
  · rename_i all
    have none_ : ys.takeWhile p = [] := by
      cases ys with
      | nil => rfl
      | cons y ys => exact List.takeWhile_cons_of_neg (by simp [h y List.mem_cons_self])
    rw [none_, List.append_nil, (List.takeWhile_prefix p).eq_of_length all]
  · rfl

/-- Whether a set is negated, what stands after the caret, and the characters up to there. -/
def afterCaret (code : List Placed) : Bool × List Placed × Nat :=
  match code with
  | ('^', n) :: rest => (true, rest, n)
  | _ => (false, code, 0)

/-- The start of a set after its caret, for a text of which `length` characters are read. -/
def leading (negated : Bool) (code : List Placed) (length : Nat) : Reading Lexeme :=
  let hyphens := code.takeWhile fun (c, _) => c == '-'
  match hyphens.getLast?, code with
  | some (_, n), _ => ⟨.setOpen negated (hyphens.map Prod.fst), n⟩
  | none, (']', n) :: _ => ⟨.setOpen negated [']'], n⟩
  | none, _ => ⟨.setOpen negated [], length⟩

theorem setStart_eq (verbose : Bool) (cs : List Char) :
    setStart verbose cs =
      let start := afterCaret (significant verbose cs)
      leading start.1 start.2.1 start.2.2 := rfl

theorem afterCaret_append {more : List Placed} (closers : ∀ p ∈ more, IsCloser p)
    (code : List Placed) :
    afterCaret (code ++ more) =
      ((afterCaret code).1, (afterCaret code).2.1 ++ more, (afterCaret code).2.2) := by
  have plain : ∀ {c : Char} {n : Nat} {rest : List Placed}, c ≠ '^' →
      afterCaret ((c, n) :: rest) = (false, (c, n) :: rest, 0) := by
    intro c n rest noCaret
    unfold afterCaret
    split
    · rename_i same
      cases same
      exact absurd rfl noCaret
    · rfl
  rcases code with _ | ⟨⟨c, n⟩, code⟩
  · rcases more with _ | ⟨⟨d, m⟩, more⟩
    · rfl
    · obtain rfl | rfl : d = ')' ∨ d = '$' := closers _ List.mem_cons_self
      · rfl
      · rfl
  · by_cases caret : c = '^'
    · subst caret
      rfl
    · rw [List.cons_append, plain caret, plain caret]
      rfl

theorem leading_append {more : List Placed} (closers : ∀ p ∈ more, IsCloser p) (negated : Bool)
    (code : List Placed) (length : Nat) :
    leading negated (code ++ more) length = leading negated code length := by
  have hyphens : (code ++ more).takeWhile (fun x => x.1 == '-') =
      code.takeWhile fun x => x.1 == '-' :=
    takeWhile_append_of_forall_not (fun p hp => by
      obtain h | h := closers p hp <;> rw [h] <;> rfl) code
  cases last : (code.takeWhile fun x => x.1 == '-').getLast? with
  | some p => simp only [leading, hyphens, last]
  | none =>
      simp only [leading, hyphens, last]
      rcases code with _ | ⟨⟨c, n⟩, code⟩
      · rcases more with _ | ⟨⟨d, m⟩, more⟩
        · rfl
        · obtain rfl | rfl : d = ')' ∨ d = '$' := closers _ List.mem_cons_self
          · rfl
          · rfl
      · by_cases bracket : c = ']'
        · subst bracket
          rfl
        · rw [List.cons_append]
          split
          · rename_i some_
            cases some_
          · rename_i same
            cases same
            exact absurd rfl bracket
          · split
            · rename_i some_
              cases some_
            · rename_i same
              cases same
              exact absurd rfl bracket
            · rfl

theorem length_leading_le {size length : Nat} {code : List Placed} (start : length ≤ size)
    (places : ∀ p ∈ code, p.2 ≤ size) (negated : Bool) :
    (leading negated code length).length ≤ size := by
  unfold leading
  dsimp only
  split
  · rename_i last
    exact places _ ((List.takeWhile_sublist _).subset (List.mem_of_getLast? last))
  · exact places _ List.mem_cons_self
  · exact start

theorem setStart_closing (verbose : Bool) (cs : List Char) :
    (setStart verbose cs).length ≤ cs.length ∧
      setStart verbose (cs ++ closing) = setStart verbose cs := by
  obtain ⟨more, longer, places, closers⟩ := significant_closing verbose cs
  rw [setStart_eq, setStart_eq, longer]
  generalize significant verbose cs = code at places ⊢
  dsimp only
  rw [afterCaret_append closers, leading_append closers]
  refine ⟨?_, rfl⟩
  unfold afterCaret
  split
  · exact length_leading_le (places _ List.mem_cons_self)
      (fun p hp => places p (List.mem_cons_of_mem _ hp)) _
  · exact length_leading_le (Nat.zero_le _) places _

theorem classInColons?_closing (negated : Bool) (cs : List Char) :
    (∀ r ∈ classInColons? negated cs, r.length ≤ cs.length) ∧
      classInColons? negated (cs ++ closing) = classInColons? negated cs := by
  unfold classInColons?
  cases cut : cutAt ':' cs with
  | none =>
      have longer : cutAt ':' (cs ++ closing) = none := by
        rw [cutAt_eq_none_iff] at cut ⊢
        simpa [closing] using cut
      rw [longer]
      refine ⟨fun r h => ?_, rfl⟩
      cases h
  | some parts =>
      obtain ⟨name, after⟩ := parts
      have within := length_lt_of_cutAt cut
      rw [cutAt_append_of_cutAt cut]
      rcases after with _ | ⟨d, after⟩
      · refine ⟨fun r h => ?_, rfl⟩
        cases h
      · rw [List.cons_append]
        by_cases bracket : d = ']'
        · subst bracket
          refine ⟨fun r h => ?_, rfl⟩
          obtain ⟨cls, -, rfl⟩ := Option.map_eq_some_iff.1 h
          rw [List.length_cons] at within
          dsimp only
          omega
        · refine ⟨fun r h => ?_, ?_⟩
          · split at h
            · rename_i same
              cases same
              exact absurd rfl bracket
            · cases h
          · split
            · rename_i same
              cases same
              exact absurd rfl bracket
            · split
              · rename_i same
                cases same
                exact absurd rfl bracket
              · rfl

theorem namedClassItem?_closing (cs : List Char) :
    (∀ r ∈ namedClassItem? cs, r.length ≤ cs.length) ∧
      namedClassItem? (cs ++ closing) = namedClassItem? cs := by
  have other : ∀ {c : Char} {rest : List Char}, c ≠ ':' → namedClassItem? (c :: rest) = none := by
    intro c rest noColon
    unfold namedClassItem?
    split
    · rename_i same
      cases same
      exact absurd rfl noColon
    · rename_i same
      cases same
      exact absurd rfl noColon
    · rfl
  have colon : ∀ {rest : List Char}, rest.head? ≠ some '^' → namedClassItem? (':' :: rest) =
      (classInColons? false rest).map fun r => ⟨r.value, r.length + 1⟩ := by
    intro rest noCaret
    unfold namedClassItem?
    split
    · rename_i same
      cases same
      exact absurd rfl noCaret
    · rename_i same
      cases same
      rfl
    · rename_i noColon
      exact absurd rfl (noColon rest)
  rcases cs with _ | ⟨c, cs⟩
  · refine ⟨fun r h => ?_, rfl⟩
    cases h
  · rw [List.cons_append]
    by_cases isColon : c = ':'
    · subst isColon
      by_cases caret : cs.head? = some '^'
      · obtain ⟨rest, rfl⟩ := List.head?_eq_some_iff.1 caret
        constructor
        · intro r h
          obtain ⟨inner, read, rfl⟩ := Option.map_eq_some_iff.1 h
          exact Nat.add_le_add_right ((classInColons?_closing true rest).1 inner read) 2
        · show (classInColons? true (rest ++ closing)).map _ = (classInColons? true rest).map _
          rw [(classInColons?_closing true rest).2]
      · have still : (cs ++ closing).head? ≠ some '^' := by
          cases cs with
          | nil => decide
          | cons d cs => exact caret
        rw [colon caret, colon still, (classInColons?_closing false cs).2]
        refine ⟨fun r h => ?_, rfl⟩
        obtain ⟨inner, read, rfl⟩ := Option.map_eq_some_iff.1 h
        exact Nat.add_le_add_right ((classInColons?_closing false cs).1 inner read) 1
    · rw [other isColon, other isColon]
      refine ⟨fun r h => ?_, rfl⟩
      cases h

theorem setOperator?_closing (c : Char) (cs : List Char) :
    setOperator? c (cs ++ closing) = setOperator? c cs := by
  cases cs with
  | nil =>
      have single : setOperator? c [] = none := if_pos (by simp)
      have closed : setOperator? c closing = none := by
        by_cases paren : c = ')'
        · subst paren
          rfl
        · exact if_pos (by simpa [closing] using Ne.symm paren)
      rw [List.nil_append, single, closed]
  | cons d cs => rfl

theorem settled_setPart (verbose : Bool) (c : Char) : Settled (setPart verbose c) := by
  intro cs r h
  unfold setPart at h ⊢
  split at h
  · rename_i backslash
    rw [if_pos backslash]
    exact settled_escape verbose cs r h
  · rename_i noBackslash
    cases h
    rw [if_neg noBackslash]
    exact ⟨Nat.zero_le _, rfl⟩

theorem peekVerbose_append {sign : Bool} {xs : List Char} {c : Char}
    (h : peekVerbose sign xs = some c) (ys : List Char) : peekVerbose sign (xs ++ ys) = some c := by
  induction xs generalizing sign with
  | nil => cases h
  | cons x xs ih =>
      rw [peekVerbose] at h
      rw [List.cons_append, peekVerbose]
      split at h
      · rename_i space
        rw [if_pos space]
        exact ih h
      · rename_i noSpace
        rw [if_neg noSpace]
        split at h
        · rename_i mark
          rw [if_pos mark]
          exact ih h
        · rename_i noMark
          rw [if_neg noMark, h]

theorem peekAfterHyphen_append {verbose : Bool} {xs : List Char} {c : Char}
    (h : peekAfterHyphen verbose xs = some c) (ys : List Char) :
    peekAfterHyphen verbose (xs ++ ys) = some c := by
  unfold peekAfterHyphen at h ⊢
  split at h
  · rename_i isVerbose
    rw [if_pos isVerbose]
    exact peekVerbose_append h ys
  · rename_i notVerbose
    rw [if_neg notVerbose]
    cases xs with
    | nil => cases h
    | cons x xs => exact h

/-- Where nothing is left but white space and a number sign, no character counts. -/
theorem placedCode_of_peekVerbose {sign : Bool} {xs : List Char}
    (h : peekVerbose sign xs = none) {comment : Bool} (started : comment = true → sign = true)
    (n : Nat) : placedCode comment n xs = [] := by
  induction xs generalizing sign comment n with
  | nil => rfl
  | cons x xs ih =>
      rw [peekVerbose] at h
      rw [placedCode]
      split at h
      · rename_i space
        split
        · exact ih h (fun _ => started ‹_›) _
        · exact ih h (fun h => by cases h) _
      · rename_i noSpace
        split at h
        · rename_i mark
          have fresh : ¬ comment = true := fun inside => by
            rw [started inside] at mark
            exact absurd mark.2 (by decide)
          rw [if_neg fresh, if_neg noSpace, if_pos mark.1]
          exact ih h (fun _ => rfl) _
        · cases h

theorem significant_of_peekAfterHyphen {verbose : Bool} {xs : List Char}
    (h : peekAfterHyphen verbose xs = none) (n : Nat) :
    (if verbose then placedCode false n xs else placed n xs) = [] := by
  unfold peekAfterHyphen at h
  split at h
  · rename_i isVerbose
    rw [if_pos isVerbose]
    exact placedCode_of_peekVerbose h (fun h => by cases h) n
  · rename_i notVerbose
    rw [if_neg notVerbose, List.head?_eq_none_iff.1 h]
    rfl

/-- The set item whose first part has been read, `rest` being the text behind that. -/
def itemAfter (verbose : Bool) (first : Reading Atom) (rest : List Char) :
    Except Fault (Reading SetItem) :=
  match significant verbose rest with
  | ('-', n) :: after =>
    let next := peekAfterHyphen verbose (rest.drop n)
    if next = some ']' ∨ next = some '-' then loneItem first
    else match after with
      | (d, m) :: _ => do
        let second ← setPart verbose d (rest.drop m)
        return ⟨← rangeOf first.value second.value, first.length + m + second.length⟩
      | [] => throw .unclosedSet
  | _ => loneItem first

theorem setItem_eq (verbose : Bool) (c : Char) (cs : List Char) :
    setItem verbose c cs =
      (setPart verbose c cs >>= fun first => itemAfter verbose first (cs.drop first.length)) := rfl

theorem length_of_loneItem {part : Reading Atom} {r : Reading SetItem}
    (h : loneItem part = .ok r) : r.length = part.length := by
  obtain ⟨item, -, result⟩ := bind_eq_ok_iff.1 h
  cases result
  rfl

theorem itemAfter_closing {verbose : Bool} {first : Reading Atom} {rest : List Char}
    {r : Reading SetItem} (h : itemAfter verbose first rest = .ok r) :
    r.length ≤ first.length + rest.length ∧
      itemAfter verbose first (rest ++ closing) = .ok r := by
  obtain ⟨more, longer, places, closers⟩ := significant_closing verbose rest
  unfold itemAfter at h ⊢
  rw [longer]
  split at h
  · rename_i n after code
    have within : n ≤ rest.length := places ('-', n) (code ▸ List.mem_cons_self)
    rw [code]
    simp only [List.cons_append, List.drop_append_of_le_length within]
    cases next : peekAfterHyphen verbose (rest.drop n) with
    | none =>
        rw [significant_eq_cons code, significant_of_peekAfterHyphen next] at h
        simp only [next] at h
        cases h
    | some c =>
        rw [peekAfterHyphen_append next]
        simp only [next] at h
        split at h
        · rename_i lone
          rw [if_pos lone, length_of_loneItem h]
          exact ⟨Nat.le_add_right _ _, h⟩
        · rename_i range
          rw [if_neg range]
          split at h
          · rename_i d m after
            have place : m ≤ rest.length :=
              places (d, m) (code ▸ List.mem_cons_of_mem _ List.mem_cons_self)
            obtain ⟨second, readSecond, h⟩ := bind_eq_ok_iff.1 h
            obtain ⟨withinSecond, sameSecond⟩ := settled_setPart verbose d _ second readSecond
            obtain ⟨item, readItem, result⟩ := bind_eq_ok_iff.1 h
            cases result
            rw [List.length_drop] at withinSecond
            refine ⟨by dsimp only; omega, ?_⟩
            simp only [List.cons_append, List.drop_append_of_le_length place, sameSecond]
            show (rangeOf first.value second.value >>= fun _ => _) = _
            rw [readItem]
            rfl
          · cases h
  · rename_i noHyphen
    rw [length_of_loneItem h]
    refine ⟨Nat.le_add_right _ _, ?_⟩
    split
    · rename_i n after same
      cases code : significant verbose rest with
      | nil =>
          rw [code, List.nil_append] at same
          obtain hyphen | hyphen := closers ('-', n) (by rw [same]; exact List.mem_cons_self)
          · cases hyphen
          · cases hyphen
      | cons p others =>
          rw [code] at same
          cases same
          exact absurd code (noHyphen n others)
    · exact h

theorem settled_setItem (verbose : Bool) (c : Char) : Settled (setItem verbose c) := by
  intro cs r h
  obtain ⟨first, readFirst, h⟩ := bind_eq_ok_iff.1 ((setItem_eq verbose c cs).symm.trans h)
  obtain ⟨withinFirst, sameFirst⟩ := settled_setPart verbose c cs first readFirst
  obtain ⟨within, same⟩ := itemAfter_closing h
  rw [List.length_drop] at within
  refine ⟨by omega, ?_⟩
  rw [setItem_eq, sameFirst]
  show itemAfter verbose first ((cs ++ closing).drop first.length) = _
  rw [List.drop_append_of_le_length withinFirst, same]

end TestDiscovery.Pattern
