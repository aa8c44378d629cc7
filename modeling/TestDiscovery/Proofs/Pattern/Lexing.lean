/-
# TestDiscovery.Proofs.Pattern.Lexing -- a pattern cut into lexemes, step by step

`Cuts st cs ls st'` says that the walk goes from the state `st` over all of the text
`cs`, cuts the lexemes `ls` off it and ends in the state `st'`; this is what `lexFrom`
computes (`lexFrom_eq_ok_iff`).  What one step can read is said once, outside sets and
inside them (`TextReads`, `SetReads`).  `Measured` says what it can do to the number of
open groups, and that the bounds of a repetition are in order.
-/
import TestDiscovery.Pattern.Tree
import TestDiscovery.Proofs.Pattern.SetReaders

namespace TestDiscovery.Pattern

set_option autoImplicit false

open TestDiscovery.Text (isSpace Reading)

/-! ## Walks -/

/-- The walk cuts a text into lexemes: a step, and the text behind what the step took. -/
inductive Cuts : LexState → List Char → List Lexeme → LexState → Prop
  | done (st : LexState) : Cuts st [] [] st
  | step {st st' : LexState} {c : Char} {cs : List Char} {step : LexStep} {ls : List Lexeme}
      (read : lexStep st c cs = .ok step) (rest : Cuts step.state (cs.drop step.length) ls st') :
      Cuts st (c :: cs) (step.lexeme.toList ++ ls) st'

theorem lexFrom_eq_drop (st : LexState) (skip : Nat) (cs : List Char) :
    lexFrom st skip cs = lexFrom st 0 (cs.drop skip) := by
  induction cs generalizing skip with
  | nil => rw [List.drop_nil, lexFrom, lexFrom]
  | cons c cs ih =>
      cases skip with
      | zero => rfl
      | succ skip =>
          rw [lexFrom, List.drop_succ_cons]
          exact ih skip

theorem lexFrom_cons (st : LexState) (c : Char) (cs : List Char) :
    lexFrom st 0 (c :: cs) = (lexStep st c cs >>= fun step =>
      lexFrom step.state 0 (cs.drop step.length) >>= fun rest =>
        pure (step.lexeme.toList ++ rest)) := by
  rw [lexFrom]
  refine bind_congr fun step => ?_
  rw [lexFrom_eq_drop]

/-- **The lexemes of a text are those of its walk, when no set is left open.** -/
theorem lexFrom_eq_ok_iff {st : LexState} {cs : List Char} {ls : List Lexeme} :
    lexFrom st 0 cs = .ok ls ↔ ∃ st', Cuts st cs ls st' ∧ st'.sets = 0 := by
  constructor
  · intro h
    generalize size : cs.length = n
    induction n using Nat.strongRecOn generalizing st cs ls with
    | _ n ih =>
        cases cs with
        | nil =>
            rw [lexFrom] at h
            split at h
            · cases h
              exact ⟨st, .done st, ‹_›⟩
            · cases h
        | cons c cs =>
            rw [lexFrom_cons] at h
            obtain ⟨step, read, h⟩ := bind_eq_ok_iff.1 h
            obtain ⟨rest, later, result⟩ := bind_eq_ok_iff.1 h
            cases result
            have shorter : (cs.drop step.length).length < n := by
              rw [← size, List.length_drop, List.length_cons]
              omega
            obtain ⟨st', cuts, closed⟩ := ih _ shorter later rfl
            exact ⟨st', .step read cuts, closed⟩
  · rintro ⟨st', cuts, closed⟩
    induction cuts with
    | done st => rw [lexFrom, if_pos closed]
    | step read rest ih =>
        rw [lexFrom_cons, read]
        show (lexFrom _ 0 _ >>= fun _ => _) = _
        rw [ih closed]
        rfl

/-! ## What a step reads -/

/-- What the walk reads at a character outside sets. -/
inductive TextReads (st : LexState) (cs : List Char) : Char → LexStep → Prop
  | group {step : LexStep} (read : groupStep st cs = .ok step) : TextReads st cs '(' step
  | close : TextReads st cs ')'
      ⟨some .groupClose, { st with verbose := st.outer.headD st.verbose, outer := st.outer.tail }, 0⟩
  | bar : TextReads st cs '|' ⟨some .bar, st, 0⟩
  | set : TextReads st cs '[' (.plain { st with sets := 1 } (setStart st.verbose cs))
  | counted {r : Reading Lexeme} (read : counted st.verbose cs = .ok r) :
      TextReads st cs '\x7b' (.plain st r)
  | escape {r : Reading Atom} (read : escape st.verbose cs = .ok r) :
      TextReads st cs '\\' ⟨some (.atom r.value), st, r.length⟩
  | repetition {c : Char} {min : Nat} {max : Option Nat}
      (written : repetition? c = some (min, max)) :
      TextReads st cs c ⟨some (.repetition min max), st, if cs.head? = some '?' then 1 else 0⟩
  | atom {c : Char} (plain : c ∉ ['(', ')', '|', '[', '\x7b', '\\'])
      (single : repetition? c = none) : TextReads st cs c ⟨some (.atom (plainAtom c)), st, 0⟩

/-- What the walk reads at a character inside a set. -/
inductive SetReads (st : LexState) (cs : List Char) : Char → LexStep → Prop
  | named {r : Reading SetItem} (read : namedClassItem? cs = some r) :
      SetReads st cs '[' ⟨some (.setItem r.value), st, r.length⟩
  | nested (other : namedClassItem? cs = none) :
      SetReads st cs '[' (.plain { st with sets := st.sets + 1 } (setStart st.verbose cs))
  | close : SetReads st cs ']' ⟨some .setClose, { st with sets := st.sets - 1 }, 0⟩
  | operator {c : Char} {op : SetOperator} (inside : c ≠ '[' ∧ c ≠ ']')
      (read : setOperator? c cs = some op) : SetReads st cs c ⟨some (.setOperator op), st, 1⟩
  | item {c : Char} {r : Reading SetItem} (inside : c ≠ '[' ∧ c ≠ ']')
      (single : setOperator? c cs = none) (read : setItem st.verbose c cs = .ok r) :
      SetReads st cs c ⟨some (.setItem r.value), st, r.length⟩

theorem textStep_eq_ok_iff {st : LexState} {c : Char} {cs : List Char} {step : LexStep} :
    textStep st c cs = .ok step ↔ TextReads st cs c step := by
  constructor
  · intro h
    unfold textStep at h
    split at h
    · subst c
      exact .group h
    · split at h
      · subst c
        cases h
        exact .close
      · split at h
        · subst c
          cases h
          exact .bar
        · split at h
          · subst c
            cases h
            exact .set
          · split at h
            · subst c
              obtain ⟨r, read, rfl⟩ := map_eq_ok_iff.1 h
              exact .counted read
            · split at h
              · subst c
                obtain ⟨r, read, rfl⟩ := map_eq_ok_iff.1 h
                exact .escape read
              · split at h
                · cases h
                  exact .repetition ‹_›
                · cases h
                  refine .atom ?_ ‹_›
                  simp only [List.mem_cons, List.not_mem_nil, or_false, not_or]
                  exact ⟨‹_›, ‹_›, ‹_›, ‹_›, ‹_›, ‹_›⟩
  · intro h
    cases h with
    | group read => exact read
    | close => rfl
    | bar => rfl
    | set => rfl
    | counted read => exact map_eq_ok_iff.2 ⟨_, read, rfl⟩
    | escape read => exact map_eq_ok_iff.2 ⟨_, read, rfl⟩
    | repetition written =>
        unfold repetition? at written
        split at written <;> cases written <;> rfl
    | atom plain single =>
        simp only [List.mem_cons, List.not_mem_nil, or_false, not_or] at plain
        obtain ⟨h₁, h₂, h₃, h₄, h₅, h₆⟩ := plain
        unfold textStep
        rw [if_neg h₁, if_neg h₂, if_neg h₃, if_neg h₄, if_neg h₅, if_neg h₆, single]

theorem setStep_eq_ok_iff {st : LexState} {c : Char} {cs : List Char} {step : LexStep} :
    setStep st c cs = .ok step ↔ SetReads st cs c step := by
  constructor
  · intro h
    unfold setStep at h
    split at h
    · subst c
      split at h
      · cases h
        exact .named ‹_›
      · cases h
        exact .nested ‹_›
    · split at h
      · subst c
        cases h
        exact .close
      · split at h
        · cases h
          exact .operator ⟨‹_›, ‹_›⟩ ‹_›
        · obtain ⟨r, read, h⟩ := bind_eq_ok_iff.1 h
          cases h
          exact .item ⟨‹_›, ‹_›⟩ ‹_› read
  · intro h
    cases h with
    | named read =>
        unfold setStep
        rw [if_pos rfl, read]
    | nested other =>
        unfold setStep
        rw [if_pos rfl, other]
    | close => rfl
    | operator inside read =>
        unfold setStep
        rw [if_neg inside.1, if_neg inside.2, read]
    | item inside single read =>
        unfold setStep
        rw [if_neg inside.1, if_neg inside.2, single, read]
        rfl

/-! ## What a step can do -/

/-- The number of open groups after a lexeme. -/
def Lexeme.depthAfter (depth : Nat) : Lexeme → Nat
  | .groupOpen _ => depth + 1
  | .groupClose => depth - 1
  | _ => depth

/-- The bounds of a repetition are in order. -/
def Lexeme.Ordered : Lexeme → Prop
  | .repetition min max => ∀ m ∈ max, min ≤ m
  | _ => True

/-- A step opens and closes groups as its lexeme says, and a repetition has its bounds in order. -/
structure Measured (st : LexState) (step : LexStep) : Prop where
  depth : step.state.outer.length =
    step.lexeme.elim st.outer.length (Lexeme.depthAfter st.outer.length)
  ordered : ∀ l ∈ step.lexeme, l.Ordered

/-- A step that leaves the groups alone. -/
theorem measured_of_plain {st : LexState} {step : LexStep} (same : step.state.outer = st.outer)
    (plain : ∀ l ∈ step.lexeme, l.Ordered ∧ ∀ depth, l.depthAfter depth = depth) :
    Measured st step := by
  refine ⟨?_, fun l hl => (plain l hl).1⟩
  rw [same]
  cases lexeme : step.lexeme with
  | none => rfl
  | some l => exact ((plain l lexeme).2 _).symm

theorem ordered_of_bounds {lo length : Nat} {hi : Option Nat} {r : Reading Lexeme}
    (h : bounds lo hi length = .ok r) :
    r.value.Ordered ∧ ∀ depth, r.value.depthAfter depth = depth := by
  unfold bounds at h
  split at h
  · rename_i inOrder
    cases h
    refine ⟨?_, fun depth => rfl⟩
    rintro m ⟨⟩
    have := inOrder.2
    simp only [Option.all_some, Bool.and_eq_true, decide_eq_true_eq] at this
    exact this.2
  · cases h

theorem ordered_of_counted {verbose : Bool} {cs : List Char} {r : Reading Lexeme}
    (h : counted verbose cs = .ok r) :
    r.value.Ordered ∧ ∀ depth, r.value.depthAfter depth = depth := by
  unfold counted at h
  split at h
  · exact ordered_of_bounds h
  · exact ordered_of_bounds h
  · split at h
    · exact ordered_of_bounds h
    · cases h
  · cases h

theorem ordered_of_repetition {c : Char} {min : Nat} {max : Option Nat}
    (h : repetition? c = some (min, max)) : (Lexeme.repetition min max).Ordered := by
  unfold repetition? at h
  split at h <;> cases h
  · rintro m ⟨⟩
    exact Nat.zero_le 1
  · rintro m ⟨⟩
  · rintro m ⟨⟩

theorem measured_groupStep {st : LexState} {cs : List Char} {step : LexStep}
    (h : groupStep st cs = .ok step) : Measured st step := by
  obtain ⟨r, -, h⟩ := bind_eq_ok_iff.1 h
  obtain ⟨value, length⟩ := r
  cases value with
  | group kind =>
      cases h
      refine ⟨?_, fun l hl => ?_⟩
      · cases kind <;> rfl
      · cases hl
        trivial
  | flags items =>
      cases h
      refine measured_of_plain rfl fun l hl => ?_
      cases hl
      exact ⟨trivial, fun depth => rfl⟩

theorem measured_setStart (st st' : LexState) (same : st'.outer = st.outer) (verbose : Bool)
    (cs : List Char) : Measured st (.plain st' (setStart verbose cs)) := by
  refine measured_of_plain same fun l hl => ?_
  cases hl
  rw [setStart_eq]
  unfold leading
  dsimp only
  split
  · exact ⟨trivial, fun depth => rfl⟩
  · exact ⟨trivial, fun depth => rfl⟩
  · exact ⟨trivial, fun depth => rfl⟩

theorem measured_textStep {st : LexState} {c : Char} {cs : List Char} {step : LexStep}
    (h : textStep st c cs = .ok step) : Measured st step := by
  cases textStep_eq_ok_iff.1 h with
  | group read => exact measured_groupStep read
  | close => exact ⟨List.length_tail, by rintro l ⟨⟩; trivial⟩
  | bar => exact measured_of_plain rfl (by rintro l ⟨⟩; exact ⟨trivial, fun _ => rfl⟩)
  | set => exact measured_setStart st { st with sets := 1 } rfl _ _
  | counted read => exact measured_of_plain rfl (by rintro l ⟨⟩; exact ordered_of_counted read)
  | escape read => exact measured_of_plain rfl (by rintro l ⟨⟩; exact ⟨trivial, fun _ => rfl⟩)
  | repetition written =>
      exact measured_of_plain rfl
        (by rintro l ⟨⟩; exact ⟨ordered_of_repetition written, fun _ => rfl⟩)
  | atom => exact measured_of_plain rfl (by rintro l ⟨⟩; exact ⟨trivial, fun _ => rfl⟩)

theorem measured_setStep {st : LexState} {c : Char} {cs : List Char} {step : LexStep}
    (h : setStep st c cs = .ok step) : Measured st step := by
  cases setStep_eq_ok_iff.1 h with
  | nested => exact measured_setStart st { st with sets := st.sets + 1 } rfl _ _
  | named => exact measured_of_plain rfl (by rintro l ⟨⟩; exact ⟨trivial, fun _ => rfl⟩)
  | close => exact measured_of_plain rfl (by rintro l ⟨⟩; exact ⟨trivial, fun _ => rfl⟩)
  | operator => exact measured_of_plain rfl (by rintro l ⟨⟩; exact ⟨trivial, fun _ => rfl⟩)
  | item => exact measured_of_plain rfl (by rintro l ⟨⟩; exact ⟨trivial, fun _ => rfl⟩)

theorem measured_lexStep {st : LexState} {c : Char} {cs : List Char} {step : LexStep}
    (h : lexStep st c cs = .ok step) : Measured st step := by
  unfold lexStep at h
  split at h
  · cases h
    exact measured_of_plain rfl fun l hl => by cases hl
  · split at h
    · cases h
      exact measured_of_plain rfl fun l hl => by cases hl
    · split at h
      · exact measured_textStep h
      · exact measured_setStep h

theorem cuts_depth {st st' : LexState} {cs : List Char} {ls : List Lexeme} (h : Cuts st cs ls st') :
    st'.outer.length = ls.foldl Lexeme.depthAfter st.outer.length := by
  induction h with
  | done st => rfl
  | step read rest ih =>
      rw [ih, (measured_lexStep read).depth, List.foldl_append]
      cases LexStep.lexeme _ <;> rfl

theorem cuts_ordered {st st' : LexState} {cs : List Char} {ls : List Lexeme}
    (h : Cuts st cs ls st') : ∀ l ∈ ls, l.Ordered := by
  induction h with
  | done st => exact fun l hl => absurd hl List.not_mem_nil
  | step read rest ih =>
      intro l hl
      rcases List.mem_append.1 hl with hl | hl
      · exact (measured_lexStep read).ordered l (Option.mem_toList.1 hl)
      · exact ih l hl

end TestDiscovery.Pattern
