/-
# TestDiscovery.Proofs.Pattern.Enclosed -- the walk inside a group around the pattern

A walk that leaves no group open when the pattern stands alone goes on in the same way
inside a group around it (`cuts_closing`): the group is closed by the parenthesis behind
the pattern, unless the pattern ends inside a comment, which then takes in that
parenthesis too (`EndsInComment`).
-/
import TestDiscovery.Proofs.Pattern.Lexing

namespace TestDiscovery.Pattern

set_option autoImplicit false

/-! ## Comments -/

theorem commentLength_le (cs : List Char) : commentLength cs ≤ cs.length := by
  induction cs with
  | nil => exact Nat.le_refl 0
  | cons c cs ih =>
      rw [commentLength, List.length_cons]
      split <;> omega

theorem commentLength_append {cs : List Char} (finished : '\n' ∈ cs) (ds : List Char) :
    commentLength (cs ++ ds) = commentLength cs := by
  induction cs with
  | nil => cases finished
  | cons c cs ih =>
      rw [List.cons_append, commentLength, commentLength]
      split
      · rfl
      · rename_i other
        rw [ih ((List.mem_cons.1 finished).resolve_left (Ne.symm other))]

theorem commentLength_of_unfinished {cs : List Char} (unfinished : '\n' ∉ cs) :
    commentLength cs = cs.length := by
  induction cs with
  | nil => rfl
  | cons c cs ih =>
      rw [List.mem_cons, not_or] at unfinished
      rw [commentLength, if_neg (Ne.symm unfinished.1), ih unfinished.2, List.length_cons]

/-- In verbose mode, a number sign starts a comment, and no line feed ends it. -/
def StartsLastComment (st : LexState) (c : Char) (cs : List Char) : Prop :=
  st.verbose = true ∧ c = '#' ∧ '\n' ∉ cs

/-- The walk comes to a comment that no line feed ends. -/
inductive EndsInComment : LexState → List Char → Prop
  | here {st : LexState} {c : Char} {cs : List Char} (last : StartsLastComment st c cs) :
      EndsInComment st (c :: cs)
  | later {st : LexState} {c : Char} {cs : List Char} {step : LexStep}
      (read : lexStep st c cs = .ok step)
      (rest : EndsInComment step.state (cs.drop step.length)) : EndsInComment st (c :: cs)

theorem lexStep_of_startsLastComment {st : LexState} {c : Char} {cs : List Char}
    (h : StartsLastComment st c cs) : lexStep st c cs = .ok ⟨none, st, cs.length⟩ := by
  obtain ⟨verbose, rfl, unfinished⟩ := h
  unfold lexStep
  rw [verbose, commentLength_of_unfinished unfinished]
  rfl

theorem endsInComment_cons_iff {st : LexState} {c : Char} {cs : List Char} {step : LexStep}
    (read : lexStep st c cs = .ok step) : EndsInComment st (c :: cs) ↔
      StartsLastComment st c cs ∨ EndsInComment step.state (cs.drop step.length) := by
  constructor
  · intro h
    cases h with
    | here last => exact .inl last
    | later read' rest =>
        cases read.symm.trans read'
        exact .inr rest
  · rintro (last | rest)
    · exact .here last
    · exact .later read rest

/-! ## Inside one more group -/

/-- The state with one more group around all that are open; at its end the mode is `mode`. -/
def LexState.within (st : LexState) (mode : Bool) : LexState :=
  { st with outer := st.outer ++ [mode] }

/-- The step with one more group around all that are open. -/
def LexStep.within (step : LexStep) (mode : Bool) : LexStep :=
  { step with state := step.state.within mode }

/-- The step stays within the text, and is taken in the same way inside one more group when the
text goes on with `closing`. -/
def Carried (mode : Bool) (st : LexState) (cs : List Char)
    (take : LexState → List Char → Except Fault LexStep) (step : LexStep) : Prop :=
  step.length ≤ cs.length ∧ take (st.within mode) (cs ++ closing) = .ok (step.within mode)

theorem carried_groupStep (mode : Bool) {st : LexState} {cs : List Char} {step : LexStep}
    (h : groupStep st cs = .ok step) : Carried mode st cs groupStep step := by
  obtain ⟨⟨value, length⟩, read, h⟩ := bind_eq_ok_iff.1 h
  obtain ⟨inside, same⟩ := settled_opening st.verbose st.names cs _ read
  cases value with
  | group kind =>
      cases h
      exact ⟨inside, bind_eq_ok_iff.2 ⟨_, same, by cases kind <;> rfl⟩⟩
  | flags items =>
      cases h
      exact ⟨inside, bind_eq_ok_iff.2 ⟨_, same, rfl⟩⟩

theorem carried_textStep (mode : Bool) {st : LexState} {c : Char} {cs : List Char} {step : LexStep}
    (h : textStep st c cs = .ok step) (enclosed : c = ')' → st.outer ≠ []) :
    Carried mode st cs (textStep · c) step := by
  cases textStep_eq_ok_iff.1 h with
  | group read => exact carried_groupStep mode read
  | close =>
      refine ⟨Nat.zero_le _, ?_⟩
      cases outer : st.outer with
      | nil => exact absurd outer (enclosed rfl)
      | cons around others =>
          refine (textStep_eq_ok_iff.2 .close).trans ?_
          simp only [LexState.within, LexStep.within, outer, List.cons_append, List.headD_cons,
            List.tail_cons]
  | bar => exact ⟨Nat.zero_le _, rfl⟩
  | set =>
      obtain ⟨inside, same⟩ := setStart_closing st.verbose cs
      refine ⟨inside, (textStep_eq_ok_iff.2 .set).trans ?_⟩
      rw [show setStart (st.within mode).verbose (cs ++ closing) = _ from same]
      rfl
  | counted read =>
      obtain ⟨inside, same⟩ := settled_counted st.verbose cs _ read
      exact ⟨inside, textStep_eq_ok_iff.2 (.counted same)⟩
  | escape read =>
      obtain ⟨inside, same⟩ := settled_escape st.verbose cs _ read
      exact ⟨inside, textStep_eq_ok_iff.2 (.escape same)⟩
  | repetition written =>
      have repeated : textStep (st.within mode) c (cs ++ closing) = .ok _ :=
        textStep_eq_ok_iff.2 (.repetition written)
      cases cs with
      | nil => exact ⟨Nat.zero_le _, repeated⟩
      | cons d cs =>
          refine ⟨?_, repeated⟩
          dsimp only
          split
          · exact Nat.succ_le_succ (Nat.zero_le _)
          · exact Nat.zero_le _
  | atom plain single => exact ⟨Nat.zero_le _, textStep_eq_ok_iff.2 (.atom plain single)⟩

theorem carried_setStep (mode : Bool) {st : LexState} {c : Char} {cs : List Char} {step : LexStep}
    (h : setStep st c cs = .ok step) : Carried mode st cs (setStep · c) step := by
  cases setStep_eq_ok_iff.1 h with
  | named read =>
      obtain ⟨inside, same⟩ := namedClassItem?_closing cs
      exact ⟨inside _ read, setStep_eq_ok_iff.2 (.named (same.trans read))⟩
  | nested other =>
      obtain ⟨inside, same⟩ := setStart_closing st.verbose cs
      refine ⟨inside, (setStep_eq_ok_iff.2
        (.nested ((namedClassItem?_closing cs).2.trans other))).trans ?_⟩
      rw [show setStart (st.within mode).verbose (cs ++ closing) = _ from same]
      rfl
  | close => exact ⟨Nat.zero_le _, rfl⟩
  | operator inside read =>
      refine ⟨?_, setStep_eq_ok_iff.2 (.operator inside ((setOperator?_closing c cs).trans read))⟩
      cases cs with
      | nil => exact absurd read (by simp [setOperator?])
      | cons d cs => exact Nat.succ_le_succ (Nat.zero_le _)
  | item inside single read =>
      obtain ⟨within, same⟩ := settled_setItem st.verbose c cs _ read
      exact ⟨within, setStep_eq_ok_iff.2
        (.item inside ((setOperator?_closing c cs).trans single) same)⟩

theorem carried_lexStep (mode : Bool) {st : LexState} {c : Char} {cs : List Char} {step : LexStep}
    (h : lexStep st c cs = .ok step) (goesOn : ¬ StartsLastComment st c cs)
    (enclosed : step.lexeme = some .groupClose → st.outer ≠ []) :
    Carried mode st cs (lexStep · c) step := by
  unfold lexStep at h
  unfold Carried lexStep
  dsimp only
  rw [show (st.within mode).verbose = st.verbose from rfl,
    show (st.within mode).sets = st.sets from rfl]
  split at h
  · rename_i blank
    rw [if_pos blank]
    cases h
    exact ⟨Nat.zero_le _, rfl⟩
  · rename_i noBlank
    rw [if_neg noBlank]
    split at h
    · rename_i comment
      rw [if_pos comment]
      cases h
      rw [Bool.and_eq_true, decide_eq_true_eq] at comment
      have finished : '\n' ∈ cs := by
        by_contra unfinished
        exact goesOn ⟨comment.1, comment.2, unfinished⟩
      refine ⟨commentLength_le cs, ?_⟩
      rw [commentLength_append finished]
      rfl
    · rename_i noComment
      rw [if_neg noComment]
      split at h
      · rename_i outside
        rw [if_pos outside]
        refine carried_textStep mode h fun isClosing => ?_
        subst isClosing
        cases h
        exact enclosed rfl
      · rename_i inside
        rw [if_neg inside]
        exact carried_setStep mode h

/-! ## The whole walk -/

/-- The lexemes close no more groups than are open. -/
def Balanced (depth : Nat) : List Lexeme → Prop
  | [] => True
  | l :: ls => (l = .groupClose → depth ≠ 0) ∧ Balanced (l.depthAfter depth) ls

/-- **A walk goes on inside one more group as it does alone**, up to its end; there it goes on
with what closes that group, unless a comment takes this in. -/
theorem cuts_closing (mode : Bool) {st st' : LexState} {cs : List Char} {ls : List Lexeme}
    (cuts : Cuts st cs ls st') (balanced : Balanced st.outer.length ls) :
    (EndsInComment st cs ∧ Cuts (st.within mode) (cs ++ closing) ls (st'.within mode)) ∨
      (¬ EndsInComment st cs ∧ ∀ ls' last, Cuts (st'.within mode) closing ls' last →
        Cuts (st.within mode) (cs ++ closing) (ls ++ ls') last) := by
  induction cuts with
  | done st => exact .inr ⟨(by rintro ⟨⟩), fun ls' last rest => rest⟩
  | @step st st' c cs step ls read rest ih =>
      rw [endsInComment_cons_iff read]
      by_cases lastComment : StartsLastComment st c cs
      · -- The comment takes in all that is left, with or without what closes the group.
        cases read.symm.trans (lexStep_of_startsLastComment lastComment)
        rw [List.drop_length] at rest
        cases rest
        refine .inl ⟨.inl lastComment, ?_⟩
        have longer : StartsLastComment (st.within mode) c (cs ++ closing) := by
          refine ⟨lastComment.1, lastComment.2.1, fun h => ?_⟩
          rcases List.mem_append.1 h with h | h
          · exact lastComment.2.2 h
          · revert h
            decide
        have nothing : (cs ++ closing).drop (cs ++ closing).length = [] := List.drop_length
        have walk := Cuts.step (lexStep_of_startsLastComment longer)
          (nothing.symm ▸ Cuts.done (st.within mode))
        exact walk
      · have enclosed : step.lexeme = some .groupClose → st.outer ≠ [] := by
          intro lexeme
          rw [lexeme] at balanced
          exact List.length_pos_iff.1 (Nat.pos_of_ne_zero (balanced.1 rfl))
        have later : Balanced step.state.outer.length ls := by
          rw [(measured_lexStep read).depth]
          cases lexeme : step.lexeme with
          | none =>
              rw [lexeme] at balanced
              exact balanced
          | some l =>
              rw [lexeme] at balanced
              exact balanced.2
        obtain ⟨inside, same⟩ := carried_lexStep mode read lastComment enclosed
        have first : lexStep (st.within mode) c (cs ++ closing) = .ok (step.within mode) := same
        have behind : (cs ++ closing).drop step.length = cs.drop step.length ++ closing :=
          List.drop_append_of_le_length inside
        rcases ih later with ⟨comment, tail⟩ | ⟨noComment, tail⟩
        · have walk := Cuts.step first (behind.symm ▸ tail)
          exact .inl ⟨.inr comment, walk⟩
        · refine .inr ⟨fun h => h.elim lastComment noComment, fun ls' last closed => ?_⟩
          have walk := Cuts.step first (behind.symm ▸ tail ls' last closed)
          rw [List.append_assoc]
          exact walk

end TestDiscovery.Pattern
