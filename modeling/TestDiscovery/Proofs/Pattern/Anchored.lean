/-
# TestDiscovery.Proofs.Pattern.Anchored -- a pattern bound to both ends of a text

`anchored` writes a pattern between two anchors, inside a group of its own.  When the
pattern is accepted alone, the group holds the tree of the pattern and nothing else
(`parse_anchored`): no parenthesis of the pattern closes the group, no bar splits the
anchors, and no flag reaches them (`exprWith_whole`).  The group can be left open only
by a comment at the end of the pattern, and all else that the longer text can be refused
for is the nesting and the size (`refused_anchored_iff`).
-/
import TestDiscovery.Proofs.Pattern.Bounds
import TestDiscovery.Proofs.Pattern.Enclosed

namespace TestDiscovery.Pattern

set_option autoImplicit false

/-! ## Stacks inside one more group -/

/-- The stack with one more group around all that are open. -/
def Stack.within (st : Stack) (frame : GroupKind × Branches) : Stack :=
  { st with outer := st.outer ++ [frame] }

theorem Stack.pushItem_within (st : Stack) (frame : GroupKind × Branches) (t : SetTree) :
    (st.within frame).pushItem t = (st.pushItem t).within frame := by
  obtain ⟨sets, inner, outer⟩ := st
  cases sets <;> rfl

theorem Stack.closeSet_within (st : Stack) (frame : GroupKind × Branches) :
    (st.within frame).closeSet = st.closeSet.within frame := by
  obtain ⟨sets, inner, outer⟩ := st
  rcases sets with _ | ⟨s, _ | ⟨s', sets⟩⟩ <;> rfl

theorem Stack.operate_within (st : Stack) (frame : GroupKind × Branches) (op : SetOperator) :
    (st.within frame).operate op = (st.operate op).within frame := by
  obtain ⟨sets, inner, outer⟩ := st
  cases sets <;> rfl

/-- A lexeme that is taken alone is taken in the same way inside one more group. -/
theorem Stack.take_within (frame : GroupKind × Branches) {st st' : Stack} {l : Lexeme}
    (h : st.take l = .ok st') : (st.within frame).take l = .ok (st'.within frame) := by
  cases l with
  | atom => cases h; rfl
  | flags => cases h; rfl
  | groupOpen => cases h; rfl
  | groupClose =>
      obtain ⟨sets, inner, outer⟩ := st
      cases outer with
      | nil => cases h
      | cons around rest => cases h; rfl
  | bar => cases h; rfl
  | repetition min max =>
      obtain ⟨sets, ⟨parts, finished⟩, outer⟩ := st
      cases parts with
      | nil => cases h
      | cons t rest => cases t <;> cases h <;> rfl
  | setOpen => cases h; rfl
  | setItem => cases h; exact congrArg Except.ok (st.pushItem_within frame _)
  | setOperator => cases h; exact congrArg Except.ok (st.operate_within frame _)
  | setClose => cases h; exact congrArg Except.ok (st.closeSet_within frame)

theorem Stack.run_within (frame : GroupKind × Branches) {st st' : Stack} {ls : List Lexeme}
    (h : ls.foldlM Stack.take st = .ok st') :
    ls.foldlM Stack.take (st.within frame) = .ok (st'.within frame) := by
  induction ls generalizing st with
  | nil => cases h; rfl
  | cons l ls ih =>
      rw [List.foldlM_cons] at h ⊢
      obtain ⟨next, first, rest⟩ := bind_eq_ok_iff.1 h
      exact bind_eq_ok_iff.2 ⟨_, take_within frame first, ih rest⟩

theorem Stack.outer_pushItem (st : Stack) (t : SetTree) : (st.pushItem t).outer = st.outer := by
  unfold Stack.pushItem
  split <;> rfl

theorem Stack.outer_closeSet (st : Stack) : st.closeSet.outer = st.outer := by
  unfold Stack.closeSet
  split
  · rfl
  · rfl
  · exact outer_pushItem _ _

theorem Stack.outer_operate (st : Stack) (op : SetOperator) :
    (st.operate op).outer = st.outer := by
  unfold Stack.operate
  split <;> rfl

/-- The stack counts the open groups, and closes none that is not there. -/
theorem Stack.take_depth {st st' : Stack} {l : Lexeme} (h : st.take l = .ok st') :
    (l = .groupClose → st.outer.length ≠ 0) ∧
      st'.outer.length = l.depthAfter st.outer.length := by
  cases l with
  | atom => cases h; exact ⟨nofun, rfl⟩
  | flags => cases h; exact ⟨nofun, rfl⟩
  | groupOpen => cases h; exact ⟨nofun, rfl⟩
  | groupClose =>
      obtain ⟨sets, inner, outer⟩ := st
      cases outer with
      | nil => cases h
      | cons around rest => cases h; exact ⟨fun _ => Nat.succ_ne_zero _, rfl⟩
  | bar => cases h; exact ⟨nofun, rfl⟩
  | repetition min max =>
      obtain ⟨sets, ⟨parts, finished⟩, outer⟩ := st
      cases parts with
      | nil => cases h
      | cons t rest => cases t <;> cases h <;> exact ⟨nofun, rfl⟩
  | setOpen => cases h; exact ⟨nofun, rfl⟩
  | setItem => cases h; exact ⟨nofun, congrArg List.length (st.outer_pushItem _)⟩
  | setOperator => cases h; exact ⟨nofun, congrArg List.length (st.outer_operate _)⟩
  | setClose => cases h; exact ⟨nofun, congrArg List.length st.outer_closeSet⟩

theorem Stack.run_depth {st st' : Stack} {ls : List Lexeme}
    (h : ls.foldlM Stack.take st = .ok st') : Balanced st.outer.length ls ∧
      st'.outer.length = ls.foldl Lexeme.depthAfter st.outer.length := by
  induction ls generalizing st with
  | nil =>
      cases h
      exact ⟨trivial, rfl⟩
  | cons l ls ih =>
      rw [List.foldlM_cons] at h
      obtain ⟨next, first, rest⟩ := bind_eq_ok_iff.1 h
      obtain ⟨closes, depth⟩ := take_depth first
      rw [Balanced, List.foldl_cons, ← depth]
      exact ⟨⟨closes, (ih rest).1⟩, (ih rest).2⟩

/-! ## The lexemes of an anchored pattern -/

/-- The lexemes in front of an anchored pattern. -/
def front : List Lexeme := [.atom (.assertion .startLine), .groupOpen (.flagged [])]

/-- The lexemes behind an anchored pattern. -/
def back : List Lexeme := [.groupClose, .atom (.assertion .endLine)]

/-- The open group around an anchored pattern. -/
def around : GroupKind × Branches := (.flagged [], ⟨[.atom (.assertion .startLine)], []⟩)

theorem cuts_front {cs : List Char} {ls : List Lexeme} {last : LexState}
    (h : Cuts (LexState.start.within false) cs ls last) :
    Cuts .start ("^(?:".toList ++ cs) (front ++ ls) last := by
  have anchor : lexStep .start '^' ('(' :: '?' :: ':' :: cs) =
      .ok ⟨some (.atom (.assertion .startLine)), .start, 0⟩ := rfl
  have group : lexStep .start '(' ('?' :: ':' :: cs) =
      .ok ⟨some (.groupOpen (.flagged [])), LexState.start.within false, 2⟩ := rfl
  exact .step anchor (.step group h)

theorem cuts_back {st : LexState} (mode : Bool) (closed : st.outer = []) (noSet : st.sets = 0) :
    ∃ last, Cuts (st.within mode) closing back last ∧ last.sets = 0 := by
  obtain ⟨verbose, outer, sets, names⟩ := st
  cases closed
  cases noSet
  have group : lexStep (LexState.within ⟨verbose, [], 0, names⟩ mode) ')' ['$'] =
      .ok ⟨some .groupClose, ⟨mode, [], 0, names⟩, 0⟩ := by
    cases verbose <;> rfl
  have anchor : lexStep ⟨mode, [], 0, names⟩ '$' [] =
      .ok ⟨some (.atom (.assertion .endLine)), ⟨mode, [], 0, names⟩, 0⟩ := by
    cases mode <;> rfl
  exact ⟨_, .step group (.step anchor (.done _)), rfl⟩

/-- **The lexemes of an anchored pattern** are those of the pattern, between those of the
anchors; a comment at its end takes in what closes the group. -/
theorem lex_anchored {text : List Char} {ls : List Lexeme} {t : Tree} (cut : lex text = .ok ls)
    (built : Tree.ofLexemes ls = .ok t) :
    (EndsInComment .start text ∧ lex (anchored text) = .ok (front ++ ls)) ∨
      (¬ EndsInComment .start text ∧ lex (anchored text) = .ok (front ++ (ls ++ back))) := by
  obtain ⟨st', cuts, noSet⟩ := lexFrom_eq_ok_iff.1 cut
  obtain ⟨last, taken, closed, -⟩ := Tree.ofLexemes_eq_ok_iff.1 built
  obtain ⟨balanced, depth⟩ := Stack.run_depth taken
  have outside : st'.outer = [] := by
    rw [← List.length_eq_zero_iff, cuts_depth cuts]
    exact depth.symm.trans (congrArg List.length closed)
  have text_eq : anchored text = "^(?:".toList ++ (text ++ closing) := List.append_assoc ..
  rw [text_eq]
  rcases cuts_closing false cuts balanced with ⟨comment, inside⟩ | ⟨noComment, goesOn⟩
  · exact .inl ⟨comment, lexFrom_eq_ok_iff.2 ⟨_, cuts_front inside, noSet⟩⟩
  · obtain ⟨final, behind, noSet'⟩ := cuts_back false outside noSet
    exact .inr ⟨noComment, lexFrom_eq_ok_iff.2 ⟨_, cuts_front (goesOn _ _ behind), noSet'⟩⟩

/-! ## The tree of an anchored pattern -/

/-- A tree between two anchors, in a group that is neither numbered nor named. -/
def Tree.whole (t : Tree) : Tree :=
  .cat (.atom (.assertion .startLine)) (.cat (.group (.flagged []) t) (.atom (.assertion .endLine)))

theorem run_front {st : Stack} {ls : List Lexeme} (h : ls.foldlM Stack.take .start = .ok st) :
    (front ++ ls).foldlM Stack.take .start = .ok (st.within around) := by
  have opened : front.foldlM Stack.take .start = .ok (Stack.start.within around) := rfl
  rw [List.foldlM_append, opened]
  exact Stack.run_within around h

theorem ofLexemes_anchored {ls : List Lexeme} {t : Tree} (built : Tree.ofLexemes ls = .ok t) :
    Tree.ofLexemes (front ++ (ls ++ back)) = .ok t.whole := by
  obtain ⟨⟨sets, inner, outer⟩, taken, closed, rfl⟩ := Tree.ofLexemes_eq_ok_iff.1 built
  cases closed
  have run : (front ++ (ls ++ back)).foldlM Stack.take .start = .ok ⟨sets,
      ⟨[.atom (.assertion .endLine), .group (.flagged []) inner.tree,
        .atom (.assertion .startLine)], []⟩, []⟩ := by
    rw [← List.append_assoc, List.foldlM_append, run_front taken]
    rfl
  exact Tree.ofLexemes_eq_ok_iff.2 ⟨_, run, rfl, rfl⟩

theorem ofLexemes_open {ls : List Lexeme} {t : Tree} (built : Tree.ofLexemes ls = .ok t) :
    Tree.ofLexemes (front ++ ls) = .error .unclosedGroup := by
  obtain ⟨⟨sets, inner, outer⟩, taken, closed, -⟩ := Tree.ofLexemes_eq_ok_iff.1 built
  cases closed
  unfold Tree.ofLexemes
  rw [run_front taken]
  rfl

/-- **The group around a pattern is not escaped.** -/
theorem parse_anchored {text : List Char} {t t' : Tree} (alone : parse text = .ok t)
    (inGroup : parse (anchored text) = .ok t') : t' = t.whole := by
  obtain ⟨ls, cut, built, -⟩ := parse_eq_ok_iff.1 alone
  obtain ⟨ls', cut', built', -⟩ := parse_eq_ok_iff.1 inGroup
  rcases lex_anchored cut built with ⟨-, longer⟩ | ⟨-, longer⟩
  · cases cut'.symm.trans longer
    cases built'.symm.trans (ofLexemes_open built)
  · cases cut'.symm.trans longer
    cases built'.symm.trans (ofLexemes_anchored built)
    rfl

/-- The meaning of a pattern between two anchors that are read under the flags `m`. -/
def Modes.whole (m : Modes) (e : Expr) : Expr :=
  .cat (.look (m.look .startLine)) (.cat e (.look (m.look .endLine)))

/-- **No flag of a pattern reaches the anchors**: both are read under the flags that are in force
before the pattern, and these are in force after it again. -/
theorem exprWith_whole (t : Tree) (m : Modes) :
    t.whole.exprWith m = (t.exprWith m).map fun r => (m.whole r.1, m) := by
  have unfolded : t.whole.exprWith m =
      (((t.exprWith m >>= fun r => pure (r.1, m)) >>= fun r =>
        pure (Expr.cat r.1 (.look (r.2.look .endLine)), r.2)) >>= fun r =>
          pure (Expr.cat (.look (m.look .startLine)) r.1, r.2)) := rfl
  rw [unfolded]
  cases t.exprWith m <;> rfl

theorem expr_whole (t : Tree) : t.whole.expr = t.expr.map Modes.initial.whole := by
  unfold Tree.expr
  rw [exprWith_whole]
  cases t.exprWith .initial <;> rfl

/-! ## Why an anchored pattern is refused -/

/-- The text has a structure, and it is nested too deep. -/
def TooDeep (text : List Char) : Prop :=
  ∃ ls t, lex text = .ok ls ∧ Tree.ofLexemes ls = .ok t ∧ nestLimit < t.depth

/-- The text has a meaning, and the machine for it is too large. -/
def TooLarge (text : List Char) : Prop :=
  ∃ t e, parse text = .ok t ∧ t.expr = .ok e ∧ e.fits = false

theorem refused_of_tooDeep {text : List Char} (h : TooDeep text) :
    compile text = .error .tooDeep := by
  obtain ⟨ls, t, cut, built, deep⟩ := h
  have refused : parse text = .error .tooDeep := by
    unfold parse
    rw [cut]
    show (Tree.ofLexemes ls >>= _) = _
    rw [built]
    exact if_neg (Nat.not_le.2 deep)
  unfold compile
  rw [refused]
  rfl

theorem refused_of_tooLarge {text : List Char} (h : TooLarge text) :
    compile text = .error .tooLarge := by
  obtain ⟨t, e, parsed, read, large⟩ := h
  unfold compile
  rw [parsed]
  show (t.expr >>= _) = _
  rw [read]
  exact if_neg (by rw [large]; exact Bool.false_ne_true)

/-- The ways an accepted pattern fares between its anchors. -/
theorem compile_anchored {text : List Char} {e : Expr} (alone : compile text = .ok e) :
    compile (anchored text) = .ok (Modes.initial.whole e) ∨
      EndsInComment .start text ∨ TooDeep (anchored text) ∨ TooLarge (anchored text) := by
  obtain ⟨t, parsed, read, -⟩ := compile_eq_ok_iff.1 alone
  obtain ⟨ls, cut, built, -⟩ := parse_eq_ok_iff.1 parsed
  rcases lex_anchored cut built with ⟨comment, -⟩ | ⟨-, longer⟩
  · exact .inr (.inl comment)
  · have inGroup := ofLexemes_anchored built
    by_cases deep : nestLimit < t.whole.depth
    · exact .inr (.inr (.inl ⟨_, _, longer, inGroup, deep⟩))
    · have parsed' : parse (anchored text) = .ok t.whole :=
        parse_eq_ok_iff.2 ⟨_, longer, inGroup, Nat.not_lt.1 deep⟩
      have read' : t.whole.expr = .ok (Modes.initial.whole e) := by
        rw [expr_whole, read]
        rfl
      cases fits : (Modes.initial.whole e).fits with
      | true => exact .inl (compile_eq_ok_iff.2 ⟨_, parsed', read', fits⟩)
      | false => exact .inr (.inr (.inr ⟨_, _, parsed', read', fits⟩))

/-- **Why an accepted pattern is refused between its anchors**: a comment at its end takes in what
closes the group, or the longer text is nested too deep or makes too large a machine. -/
theorem refused_anchored_iff {text : List Char} {e : Expr} (alone : compile text = .ok e) :
    (∃ fault, compile (anchored text) = .error fault) ↔
      EndsInComment .start text ∨ TooDeep (anchored text) ∨ TooLarge (anchored text) := by
  constructor
  · rintro ⟨fault, refused⟩
    exact (compile_anchored alone).resolve_left fun accepted =>
      nomatch accepted.symm.trans refused
  · rintro (comment | deep | large)
    · obtain ⟨t, parsed, -, -⟩ := compile_eq_ok_iff.1 alone
      obtain ⟨ls, cut, built, -⟩ := parse_eq_ok_iff.1 parsed
      rcases lex_anchored cut built with ⟨-, longer⟩ | ⟨noComment, -⟩
      · refine ⟨.unclosedGroup, ?_⟩
        unfold compile parse
        rw [longer]
        show ((Tree.ofLexemes (front ++ ls) >>= _) >>= _) = _
        rw [ofLexemes_open built]
        rfl
      · exact absurd comment noComment
    · exact ⟨_, refused_of_tooDeep deep⟩
    · exact ⟨_, refused_of_tooLarge large⟩

/-- The meaning of an accepted pattern between its anchors. -/
theorem compile_anchored_eq {text : List Char} {e e' : Expr} (alone : compile text = .ok e)
    (inGroup : compile (anchored text) = .ok e') : e' = Modes.initial.whole e := by
  obtain ⟨t, parsed, read, -⟩ := compile_eq_ok_iff.1 alone
  obtain ⟨t', parsed', read', -⟩ := compile_eq_ok_iff.1 inGroup
  cases parse_anchored parsed parsed'
  rw [expr_whole, read] at read'
  exact (Except.ok.inj read').symm

end TestDiscovery.Pattern
