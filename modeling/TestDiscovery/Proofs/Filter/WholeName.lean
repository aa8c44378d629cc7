/-
# TestDiscovery.Proofs.Filter.WholeName -- class names are matched as a whole

A class name filter looks for a match of its pattern between two anchors.  It finds one
exactly when the pattern alone matches from the start of a name to its end
(`matchesName_iff`), in some way and not only in the one that a matcher would try first.
Filters that include and filters that exclude are made from the same patterns and find
the same names.

A pattern that is refused alone makes no filter, and the group around the others cannot
be left from inside (`anchors_enclose_pattern`).
-/
import TestDiscovery.Filter.ClassName
import TestDiscovery.Proofs.Pattern.Anchored

namespace TestDiscovery

set_option autoImplicit false

namespace Pattern

/-! ## Whole texts -/

/-- The text is a pattern. -/
def Accepted (text : List Char) : Prop := ∃ e, compile text = .ok e

/-- The pattern, which is one by itself, matches the whole of a text. -/
def MatchesWhole (pattern text : String) : Prop :=
  ∃ e, compile pattern.toList = .ok e ∧ e.Matches text.toList 0 text.toList.length

theorem not_accepted_iff {text : List Char} :
    ¬ Accepted text ↔ ∃ fault, compile text = .error fault := by
  unfold Accepted
  cases compile text with
  | error fault => exact ⟨fun _ => ⟨fault, rfl⟩, fun _ ⟨e, h⟩ => nomatch h⟩
  | ok e => exact ⟨fun h => absurd ⟨e, rfl⟩ h, fun ⟨fault, h⟩ => nomatch h⟩

theorem compileWhole_eq_ok_iff {text : List Char} {e' : Expr} : compileWhole text = .ok e' ↔
    ∃ e, compile text = .ok e ∧ compile (anchored text) = .ok e' :=
  bind_eq_ok_iff

theorem holds_startText_iff {text : List Char} {i : Nat} (within : i ≤ text.length) :
    Look.startText.holds (pointAt text i) = true ↔ i = 0 := by
  cases i with
  | zero => exact ⟨fun _ => rfl, fun _ => rfl⟩
  | succ i =>
      rw [pointAt, if_neg (Nat.succ_ne_zero i), Nat.add_sub_cancel,
        List.getElem?_eq_getElem (Nat.lt_of_succ_le within)]
      exact ⟨nofun, nofun⟩

theorem holds_endText_iff {text : List Char} {i : Nat} (within : i ≤ text.length) :
    Look.endText.holds (pointAt text i) = true ↔ i = text.length := by
  rw [Look.holds, pointAt, Option.isNone_iff_eq_none, List.getElem?_eq_none_iff]
  exact ⟨Nat.le_antisymm within, fun h => Nat.le_of_eq h.symm⟩

/-- Before any flag is set no line feed ends a line, so the anchors hold at the two ends only. -/
theorem matches_whole_iff {e : Expr} {text : List Char} {i j : Nat} (within : i ≤ text.length) :
    (Modes.initial.whole e).Matches text i j ↔
      i = 0 ∧ j = text.length ∧ e.Matches text 0 text.length := by
  constructor
  · rintro ⟨_, ⟨start, rfl⟩, m, inside, finish, rfl⟩
    cases (holds_startText_iff within).1 start
    have last := (holds_endText_iff (inside.le_length within)).1 finish
    exact ⟨rfl, last, last ▸ inside⟩
  · rintro ⟨rfl, rfl, inside⟩
    exact ⟨0, ⟨(holds_startText_iff within).2 rfl, rfl⟩, _, inside,
      (holds_endText_iff (Nat.le_refl _)).2 rfl, rfl⟩

theorem matchesIn_whole_iff {e : Expr} (ordered : e.Ordered) (text : String) :
    (Modes.initial.whole e).matchesIn text = true ↔
      e.Matches text.toList 0 text.toList.length := by
  have bound : (Modes.initial.whole e).Ordered := And.intro trivial (And.intro ordered trivial)
  rw [matchesIn_eq_true_iff bound]
  constructor
  · rintro ⟨i, within, j, span⟩
    exact ((matches_whole_iff within).1 span).2.2
  · intro span
    exact ⟨0, Nat.zero_le _, _, (matches_whole_iff (Nat.zero_le _)).2 ⟨rfl, rfl, span⟩⟩

end Pattern

namespace ClassNameFilter

open Pattern

/-! ## Filters of patterns -/

theorem ofPattern_eq_ok_iff {mode : FilterMode} {p : String} {f : ClassNameFilter} :
    ofPattern mode p = .ok f ↔
      ∃ e, compileWhole p.toList = .ok e ∧ f = ⟨p, mode, e⟩ := by
  unfold ofPattern
  cases compileWhole p.toList with
  | error fault => exact ⟨nofun, fun ⟨e, h, _⟩ => nomatch h⟩
  | ok e =>
      constructor
      · rintro ⟨⟩
        exact ⟨e, rfl, rfl⟩
      · rintro ⟨_, ⟨⟩, rfl⟩
        rfl

/-- A text that is no pattern, or none between anchors, makes no filter of either mode. -/
theorem ofPattern_of_refused {p : String}
    (refused : ¬ (Accepted p.toList ∧ Accepted (anchored p.toList))) (mode : FilterMode) :
    ofPattern mode p = .error (.malformedPattern p) := by
  unfold ofPattern
  cases whole : compileWhole p.toList with
  | error fault => rfl
  | ok e' =>
      obtain ⟨e, alone, inGroup⟩ := compileWhole_eq_ok_iff.1 whole
      exact absurd ⟨⟨e, alone⟩, ⟨e', inGroup⟩⟩ refused

/-- **A filter finds the names that its pattern matches as a whole.** -/
theorem matchesName_iff {mode : FilterMode} {p : String} {f : ClassNameFilter}
    (made : ofPattern mode p = .ok f) (name : String) :
    f.matchesName name = true ↔ MatchesWhole p name := by
  obtain ⟨e', whole, rfl⟩ := ofPattern_eq_ok_iff.1 made
  obtain ⟨e, alone, inGroup⟩ := compileWhole_eq_ok_iff.1 whole
  cases compile_anchored_eq alone inGroup
  rw [show matchesName ⟨p, mode, Modes.initial.whole e⟩ name =
    (Modes.initial.whole e).matchesIn name from rfl, matchesIn_whole_iff (ordered_of_compile alone)]
  constructor
  · intro span
    exact ⟨e, alone, span⟩
  · rintro ⟨e₁, alone₁, span⟩
    cases alone.symm.trans alone₁
    exact span

theorem isIncluded_of_include {p : String} {f : ClassNameFilter}
    (made : ofPattern .include p = .ok f) (name : String) :
    (f.apply name).isIncluded = true ↔ MatchesWhole p name := by
  rw [← matchesName_iff made]
  obtain ⟨e, -, rfl⟩ := ofPattern_eq_ok_iff.1 made
  unfold apply
  cases matchesName _ name <;> simp [Verdict.isIncluded]

theorem isIncluded_of_exclude {p : String} {f : ClassNameFilter}
    (made : ofPattern .exclude p = .ok f) (name : String) :
    (f.apply name).isIncluded = true ↔ ¬ MatchesWhole p name := by
  rw [← matchesName_iff made]
  obtain ⟨e, -, rfl⟩ := ofPattern_eq_ok_iff.1 made
  unfold apply
  cases matchesName _ name <;> simp [Verdict.isIncluded]

/-- **Both modes go by matches of whole names**: the pattern's own match from the start of the name
to its end, with its own flags, is all that counts. -/
theorem includes_iff_matches_whole {p : String} {f : ClassNameFilter}
    (accepted : ofPattern .include p = .ok f) :
    ∃ e g, compile p.toList = .ok e ∧ ofPattern .exclude p = .ok g ∧ ∀ name : String,
      ((f.apply name).isIncluded = true ↔ e.Matches name.toList 0 name.toList.length) ∧
      ((g.apply name).isIncluded = false ↔ e.Matches name.toList 0 name.toList.length) := by
  obtain ⟨e', whole, -⟩ := ofPattern_eq_ok_iff.1 accepted
  obtain ⟨e, alone, -⟩ := compileWhole_eq_ok_iff.1 whole
  have excluding : ofPattern .exclude p = .ok ⟨p, .exclude, e'⟩ :=
    ofPattern_eq_ok_iff.2 ⟨e', whole, rfl⟩
  have matched : ∀ name, MatchesWhole p name ↔ e.Matches name.toList 0 name.toList.length := by
    intro name
    constructor
    · rintro ⟨e₁, alone₁, span⟩
      cases alone.symm.trans alone₁
      exact span
    · intro span
      exact ⟨e, alone, span⟩
  refine ⟨e, _, alone, excluding, fun name => ⟨?_, ?_⟩⟩
  · rw [isIncluded_of_include accepted, matched]
  · rw [← Bool.not_eq_true, isIncluded_of_exclude excluding, not_not, matched]

/-- A choice at the top of a pattern and a flag of its own, with a name of two lines. -/
theorem includes_iff_matches_whole_lines :
    let p := "(?m)Foo$|Bar"
    ∃ f, ofPattern .include p = .ok f ∧
      (f.apply "Bar").isIncluded = true ∧ (f.apply "Foo\nBar").isIncluded = false ∧
      ∃ e g, compile p.toList = .ok e ∧ ofPattern .exclude p = .ok g ∧ ∀ name : String,
        ((f.apply name).isIncluded = true ↔ e.Matches name.toList 0 name.toList.length) ∧
        ((g.apply name).isIncluded = false ↔ e.Matches name.toList 0 name.toList.length) := by
  intro p
  have verdicts : (ofPattern .include p).toOption.map (fun f =>
      ((f.apply "Bar").isIncluded, (f.apply "Foo\nBar").isIncluded)) = some (true, false) := by
    decide +kernel
  cases made : ofPattern .include p with
  | error fault =>
      rw [made] at verdicts
      cases verdicts
  | ok f =>
      rw [made] at verdicts
      obtain ⟨bar, lines⟩ := Prod.mk.inj (Option.some.inj verdicts)
      exact ⟨f, rfl, bar, lines, includes_iff_matches_whole made⟩

/-! ## The group around a pattern -/

/-- **The group around a pattern cannot be left from inside, and costs nothing else.**  A text that
is no pattern alone makes no filter.  Between the anchors, which no flag of the pattern reaches,
stands the tree of the pattern, in a group that is neither numbered nor named.  An accepted pattern
is refused between them only for a comment at its end, for its nesting or for its size. -/
theorem anchors_enclose_pattern (p : String) :
    (¬ Accepted p.toList → ∀ mode, ofPattern mode p = .error (.malformedPattern p)) ∧
    (Accepted p.toList → Accepted (anchored p.toList) →
      ∃ t, parse p.toList = .ok t ∧ parse (anchored p.toList) = .ok t.whole ∧
        ∀ m, t.whole.exprWith m = (t.exprWith m).map fun r => (m.whole r.1, m)) ∧
    (Accepted p.toList → ¬ Accepted (anchored p.toList) →
      (∀ mode, ofPattern mode p = .error (.malformedPattern p)) ∧
      (EndsInComment .start p.toList ∨ TooDeep (anchored p.toList) ∨
        TooLarge (anchored p.toList))) := by
  refine ⟨fun refused => ?_, ?_, ?_⟩
  · exact ofPattern_of_refused fun both => refused both.1
  · rintro ⟨e, alone⟩ ⟨e', inGroup⟩
    obtain ⟨t, parsed, -, -⟩ := compile_eq_ok_iff.1 alone
    obtain ⟨t', parsed', -, -⟩ := compile_eq_ok_iff.1 inGroup
    cases parse_anchored parsed parsed'
    exact ⟨t, parsed, parsed', exprWith_whole t⟩
  · rintro ⟨e, alone⟩ refused
    exact ⟨ofPattern_of_refused fun both => refused both.2,
      (refused_anchored_iff alone).1 (not_accepted_iff.1 refused)⟩

/-- A parenthesis that would leave the group, an anchor and a flag of the pattern's own, and a
comment that takes in the end of the group. -/
theorem anchors_enclose_pattern_each :
    (¬ Accepted "a)(b".toList ∧
      ∀ mode, ofPattern mode "a)(b" = .error (.malformedPattern "a)(b")) ∧
    (∃ t, parse "(?m)Foo$|Bar".toList = .ok t ∧
      parse (anchored "(?m)Foo$|Bar".toList) = .ok t.whole ∧
        ∀ m, t.whole.exprWith m = (t.exprWith m).map fun r => (m.whole r.1, m)) ∧
    (∀ mode, ofPattern mode "(?x)a # b" = .error (.malformedPattern "(?x)a # b")) ∧
      (EndsInComment .start "(?x)a # b".toList ∨ TooDeep (anchored "(?x)a # b".toList) ∨
        TooLarge (anchored "(?x)a # b".toList)) := by
  have stray : ¬ Accepted "a)(b".toList := fun ⟨_, h⟩ => nomatch h
  have alone : Accepted "(?m)Foo$|Bar".toList := ⟨_, rfl⟩
  have inGroup : Accepted (anchored "(?m)Foo$|Bar".toList) := ⟨_, rfl⟩
  have comment : Accepted "(?x)a # b".toList := ⟨_, rfl⟩
  have unclosed : ¬ Accepted (anchored "(?x)a # b".toList) := fun ⟨_, h⟩ => nomatch h
  exact ⟨⟨stray, (anchors_enclose_pattern _).1 stray⟩,
    (anchors_enclose_pattern _).2.1 alone inGroup,
    (anchors_enclose_pattern _).2.2 comment unclosed⟩

end ClassNameFilter

end TestDiscovery
