/-
# TestDiscovery.Proofs.Pattern.Matches -- what it means that a span matches

`Expr.Matches text e i j` says that `e` matches the characters of the text from
position `i` to position `j`.  It is given by the constructors of expressions alone
and says nothing of the order in which a matcher tries them: any way to match counts.
Conditions on a position see the characters of the whole text on both sides.

The walk over sets of positions finds these spans and no others
(`testBit_reach_walk`), so `matchesIn` tells whether there is one
(`matchesIn_eq_true_iff`).  It makes no more rounds of a repetition than the text
has positions, which is enough by `rounds_iff_of_lt_of_le`.
-/
import TestDiscovery.Pattern.Spans
import TestDiscovery.Proofs.Pattern.Rounds
import Mathlib.Logic.Function.Iterate

namespace TestDiscovery.Pattern

set_option autoImplicit false

/-! ## Spans that match -/

/-- The position of a text before its `i`-th character. -/
def pointAt (text : List Char) (i : Nat) : Point :=
  ⟨if i = 0 then none else text[i - 1]?, text[i]?⟩

/-- The expression matches the text from one position to another. -/
def Expr.Matches (text : List Char) : Expr → Nat → Nat → Prop
  | .empty, i, j => i = j
  | .chars set, i, j => (∃ c, text[i]? = some c ∧ set.has c = true) ∧ i + 1 = j
  | .look l, i, j => l.holds (pointAt text i) = true ∧ i = j
  | .cat first rest, i, j => ∃ m, first.Matches text i m ∧ rest.Matches text m j
  | .alt first rest, i, j => first.Matches text i j ∨ rest.Matches text i j
  | .repeated min max body, i, j =>
    ∃ k, min ≤ k ∧ (∀ m ∈ max, k ≤ m) ∧ Rounds (body.Matches text) k i j
  | .capture body, i, j => body.Matches text i j

/-- The bounds of every repetition are in order. -/
def Expr.Ordered : Expr → Prop
  | .empty => True
  | .chars _ => True
  | .look _ => True
  | .cat first rest => first.Ordered ∧ rest.Ordered
  | .alt first rest => first.Ordered ∧ rest.Ordered
  | .repeated min max body => (∀ m ∈ max, min ≤ m) ∧ body.Ordered
  | .capture body => body.Ordered

variable {text : List Char}

/-- A span does not end before it starts. -/
theorem Expr.Matches.le {e : Expr} {i j : Nat} (h : e.Matches text i j) : i ≤ j := by
  induction e generalizing i j with
  | empty => exact Nat.le_of_eq h
  | chars set => exact Nat.le_of_lt (Nat.lt_of_succ_le (Nat.le_of_eq h.2))
  | look l => exact Nat.le_of_eq h.2
  | cat first rest ihFirst ihRest =>
      obtain ⟨m, front, back⟩ := h
      exact Nat.le_trans (ihFirst front) (ihRest back)
  | alt first rest ihFirst ihRest => exact h.elim ihFirst ihRest
  | repeated min max body ih =>
      obtain ⟨k, -, -, rounds⟩ := h
      exact rounds.le fun a b => ih
  | capture body ih => exact ih h

/-- A span that starts within the text ends within it. -/
theorem Expr.Matches.le_length {e : Expr} {i j : Nat} (h : e.Matches text i j)
    (within : i ≤ text.length) : j ≤ text.length := by
  induction e generalizing i j with
  | empty => exact h ▸ within
  | chars set =>
      obtain ⟨⟨c, here, -⟩, rfl⟩ := h
      exact (List.getElem?_eq_some_iff.1 here).1
  | look l => exact h.2 ▸ within
  | cat first rest ihFirst ihRest =>
      obtain ⟨m, front, back⟩ := h
      exact ihRest back (ihFirst front within)
  | alt first rest ihFirst ihRest =>
      exact h.elim (fun h => ihFirst h within) fun h => ihRest h within
  | repeated min max body ih =>
      obtain ⟨k, -, -, rounds⟩ := h
      induction rounds with
      | none i => exact within
      | more first rest ihRounds => exact ihRounds (ih first within)
  | capture body ih => exact ih h within

/-! ## Positions -/

theorem getElem?_pointsAfter (before : Option Char) (cs : List Char) (i : Nat) :
    (pointsAfter before cs)[i]? =
      if i ≤ cs.length then some ⟨if i = 0 then before else cs[i - 1]?, cs[i]?⟩ else none := by
  induction cs generalizing before i with
  | nil => cases i <;> simp [pointsAfter]
  | cons c cs ih =>
      cases i with
      | zero => simp [pointsAfter]
      | succ i =>
          simp only [pointsAfter, List.getElem?_cons_succ, ih, List.length_cons,
            Nat.add_le_add_iff_right, Nat.add_one_ne_zero, if_false, Nat.add_sub_cancel]
          cases i <;> simp

theorem getElem?_points (text : List Char) (i : Nat) :
    (points text)[i]? = if i ≤ text.length then some (pointAt text i) else none := by
  rw [points, getElem?_pointsAfter]
  rfl

theorem length_points (text : List Char) : (points text).length = text.length + 1 :=
  length_pointsAfter none text

/-- The positions of a text where a condition holds. -/
theorem testBit_placesWhere_points (holds : Point → Bool) (text : List Char) (i : Nat) :
    (placesWhere holds (points text)).testBit i = true ↔
      i ≤ text.length ∧ holds (pointAt text i) = true := by
  rw [testBit_placesWhere, getElem?_points]
  split
  · rename_i le
    simp [le]
  · rename_i beyond
    simp [beyond]

/-! ## Sets of positions -/

/-- All positions of the set are positions of the text. -/
def Within (text : List Char) (s : Nat) : Prop := ∀ i, s.testBit i = true → i ≤ text.length

/-- The function takes a set of positions to the positions that the relation leads to from it. -/
def Follows (text : List Char) (f : Nat → Nat) (R : Nat → Nat → Prop) : Prop :=
  ∀ s, Within text s → ∀ j, (f s).testBit j = true ↔ ∃ i, s.testBit i = true ∧ R i j

/-- The relation does not lead out of the text. -/
def StaysWithin (text : List Char) (R : Nat → Nat → Prop) : Prop :=
  ∀ i j, R i j → i ≤ text.length → j ≤ text.length

theorem Follows.within {f : Nat → Nat} {R : Nat → Nat → Prop} (h : Follows text f R)
    (stays : StaysWithin text R) {s : Nat} (within : Within text s) : Within text (f s) := by
  intro j member
  obtain ⟨i, start, step⟩ := (h s within j).1 member
  exact stays i j step (within i start)

theorem Follows.comp {f g : Nat → Nat} {R S : Nat → Nat → Prop} (hf : Follows text f R)
    (hg : Follows text g S) (stays : StaysWithin text R) :
    Follows text (g ∘ f) fun i j => ∃ m, R i m ∧ S m j := by
  intro s within j
  rw [Function.comp_apply, hg (f s) (hf.within stays within) j]
  constructor
  · rintro ⟨m, reached, back⟩
    obtain ⟨i, start, front⟩ := (hf s within m).1 reached
    exact ⟨i, start, m, front, back⟩
  · rintro ⟨i, start, m, front, back⟩
    exact ⟨m, (hf s within m).2 ⟨i, start, front⟩, back⟩

theorem Follows.either {f g : Nat → Nat} {R S : Nat → Nat → Prop} (hf : Follows text f R)
    (hg : Follows text g S) : Follows text (fun s => f s ||| g s) fun i j => R i j ∨ S i j := by
  intro s within j
  rw [Nat.testBit_or, Bool.or_eq_true, hf s within j, hg s within j]
  constructor
  · rintro (⟨i, start, step⟩ | ⟨i, start, step⟩)
    · exact ⟨i, start, Or.inl step⟩
    · exact ⟨i, start, Or.inr step⟩
  · rintro ⟨i, start, step | step⟩
    · exact Or.inl ⟨i, start, step⟩
    · exact Or.inr ⟨i, start, step⟩

theorem follows_id : Follows text id (· = ·) := by
  intro s _ j
  constructor
  · intro member
    exact ⟨j, member, rfl⟩
  · rintro ⟨i, member, rfl⟩
    exact member

theorem Follows.congr {f g : Nat → Nat} {R S : Nat → Nat → Prop} (h : Follows text f R)
    (same : ∀ s, Within text s → g s = f s) (equiv : ∀ i j, i ≤ text.length → (R i j ↔ S i j)) :
    Follows text g S := by
  intro s within j
  rw [same s within, h s within j]
  refine exists_congr fun i => and_congr_right fun start => ?_
  exact equiv i j (within i start)

/-! ## Rounds -/

/-- Stopping where nothing changes any more does not change the outcome. -/
theorem iterate_eq (f : Nat → Nat) (count s : Nat) : iterate f count s = f^[count] s := by
  induction count generalizing s with
  | zero => rfl
  | succ count ih =>
      rw [iterate, Function.iterate_succ_apply]
      split
      · rename_i fixed
        rw [fixed, Function.iterate_fixed fixed]
      · exact ih (f s)

theorem StaysWithin.rounds {R : Nat → Nat → Prop} (stays : StaysWithin text R) (k : Nat) :
    StaysWithin text (Rounds R k) := by
  intro i j rounds within
  induction rounds with
  | none i => exact within
  | more first rest ih => exact ih (stays _ _ first within)

theorem Follows.iterate {f : Nat → Nat} {R : Nat → Nat → Prop} (h : Follows text f R)
    (stays : StaysWithin text R) (k : Nat) : Follows text (iterate f k) (Rounds R k) := by
  induction k with
  | zero =>
      exact follows_id.congr (fun s _ => rfl) fun i j _ => rounds_zero_iff.symm
  | succ k ih =>
      refine (h.comp ih stays).congr (fun s _ => ?_) fun i j _ => rounds_succ_iff.symm
      rw [iterate_eq, Function.iterate_succ_apply, Function.comp_apply, iterate_eq]

/-- As many rounds as the text has positions do the work of any larger number. -/
theorem rounds_min_iff {R : Nat → Nat → Prop} (forward : ∀ a b, R a b → a ≤ b)
    (stays : StaysWithin text R) (k : Nat) {i j : Nat} (within : i ≤ text.length) :
    Rounds R (min k (text.length + 1)) i j ↔ Rounds R k i j := by
  by_cases few : k ≤ text.length + 1
  · rw [Nat.min_eq_left few]
  · rw [Nat.min_eq_right (by omega)]
    constructor
    · intro rounds
      have := stays.rounds _ i j rounds within
      exact (rounds_iff_of_lt_of_le forward (by omega) (by omega)).2 rounds
    · intro rounds
      have := stays.rounds _ i j rounds within
      exact (rounds_iff_of_lt_of_le forward (by omega) (by omega)).1 rounds

/-- The number of rounds that stands for at most `most` rounds, in a text with `size` positions. -/
def optionalRounds (size : Nat) : Option Nat → Nat
  | none => size
  | some most => min most size

theorem exists_le_optionalRounds_iff {R : Nat → Nat → Prop} (forward : ∀ a b, R a b → a ≤ b)
    (stays : StaysWithin text R) (most : Option Nat) {i j : Nat} (within : i ≤ text.length) :
    (∃ k ≤ optionalRounds (text.length + 1) most, Rounds R k i j) ↔
      ∃ k, (∀ m ∈ most, k ≤ m) ∧ Rounds R k i j := by
  constructor
  · rintro ⟨k, le, rounds⟩
    refine ⟨k, ?_, rounds⟩
    rintro m ⟨⟩
    exact Nat.le_trans le (Nat.min_le_left m _)
  · rintro ⟨k, le, rounds⟩
    refine ⟨min k (text.length + 1), ?_, (rounds_min_iff forward stays k within).2 rounds⟩
    cases most with
    | none => exact Nat.min_le_right k _
    | some m =>
        exact Nat.le_min.2 ⟨Nat.le_trans (Nat.min_le_left k _) (le m rfl), Nat.min_le_right k _⟩

/-- A repetition is its least number of rounds and then some that may be left out. -/
theorem rounds_between_iff {R : Nat → Nat → Prop} {lo : Nat} {hi : Option Nat}
    (ordered : ∀ m ∈ hi, lo ≤ m) {i j : Nat} :
    (∃ k, lo ≤ k ∧ (∀ m ∈ hi, k ≤ m) ∧ Rounds R k i j) ↔
      ∃ m, Rounds R lo i m ∧ ∃ k, (∀ most ∈ hi.map (· - lo), k ≤ most) ∧ Rounds R k m j := by
  have bounds : ∀ k, (∀ m ∈ hi, lo + k ≤ m) ↔ ∀ most ∈ hi.map (· - lo), k ≤ most := by
    intro k
    cases hi with
    | none => simp
    | some m =>
        have := ordered m rfl
        simp only [Option.mem_def, Option.some.injEq, forall_eq', Option.map_some]
        omega
  constructor
  · rintro ⟨k, le, bounded, rounds⟩
    obtain ⟨more, rfl⟩ := Nat.exists_eq_add_of_le le
    obtain ⟨m, front, back⟩ := (rounds_add_iff more).1 rounds
    exact ⟨m, front, more, (bounds more).1 bounded, back⟩
  · rintro ⟨m, front, more, bounded, back⟩
    exact ⟨lo + more, Nat.le_add_right lo more, (bounds more).2 bounded,
      (rounds_add_iff more).2 ⟨m, front, back⟩⟩

/-! ## Walks -/

theorem reach_repeated (size lo : Nat) (hi : Option Nat) (body : Walk) :
    (Walk.repeated lo hi body).reach size =
      iterate (fun s => id s ||| body.reach size s) (optionalRounds size (hi.map (· - lo))) ∘
        iterate (body.reach size) (min lo size) := by
  cases hi <;> rfl

theorem follows_repeated {R : Nat → Nat → Prop} {body : Walk} {lo : Nat} {hi : Option Nat}
    (h : Follows text (body.reach (text.length + 1)) R) (forward : ∀ a b, R a b → a ≤ b)
    (stays : StaysWithin text R) (ordered : ∀ m ∈ hi, lo ≤ m) :
    Follows text ((Walk.repeated lo hi body).reach (text.length + 1)) fun i j =>
      ∃ k, lo ≤ k ∧ (∀ m ∈ hi, k ≤ m) ∧ Rounds R k i j := by
  have optional : StaysWithin text fun i j => i = j ∨ R i j := by
    rintro i j (rfl | step) within
    · exact within
    · exact stays i j step within
  have least := h.iterate stays (min lo (text.length + 1))
  have further := (follows_id.either h).iterate optional
    (optionalRounds (text.length + 1) (hi.map (· - lo)))
  refine (least.comp further (stays.rounds _)).congr (fun s _ => ?_) fun i j within => ?_
  · rw [reach_repeated]
  · rw [rounds_between_iff ordered]
    refine exists_congr fun m => ?_
    rw [rounds_min_iff forward stays lo within, rounds_optional_iff]
    refine and_congr_right fun front => ?_
    exact exists_le_optionalRounds_iff forward stays _ (stays.rounds _ i m front within)

/-- **The walk of an expression follows the spans that it matches.** -/
theorem follows_walk {e : Expr} (ordered : e.Ordered) (text : List Char) :
    Follows text ((e.walk (points text)).reach (text.length + 1)) (e.Matches text) := by
  induction e with
  | empty =>
      refine follows_id.congr (fun s within => Nat.eq_of_testBit_eq fun i => ?_) fun i j _ => Iff.rfl
      have everywhere := testBit_placesWhere_points (fun _ => true) text i
      rw [Expr.walk, Walk.reach, Nat.testBit_and, id]
      cases here : s.testBit i with
      | false => rfl
      | true => rw [everywhere.2 ⟨within i here, rfl⟩]; rfl
  | chars set =>
      intro s within j
      have placed := testBit_placesWhere_points (fun p => p.after.any set.has) text
      simp only [Expr.walk, Walk.reach]
      cases j with
      | zero => simp [Expr.Matches, Nat.testBit_zero]
      | succ j =>
          rw [Nat.testBit_succ, Nat.mul_div_cancel_left _ (by decide), Nat.testBit_and,
            Bool.and_eq_true, placed j]
          constructor
          · rintro ⟨start, -, here⟩
            exact ⟨j, start, (Option.any_eq_true _ _).1 here, rfl⟩
          · rintro ⟨i, start, here, same⟩
            obtain rfl : i = j := Nat.succ.inj same
            exact ⟨start, within i start, (Option.any_eq_true _ _).2 here⟩
  | look l =>
      intro s within j
      simp only [Expr.walk, Walk.reach, Nat.testBit_and, Bool.and_eq_true,
        testBit_placesWhere_points, Expr.Matches]
      constructor
      · rintro ⟨start, -, holds⟩
        exact ⟨j, start, holds, rfl⟩
      · rintro ⟨i, start, holds, rfl⟩
        exact ⟨start, within i start, holds⟩
  | cat first rest ihFirst ihRest =>
      exact (ihFirst ordered.1).comp (ihRest ordered.2) fun _ _ => Expr.Matches.le_length
  | alt first rest ihFirst ihRest => exact (ihFirst ordered.1).either (ihRest ordered.2)
  | repeated min max body ih =>
      exact follows_repeated (ih ordered.2) (fun _ _ => Expr.Matches.le)
        (fun _ _ => Expr.Matches.le_length) ordered.1
  | capture body ih => exact ih ordered

/-- **Some span of the text matches.** -/
theorem matchesIn_eq_true_iff {e : Expr} (ordered : e.Ordered) (text : String) :
    e.matchesIn text = true ↔ ∃ i ≤ text.toList.length, ∃ j, e.Matches text.toList i j := by
  have everywhere := testBit_placesWhere_points (fun _ => true) text.toList
  have follows := follows_walk ordered text.toList _ fun i start => ((everywhere i).1 start).1
  simp only [Expr.matchesIn, bne_iff_ne, length_points]
  constructor
  · intro some_
    obtain ⟨j, reached⟩ := Nat.exists_testBit_of_ne_zero some_
    obtain ⟨i, start, span⟩ := (follows j).1 reached
    exact ⟨i, ((everywhere i).1 start).1, j, span⟩
  · rintro ⟨i, within, j, span⟩ none_
    have reached := (follows j).2 ⟨i, (everywhere i).2 ⟨within, rfl⟩, span⟩
    rw [none_, Nat.zero_testBit] at reached
    cases reached

end TestDiscovery.Pattern
