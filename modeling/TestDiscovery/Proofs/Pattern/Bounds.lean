/-
# TestDiscovery.Proofs.Pattern.Bounds -- counts in order, from the text to its meaning

No reader lets a repetition through whose least number of rounds is above its largest
one, and nothing that is built from the lexemes changes the counts.  So the meaning of
every accepted pattern has its bounds in order (`ordered_of_compile`), which is what
the walks over a text rest on.
-/
import TestDiscovery.Pattern.Compiled
import TestDiscovery.Proofs.Pattern.Lexing
import TestDiscovery.Proofs.Pattern.Matches

namespace TestDiscovery.Pattern

set_option autoImplicit false

/-! ## Trees -/

/-- Every repetition in the tree has its bounds in order. -/
def Tree.Ordered : Tree → Prop
  | .repetition min max body => (∀ m ∈ max, min ≤ m) ∧ body.Ordered
  | .group _ body => body.Ordered
  | .cat first rest => first.Ordered ∧ rest.Ordered
  | .alt first rest => first.Ordered ∧ rest.Ordered
  | _ => True

/-- What holds of the parts and of a joint holds of the whole spine. -/
theorem spine_induction {α : Type} {P : α → Prop} {empty : α} {join : α → α → α}
    (atEmpty : P empty) (atJoin : ∀ a b, P a → P b → P (join a b)) {xs : List α}
    (parts : ∀ x ∈ xs, P x) : P (spine empty join xs) := by
  induction xs with
  | nil => exact atEmpty
  | cons x xs ih =>
      have rest := ih fun y hy => parts y (List.mem_cons_of_mem _ hy)
      cases xs with
      | nil => exact parts x List.mem_cons_self
      | cons y ys => exact atJoin _ _ (parts x List.mem_cons_self) rest

/-- The parts of an open group have their bounds in order. -/
structure Branches.Ordered (b : Branches) : Prop where
  parts : ∀ t ∈ b.parts, t.Ordered
  finished : ∀ t ∈ b.finished, t.Ordered

/-- All open groups have their bounds in order. -/
structure Stack.Ordered (st : Stack) : Prop where
  inner : st.inner.Ordered
  outer : ∀ frame ∈ st.outer, frame.2.Ordered

theorem Branches.ordered_nil : Branches.Ordered ⟨[], []⟩ :=
  ⟨List.forall_mem_nil _, List.forall_mem_nil _⟩

theorem ordered_sequence {ts : List Tree} (h : ∀ t ∈ ts, t.Ordered) :
    (spine Tree.empty .cat ts.reverse).Ordered :=
  spine_induction trivial (fun _ _ first rest => ⟨first, rest⟩)
    fun t ht => h t (List.mem_reverse.1 ht)

theorem Branches.Ordered.tree {b : Branches} (h : b.Ordered) : b.tree.Ordered := by
  refine spine_induction trivial (fun _ _ first rest => ⟨first, rest⟩) fun t ht => ?_
  rcases List.mem_cons.1 (List.mem_reverse.1 ht) with rfl | ht
  · exact ordered_sequence h.parts
  · exact h.finished t ht

theorem Stack.Ordered.push {st : Stack} (h : st.Ordered) {t : Tree} (part : t.Ordered) :
    (st.push t).Ordered :=
  ⟨⟨List.forall_mem_cons.2 ⟨part, h.inner.parts⟩, h.inner.finished⟩, h.outer⟩

theorem Stack.Ordered.pushItem {st : Stack} (h : st.Ordered) (t : SetTree) :
    (st.pushItem t).Ordered := by
  unfold Stack.pushItem
  split
  · exact ⟨h.inner, h.outer⟩
  · exact h

theorem Stack.Ordered.closeSet {st : Stack} (h : st.Ordered) : st.closeSet.Ordered := by
  unfold Stack.closeSet
  split
  · exact h
  · have rest : Stack.Ordered { st with sets := [] } := ⟨h.inner, h.outer⟩
    exact rest.push trivial
  · rename_i sets _ _
    have rest : Stack.Ordered { st with sets } := ⟨h.inner, h.outer⟩
    exact rest.pushItem _

theorem Stack.Ordered.operate {st : Stack} (h : st.Ordered) (op : SetOperator) :
    (st.operate op).Ordered := by
  unfold Stack.operate
  split
  · exact ⟨h.inner, h.outer⟩
  · exact h

theorem Stack.Ordered.repeatLast {st st' : Stack} (h : st.Ordered) {min : Nat} {max : Option Nat}
    (bounds : ∀ m ∈ max, min ≤ m) (taken : st.repeatLast min max = .ok st') : st'.Ordered := by
  unfold Stack.repeatLast at taken
  split at taken
  · cases taken
  · cases taken
  · rename_i t rest _ parts
    cases taken
    have all := h.inner.parts
    rw [parts, List.forall_mem_cons] at all
    exact ⟨⟨List.forall_mem_cons.2 ⟨⟨bounds, all.1⟩, all.2⟩, h.inner.finished⟩, h.outer⟩

theorem Stack.Ordered.closeGroup {st st' : Stack} (h : st.Ordered)
    (taken : st.closeGroup = .ok st') : st'.Ordered := by
  unfold Stack.closeGroup at taken
  split at taken
  · cases taken
  · rename_i kind around rest outer
    cases taken
    have all := h.outer
    rw [outer, List.forall_mem_cons] at all
    exact Stack.Ordered.push ⟨all.1, all.2⟩ h.inner.tree

theorem Stack.Ordered.take {st st' : Stack} (h : st.Ordered) {l : Lexeme} (bounds : l.Ordered)
    (taken : st.take l = .ok st') : st'.Ordered := by
  cases l with
  | atom => cases taken; exact h.push trivial
  | flags => cases taken; exact h.push trivial
  | groupOpen =>
      cases taken
      exact ⟨Branches.ordered_nil, List.forall_mem_cons.2 ⟨h.inner, h.outer⟩⟩
  | groupClose => exact h.closeGroup taken
  | bar =>
      cases taken
      refine ⟨⟨List.forall_mem_nil _, ?_⟩, h.outer⟩
      exact List.forall_mem_cons.2 ⟨ordered_sequence h.inner.parts, h.inner.finished⟩
  | repetition => exact h.repeatLast bounds taken
  | setOpen => cases taken; exact ⟨h.inner, h.outer⟩
  | setItem => cases taken; exact h.pushItem _
  | setOperator => cases taken; exact h.operate _
  | setClose => cases taken; exact h.closeSet

theorem Stack.Ordered.run {st st' : Stack} (h : st.Ordered) {ls : List Lexeme}
    (bounds : ∀ l ∈ ls, l.Ordered) (taken : ls.foldlM Stack.take st = .ok st') : st'.Ordered := by
  induction ls generalizing st with
  | nil =>
      cases taken
      exact h
  | cons l ls ih =>
      rw [List.forall_mem_cons] at bounds
      rw [List.foldlM_cons] at taken
      obtain ⟨next, first, rest⟩ := bind_eq_ok_iff.1 taken
      exact ih (h.take bounds.1 first) bounds.2 rest

theorem Tree.ofLexemes_eq_ok_iff {ls : List Lexeme} {t : Tree} : Tree.ofLexemes ls = .ok t ↔
    ∃ last, ls.foldlM Stack.take .start = .ok last ∧ last.outer = [] ∧ last.inner.tree = t := by
  constructor
  · intro h
    obtain ⟨last, taken, finished⟩ := bind_eq_ok_iff.1 h
    unfold Stack.finish at finished
    split at finished
    · cases finished
      exact ⟨last, taken, ‹_›, rfl⟩
    · cases finished
  · rintro ⟨last, taken, closed, rfl⟩
    refine bind_eq_ok_iff.2 ⟨last, taken, ?_⟩
    unfold Stack.finish
    rw [closed]

theorem Tree.ordered_of_ofLexemes {ls : List Lexeme} {t : Tree} (bounds : ∀ l ∈ ls, l.Ordered)
    (h : Tree.ofLexemes ls = .ok t) : t.Ordered := by
  obtain ⟨last, taken, -, rfl⟩ := ofLexemes_eq_ok_iff.1 h
  have start : Stack.start.Ordered := ⟨Branches.ordered_nil, List.forall_mem_nil _⟩
  exact (start.run bounds taken).inner.tree

/-! ## Meanings -/

theorem ordered_of_atom {m : Modes} {a : Atom} {e : Expr} (h : m.atom a = .ok e) : e.Ordered := by
  cases a with
  | literal =>
      obtain ⟨c, -, h⟩ := bind_eq_ok_iff.1 h
      cases h
      trivial
  | dot =>
      simp only [Modes.atom] at h
      split at h
      · cases h
        trivial
      · cases h
  | assertion =>
      cases h
      trivial
  | short =>
      obtain ⟨s, -, h⟩ := bind_eq_ok_iff.1 h
      cases h
      trivial
  | property =>
      obtain ⟨s, -, h⟩ := bind_eq_ok_iff.1 h
      cases h
      trivial

theorem Tree.Ordered.exprWith {t : Tree} (ordered : t.Ordered) {m m' : Modes} {e : Expr}
    (h : t.exprWith m = .ok (e, m')) : e.Ordered := by
  induction t generalizing m m' e with
  | empty =>
      cases h
      trivial
  | atom a =>
      obtain ⟨e', read, h⟩ := bind_eq_ok_iff.1 h
      cases h
      exact ordered_of_atom read
  | flags items =>
      cases h
      trivial
  | set negated inside =>
      obtain ⟨s, -, h⟩ := bind_eq_ok_iff.1 h
      obtain ⟨s', -, h⟩ := bind_eq_ok_iff.1 h
      cases h
      trivial
  | repetition min max body ih =>
      obtain ⟨⟨e', m₁⟩, read, h⟩ := bind_eq_ok_iff.1 h
      cases h
      exact ⟨ordered.1, ih ordered.2 read⟩
  | group kind body ih =>
      cases kind with
      | flagged items =>
          obtain ⟨⟨e', m₁⟩, read, h⟩ := bind_eq_ok_iff.1 h
          cases h
          exact ih ordered read
      | capture =>
          obtain ⟨⟨e', m₁⟩, read, h⟩ := bind_eq_ok_iff.1 h
          cases h
          have inside := ih ordered read
          exact inside
      | named name =>
          obtain ⟨⟨e', m₁⟩, read, h⟩ := bind_eq_ok_iff.1 h
          cases h
          have inside := ih ordered read
          exact inside
  | cat first rest ihFirst ihRest =>
      obtain ⟨⟨e₁, m₁⟩, readFirst, h⟩ := bind_eq_ok_iff.1 h
      obtain ⟨⟨e₂, m₂⟩, readRest, h⟩ := bind_eq_ok_iff.1 h
      cases h
      exact ⟨ihFirst ordered.1 readFirst, ihRest ordered.2 readRest⟩
  | alt first rest ihFirst ihRest =>
      obtain ⟨⟨e₁, m₁⟩, readFirst, h⟩ := bind_eq_ok_iff.1 h
      obtain ⟨⟨e₂, m₂⟩, readRest, h⟩ := bind_eq_ok_iff.1 h
      cases h
      exact ⟨ihFirst ordered.1 readFirst, ihRest ordered.2 readRest⟩

/-! ## Patterns -/

/-- A text is a pattern when it passes all stages, one after the other. -/
theorem compile_eq_ok_iff {text : List Char} {e : Expr} : compile text = .ok e ↔
    ∃ t, parse text = .ok t ∧ t.expr = .ok e ∧ e.fits = true := by
  constructor
  · intro h
    obtain ⟨t, parsed, h⟩ := bind_eq_ok_iff.1 h
    obtain ⟨e', read, h⟩ := bind_eq_ok_iff.1 h
    split at h
    · cases h
      exact ⟨t, parsed, read, ‹_›⟩
    · cases h
  · rintro ⟨t, parsed, read, fits⟩
    refine bind_eq_ok_iff.2 ⟨t, parsed, bind_eq_ok_iff.2 ⟨e, read, ?_⟩⟩
    rw [if_pos fits]
    rfl

theorem parse_eq_ok_iff {text : List Char} {t : Tree} : parse text = .ok t ↔
    ∃ ls, lex text = .ok ls ∧ Tree.ofLexemes ls = .ok t ∧ t.depth ≤ nestLimit := by
  constructor
  · intro h
    obtain ⟨ls, cut, h⟩ := bind_eq_ok_iff.1 h
    obtain ⟨t', built, h⟩ := bind_eq_ok_iff.1 h
    split at h
    · cases h
      exact ⟨ls, cut, built, ‹_›⟩
    · cases h
  · rintro ⟨ls, cut, built, shallow⟩
    refine bind_eq_ok_iff.2 ⟨ls, cut, bind_eq_ok_iff.2 ⟨t, built, ?_⟩⟩
    rw [if_pos shallow]
    rfl

/-- **The meaning of an accepted pattern has its bounds in order.** -/
theorem ordered_of_compile {text : List Char} {e : Expr} (h : compile text = .ok e) :
    e.Ordered := by
  obtain ⟨t, parsed, read, -⟩ := compile_eq_ok_iff.1 h
  obtain ⟨ls, cut, built, -⟩ := parse_eq_ok_iff.1 parsed
  obtain ⟨last, cuts, -⟩ := lexFrom_eq_ok_iff.1 cut
  obtain ⟨⟨e', m⟩, result, rfl⟩ := map_eq_ok_iff.1 read
  exact (Tree.ordered_of_ofLexemes (cuts_ordered cuts) built).exprWith result

end TestDiscovery.Pattern
