/-
# TestDiscovery.Proofs.Files.Spelling -- the spellings of a path

Paths are equal when their components are, so a path has many spellings.  Three
changes lead from one spelling to another (`Path.Respelled`): a slash is doubled, a
slash gets `./` behind it, or a slash is put at the end of a path that is not empty.
Made and undone in any order they reach every spelling of the path and no other path
(`Path.beq_iff_isSpellingOf`).

That they reach no other path is read off the three things that equality looks at:
the slash at the front, the `.` at the front, and the names between slashes.  That
they reach every spelling goes through the one in which each component has a slash
behind it (`Path.written`): every path can be respelled into it.
-/
import TestDiscovery.Files.Path
import Mathlib.Data.List.Basic
import Mathlib.Logic.Relation

namespace TestDiscovery.Path

set_option autoImplicit false

open Relation

/-! ## Changes of spelling -/

/-- One change in how a path is written. -/
inductive Respelled : List UInt8 → List UInt8 → Prop
  | doubled (before after : List UInt8) :
      Respelled (before ++ slash :: after) (before ++ slash :: slash :: after)
  | dotted (before after : List UInt8) :
      Respelled (before ++ slash :: after) (before ++ slash :: dot :: slash :: after)
  | ended {bytes : List UInt8} (filled : bytes ≠ []) : Respelled bytes (bytes ++ [slash])

/-- The paths are spellings of one another: such changes, made or undone, lead from `p` to `q`. -/
def IsSpellingOf (p q : Path) : Prop := EqvGen Respelled p.bytes q.bytes

/-- The slashes of the first path stand in the second as `/`, `//` or `/./`, each as it likes. -/
inductive Widened : List UInt8 → List UInt8 → Prop
  | nil : Widened [] []
  | kept (b : UInt8) {bytes wide : List UInt8} (h : Widened bytes wide) :
      Widened (b :: bytes) (b :: wide)
  | doubled {bytes wide : List UInt8} (h : Widened bytes wide) :
      Widened (slash :: bytes) (slash :: slash :: wide)
  | dotted {bytes wide : List UInt8} (h : Widened bytes wide) :
      Widened (slash :: bytes) (slash :: dot :: slash :: wide)

theorem Respelled.append_left (front : List UInt8) {bytes other : List UInt8}
    (h : Respelled bytes other) : Respelled (front ++ bytes) (front ++ other) := by
  cases h with
  | doubled before after => simpa using Respelled.doubled (front ++ before) after
  | dotted before after => simpa using Respelled.dotted (front ++ before) after
  | ended filled =>
      rw [← List.append_assoc]
      exact .ended (List.append_ne_nil_of_right_ne_nil front filled)

theorem eqvGen_append_left (front : List UInt8) {bytes other : List UInt8}
    (h : EqvGen Respelled bytes other) : EqvGen Respelled (front ++ bytes) (front ++ other) := by
  induction h with
  | rel _ _ step => exact .rel _ _ (step.append_left front)
  | refl _ => exact .refl _
  | symm _ _ _ ih => exact .symm _ _ ih
  | trans _ _ _ _ _ first second => exact .trans _ _ _ first second

/-- Slashes are widened one after the other. -/
theorem eqvGen_of_widened {bytes wide : List UInt8} (h : Widened bytes wide) :
    EqvGen Respelled bytes wide := by
  induction h with
  | nil => exact .refl _
  | kept b _ ih => exact eqvGen_append_left [b] ih
  | doubled _ ih =>
      exact .trans _ _ _ (eqvGen_append_left [slash] ih) (.rel _ _ (.doubled [] _))
  | dotted _ ih =>
      exact .trans _ _ _ (eqvGen_append_left [slash] ih) (.rel _ _ (.dotted [] _))

/-! ## What equality looks at -/

/-- The part is a name: neither empty nor `.`. -/
def isName (part : List UInt8) : Bool := part != [] && part != [dot]

/-- The names between the slashes of the path; `..` is one. -/
def names (p : Path) : List (List UInt8) := p.parts.filter isName

theorem beq_iff {p q : Path} :
    (p == q) = true ↔ p.isAbsolute = q.isAbsolute ∧ p.components = q.components := by
  show same p q = true ↔ _
  simp [same]

instance : EquivBEq Path where
  rfl := beq_iff.2 ⟨rfl, rfl⟩
  symm h := beq_iff.2 ⟨(beq_iff.1 h).1.symm, (beq_iff.1 h).2.symm⟩
  trans h k :=
    beq_iff.2 ⟨(beq_iff.1 h).1.trans (beq_iff.1 k).1, (beq_iff.1 h).2.trans (beq_iff.1 k).2⟩

theorem components_eq (p : Path) :
    p.components = if p.parts.head? = some [dot] then [dot] :: p.names else p.names := rfl

/-- The names are the components other than `.`. -/
theorem filter_components (p : Path) : p.components.filter (· != [dot]) = p.names := by
  have named : p.names.filter (· != [dot]) = p.names := by
    refine List.filter_eq_self.2 fun part hp => ?_
    have name : isName part = true := (List.mem_filter.1 hp).2
    exact (Bool.and_eq_true_iff.1 name).2
  rw [components_eq]
  split
  · rw [List.filter_cons_of_neg (by decide), named]
  · exact named

theorem names_eq_of_components_eq {p q : Path} (h : p.components = q.components) :
    p.names = q.names := by
  rw [← filter_components, h, filter_components]

/-- Paths with the same slash, the same first part and the same names are equal. -/
theorem beq_of_names_eq {p q : Path} (absolute : p.isAbsolute = q.isAbsolute)
    (first : p.parts.head? = q.parts.head?) (names : p.names = q.names) : (p == q) = true := by
  refine beq_iff.2 ⟨absolute, ?_⟩
  rw [components_eq, components_eq, first, names]

/-! ## Paths with a slash in them -/

theorem parts_slash (after : List UInt8) : parts ⟨slash :: after⟩ = [] :: parts ⟨after⟩ :=
  List.splitOn_append_cons_self [] after

theorem parts_append_slash (before after : List UInt8) :
    parts ⟨before ++ slash :: after⟩ = parts ⟨before⟩ ++ parts ⟨after⟩ :=
  List.splitOn_append_cons_self before after

theorem names_append_slash (before after : List UInt8) :
    names ⟨before ++ slash :: after⟩ = names ⟨before⟩ ++ names ⟨after⟩ := by
  rw [names, parts_append_slash, List.filter_append]
  rfl

theorem head?_parts_append_slash (before after : List UInt8) :
    (parts ⟨before ++ slash :: after⟩).head? = (parts ⟨before⟩).head? := by
  rw [parts_append_slash]
  exact List.head?_append_of_ne_nil _ (List.splitOn_ne_nil slash before)

theorem isAbsolute_append_slash (before after : List UInt8) :
    isAbsolute ⟨before ++ slash :: after⟩ = isAbsolute ⟨before ++ [slash]⟩ := by
  cases before with
  | nil => rfl
  | cons b before => rfl

/-- What stands behind a slash matters by its names alone. -/
theorem beq_of_names_after {before after other : List UInt8}
    (h : names ⟨after⟩ = names ⟨other⟩) :
    ((⟨before ++ slash :: after⟩ : Path) == ⟨before ++ slash :: other⟩) = true := by
  refine beq_of_names_eq ?_ ?_ ?_
  · rw [isAbsolute_append_slash, isAbsolute_append_slash before other]
  · rw [head?_parts_append_slash, head?_parts_append_slash]
  · rw [names_append_slash, names_append_slash, h]

theorem beq_of_respelled {bytes other : List UInt8} (h : Respelled bytes other) :
    ((⟨bytes⟩ : Path) == ⟨other⟩) = true := by
  cases h with
  | doubled before after => exact beq_of_names_after (names_append_slash [] after).symm
  | dotted before after => exact beq_of_names_after (names_append_slash [dot] after).symm
  | ended filled =>
      obtain ⟨b, rest, rfl⟩ := List.exists_cons_of_ne_nil filled
      refine beq_of_names_eq rfl (head?_parts_append_slash (b :: rest) []).symm ?_
      exact ((names_append_slash (b :: rest) []).trans (List.append_nil _)).symm

theorem beq_of_isSpellingOf {p q : Path} (h : p.IsSpellingOf q) : (p == q) = true := by
  -- Stated of bytes, as the induction runs through paths that are neither `p` nor `q`.
  have equal : ∀ {bytes other : List UInt8}, EqvGen Respelled bytes other →
      ((⟨bytes⟩ : Path) == ⟨other⟩) = true := by
    intro bytes other changes
    induction changes with
    | rel _ _ step => exact beq_of_respelled step
    | refl _ => exact BEq.rfl
    | symm _ _ _ ih => exact BEq.symm ih
    | trans _ _ _ _ _ first second => exact BEq.trans first second
  exact equal h

/-! ## The spelling that components write -/

/-- Components with a slash behind each. -/
def closed (components : List (List UInt8)) : List UInt8 := components.flatMap (· ++ [slash])

/-- The spelling of some components in which each has a slash behind it. -/
def written (absolute : Bool) (components : List (List UInt8)) : List UInt8 :=
  if absolute then slash :: closed components else closed components

theorem closed_cons (part : List UInt8) (parts : List (List UInt8)) :
    closed (part :: parts) = part ++ slash :: closed parts := by
  simp [closed]

/-- A slash at the end closes the last part. -/
theorem closed_parts (bytes : List UInt8) : closed (parts ⟨bytes⟩) = bytes ++ [slash] := by
  have joined : ∀ (part : List UInt8) (rest : List (List UInt8)),
      [slash].intercalate (part :: rest) ++ [slash] = closed (part :: rest) := by
    intro part rest
    induction rest generalizing part with
    | nil => simp [closed]
    | cons next rest ih =>
        rw [List.intercalate_cons_cons, List.append_assoc, ih, closed_cons part, List.append_assoc]
        rfl
  obtain ⟨part, rest, cut⟩ := List.exists_cons_of_ne_nil (List.splitOn_ne_nil slash bytes)
  have whole : [slash].intercalate (bytes.splitOn slash) = bytes := List.intercalate_splitOn slash
  rw [cut] at whole
  rw [parts, cut, ← joined, whole]

/-- Behind a slash the parts that are no names can be left out. -/
theorem eqvGen_closed_names (parts : List (List UInt8)) :
    EqvGen Respelled (slash :: closed parts) (slash :: closed (parts.filter isName)) := by
  induction parts with
  | nil => exact .refl _
  | cons part parts ih =>
      rw [closed_cons]
      -- With the slash in front, an empty part is a doubled slash and `.` a dotted one.
      by_cases empty : part = []
      · subst empty
        rw [List.filter_cons_of_neg (by decide)]
        exact .trans _ _ _ (.symm _ _ (.rel _ _ (.doubled [] (closed parts)))) ih
      by_cases here : part = [dot]
      · subst here
        rw [List.filter_cons_of_neg (by decide)]
        exact .trans _ _ _ (.symm _ _ (.rel _ _ (.dotted [] (closed parts)))) ih
      have name : isName part = true := by simp [isName, empty, here]
      rw [List.filter_cons_of_pos name, closed_cons]
      exact eqvGen_append_left (slash :: part) ih

theorem components_absolute (rest : List UInt8) :
    components ⟨slash :: rest⟩ = names ⟨rest⟩ := by
  have first : (parts ⟨slash :: rest⟩).head? ≠ some [dot] := by
    simp [parts_slash]
  rw [components_eq, if_neg first]
  exact names_append_slash [] rest

/-- The first part of a relative path is a component, be it a name or `.`. -/
theorem components_relative {b : UInt8} (relative : b ≠ slash) {rest first : List UInt8}
    {others : List (List UInt8)} (cut : parts ⟨rest⟩ = first :: others) :
    parts ⟨b :: rest⟩ = (b :: first) :: others ∧
      components ⟨b :: rest⟩ = (b :: first) :: others.filter isName := by
  have longer : parts ⟨b :: rest⟩ = (b :: first) :: others := by
    have ne : ¬ (b == slash) = true := by simpa using relative
    simp only [parts] at cut ⊢
    rw [List.splitOn_cons_eq_if_modifyHead, if_neg ne, cut]
    rfl
  refine ⟨longer, ?_⟩
  rw [components_eq, names, longer]
  by_cases here : b :: first = [dot]
  · rw [here, List.filter_cons_of_neg (by decide)]
    rfl
  · have name : isName (b :: first) = true := by simp [isName, here]
    rw [List.filter_cons_of_pos name, if_neg (by simpa using here)]

/-- Every path can be respelled into the spelling that its components write. -/
theorem eqvGen_written (p : Path) :
    EqvGen Respelled p.bytes (written p.isAbsolute p.components) := by
  obtain ⟨bytes⟩ := p
  cases bytes with
  | nil => exact .refl _
  | cons b rest =>
      -- A slash at the end closes every part, so that all but the first stand between slashes.
      refine .trans _ _ _ (.rel _ _ (.ended (List.cons_ne_nil b rest))) ?_
      rw [← closed_parts]
      by_cases absolute : b = slash
      · subst absolute
        rw [parts_slash, components_absolute]
        exact eqvGen_closed_names (parts ⟨rest⟩)
      · obtain ⟨first, others, cut⟩ := List.exists_cons_of_ne_nil (List.splitOn_ne_nil slash rest)
        obtain ⟨longer, components⟩ := components_relative absolute cut
        have front : isAbsolute ⟨b :: rest⟩ = false := by simp [isAbsolute, absolute]
        rw [longer, components, front]
        simp only [written, closed_cons]
        exact eqvGen_append_left (b :: first) (eqvGen_closed_names others)

/-- **Paths are equal just when they are spellings of one another.** -/
theorem beq_iff_isSpellingOf {p q : Path} : (p == q) = true ↔ p.IsSpellingOf q := by
  constructor
  · intro h
    obtain ⟨absolute, components⟩ := beq_iff.1 h
    have there := eqvGen_written p
    rw [absolute, components] at there
    exact .trans _ _ _ there (.symm _ _ (eqvGen_written q))
  · exact beq_of_isSpellingOf

-- A `.` at the front of a relative path is a component, and `..` takes no name away.
example : (ofText "./a" == ofText "a") = false ∧ (ofText "b/../a" == ofText "a") = false := by
  decide

end TestDiscovery.Path
