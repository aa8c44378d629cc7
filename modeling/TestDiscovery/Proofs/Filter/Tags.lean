/-
# TestDiscovery.Proofs.Filter.Tags -- what the tags of a filter decide

A tag filter trims its tags and drops the blank ones; the tags of a test are taken as
they stand.  So a list of tags gives a filter just if one of them is not blank, and what
the filter says of a test depends on two sets: the names that the list gives
(`TagFilter.Names`) and the tags that the test has.  Order plays one part only: of the
test's tags that match, the first is named (`firstMatch?_eq_some_iff`).

Cleaned tags are names already (`cleaned_cleaned`), so a filter is made again from its own
tags.
-/
import TestDiscovery.Filter.Tag
import TestDiscovery.Proofs.Text.Parts

namespace TestDiscovery

set_option autoImplicit false

open TestDiscovery.Text

/-! ## The tags of a filter -/

namespace TagFilter

theorem cleaned_eq_nil_iff (tags : List String) :
    cleaned tags = [] ↔ ∀ tag ∈ tags, isBlank tag = true := by
  simp [cleaned, List.filter_eq_nil_iff, trim_eq_empty_iff]

theorem trim_ne_empty_iff (tag : String) : trim tag ≠ "" ↔ isBlank tag = false := by
  rw [Ne, trim_eq_empty_iff, Bool.not_eq_true]

/-- Blank tags are dropped before or after trimming alike. -/
theorem cleaned_eq (tags : List String) :
    cleaned tags = (tags.filter fun tag => !isBlank tag).map trim := by
  rw [cleaned, List.filter_map]
  refine congrArg (List.map trim) (List.filter_congr fun tag _ => ?_)
  rw [Function.comp_apply, Bool.eq_iff_iff, bne_iff_ne, trim_ne_empty_iff, Bool.not_eq_true']

/-- The tag that is named is one of the given ones, trimmed, and that is not blank. -/
def Names (tags : List String) (name : String) : Prop :=
  ∃ tag ∈ tags, isBlank tag = false ∧ name = trim tag

theorem mem_cleaned_iff {tags : List String} {name : String} :
    name ∈ cleaned tags ↔ Names tags name := by
  simp only [cleaned_eq, List.mem_map, List.mem_filter, Bool.not_eq_true', Names]
  constructor
  · rintro ⟨tag, ⟨given, filled⟩, rfl⟩
    exact ⟨tag, given, filled, rfl⟩
  · rintro ⟨tag, given, filled, rfl⟩
    exact ⟨tag, ⟨given, filled⟩, rfl⟩

theorem trim_trim (s : String) : trim (trim s) = trim s := by
  rw [trim, toList_trim, trimChars_trimChars, ← trim]

/-- **Tags that were cleaned have nothing more to lose.** -/
theorem cleaned_cleaned (tags : List String) : cleaned (cleaned tags) = cleaned tags := by
  have kept : ∀ name ∈ cleaned tags, isBlank name = false ∧ trim name = name := by
    intro name given
    obtain ⟨tag, -, filled, rfl⟩ := mem_cleaned_iff.1 given
    have same := trim_trim tag
    refine ⟨?_, same⟩
    rwa [← trim_ne_empty_iff, same, trim_ne_empty_iff]
  have all : (cleaned tags).filter (fun name => !isBlank name) = cleaned tags :=
    List.filter_eq_self.2 fun name given => by rw [(kept name given).1, Bool.not_false]
  calc cleaned (cleaned tags)
      = ((cleaned tags).filter fun name => !isBlank name).map trim := cleaned_eq _
    _ = (cleaned tags).map trim := by rw [all]
    _ = (cleaned tags).map id := List.map_congr_left fun name given => (kept name given).2
    _ = cleaned tags := List.map_id _

theorem ofTags_of_not_isBlank (mode : FilterMode) {tags : List String}
    (some_ : ∃ tag ∈ tags, isBlank tag = false) : ofTags mode tags = .ok ⟨cleaned tags, mode⟩ := by
  obtain ⟨tag, given, filled⟩ := some_
  have filter : cleaned tags ≠ [] := fun none_ => by
    rw [(cleaned_eq_nil_iff tags).1 none_ tag given] at filled
    cases filled
  simp [ofTags, filter]

theorem ofTags_of_isBlank (mode : FilterMode) {tags : List String}
    (blank : ∀ tag ∈ tags, isBlank tag = true) : ofTags mode tags = .error .emptyTagList := by
  simp [ofTags, (cleaned_eq_nil_iff tags).2 blank]

theorem ofTags_cleaned (mode : FilterMode) {tags : List String}
    (some_ : ∃ tag ∈ tags, isBlank tag = false) :
    ofTags mode (cleaned tags) = .ok ⟨cleaned tags, mode⟩ := by
  obtain ⟨tag, given, filled⟩ := some_
  have name : trim tag ∈ cleaned tags := mem_cleaned_iff.2 ⟨tag, given, filled, rfl⟩
  have again : isBlank (trim tag) = false := by
    rwa [← trim_ne_empty_iff, trim_trim, trim_ne_empty_iff]
  rw [ofTags_of_not_isBlank mode ⟨_, name, again⟩, cleaned_cleaned]

/-! ## Tests that match -/

/-- The first of the test's tags that is one of the filter's. -/
theorem firstMatch?_eq_some_iff {f : TagFilter} {t : TestIdentifier} {own : String} :
    f.firstMatch? t = some own ↔
      own ∈ f.tags ∧ ∃ before after, t.tags = before ++ own :: after ∧
        ∀ earlier ∈ before, earlier ∉ f.tags := by
  rw [firstMatch?, List.find?_eq_some_iff_append]
  simp

theorem isSome_firstMatch?_iff (f : TagFilter) (t : TestIdentifier) :
    (f.firstMatch? t).isSome = true ↔ ∃ own ∈ t.tags, own ∈ f.tags := by
  rw [firstMatch?, List.find?_isSome]
  simp

/-- Which tag of a test matches depends on the names of the filter's tags only. -/
theorem firstMatch?_congr {f g : TagFilter} (same : ∀ name, name ∈ f.tags ↔ name ∈ g.tags)
    (t : TestIdentifier) : f.firstMatch? t = g.firstMatch? t := by
  have contains : (fun tag => f.tags.contains tag) = fun tag => g.tags.contains tag := by
    funext tag
    rw [Bool.eq_iff_iff, List.contains_iff_mem, List.contains_iff_mem, same tag]
  rw [firstMatch?, firstMatch?, contains]

theorem isIncluded_iff (f : TagFilter) (t : TestIdentifier) : (f.apply t).isIncluded = true ↔
    ((f.firstMatch? t).isSome = true ↔ f.mode = .include) := by
  obtain ⟨tags, mode⟩ := f
  unfold apply
  cases mode <;> cases firstMatch? _ t <;> simp [Verdict.isIncluded]

/-- The verdict on a test that matches names the tag, and depends on nothing else. -/
theorem apply_of_firstMatch? {f : TagFilter} {t : TestIdentifier} {own : String}
    (first : f.firstMatch? t = some own) :
    f.apply t = match f.mode with
      | .include => .includedBecause ("carries required tag '" ++ own ++ "'")
      | .exclude => .excluded ("carries excluded tag '" ++ own ++ "'") := by
  rw [apply, first]
  cases f.mode <;> rfl

end TagFilter

/-- One of the tags of the test, as it stands, is one of the given tags that are not blank,
trimmed. -/
def TestIdentifier.Carries (t : TestIdentifier) (tags : List String) : Prop :=
  ∃ own ∈ t.tags, ∃ tag ∈ tags, isBlank tag = false ∧ own = trim tag

namespace TagFilter

theorem firstMatch?_isSome_iff (mode : FilterMode) (tags : List String) (t : TestIdentifier) :
    (firstMatch? ⟨(tags.filter fun tag => !isBlank tag).map trim, mode⟩ t).isSome = true ↔
      t.Carries tags := by
  rw [isSome_firstMatch?_iff, ← cleaned_eq]
  simp only [mem_cleaned_iff]
  exact Iff.rfl

/-! ## The two filters of a list -/

/-- The filter to include and the filter to exclude have the tags of the list, cleaned, and decide
by them. -/
structure Decide (tags : List String) (f g : TagFilter) : Prop where
  tags : f.tags = (tags.filter fun tag => !isBlank tag).map trim
  sameTags : g.tags = f.tags
  rebuilt : ofTags .include f.tags = .ok f ∧ ofTags .exclude g.tags = .ok g
  includes : ∀ t, (f.apply t).isIncluded = true ↔ ∃ own ∈ t.tags, own ∈ f.tags
  excludes : ∀ t, (g.apply t).isIncluded = false ↔ ∃ own ∈ t.tags, own ∈ f.tags
  /-- The first of the test's tags that matches is named. -/
  named : ∀ t, (∃ own ∈ t.tags, own ∈ f.tags) → ∃ before own after,
    t.tags = before ++ own :: after ∧ own ∈ f.tags ∧ (∀ earlier ∈ before, earlier ∉ f.tags) ∧
      f.apply t = .includedBecause ("carries required tag '" ++ own ++ "'") ∧
      g.apply t = .excluded ("carries excluded tag '" ++ own ++ "'")
  /-- Tests with the same tags, in any order and number, have the same verdicts. -/
  tests : ∀ t u : TestIdentifier, (∀ own, own ∈ t.tags ↔ own ∈ u.tags) →
    (f.apply t).isIncluded = (f.apply u).isIncluded ∧
    (g.apply t).isIncluded = (g.apply u).isIncluded

variable {tags others : List String}

theorem decide_cleaned (some_ : ∃ tag ∈ tags, isBlank tag = false) :
    Decide tags ⟨cleaned tags, .include⟩ ⟨cleaned tags, .exclude⟩ := by
  have includes : ∀ t, (apply ⟨cleaned tags, .include⟩ t).isIncluded = true ↔
      ∃ own ∈ t.tags, own ∈ cleaned tags := by
    intro t
    rw [isIncluded_iff, isSome_firstMatch?_iff]
    exact iff_true_right rfl
  have excludes : ∀ t, (apply ⟨cleaned tags, .exclude⟩ t).isIncluded = false ↔
      ∃ own ∈ t.tags, own ∈ cleaned tags := by
    intro t
    rw [← Bool.not_eq_true, isIncluded_iff, isSome_firstMatch?_iff]
    simp
  constructor
  case tags => exact cleaned_eq tags
  case sameTags => rfl
  case rebuilt => exact ⟨ofTags_cleaned .include some_, ofTags_cleaned .exclude some_⟩
  case includes => exact includes
  case excludes => exact excludes
  case named =>
    intro t match_
    obtain ⟨own, found⟩ := Option.isSome_iff_exists.1
      ((isSome_firstMatch?_iff ⟨cleaned tags, .include⟩ t).2 match_)
    obtain ⟨given, before, after, split, first⟩ := firstMatch?_eq_some_iff.1 found
    have foundToo : firstMatch? ⟨cleaned tags, .exclude⟩ t = some own :=
      (firstMatch?_congr (fun _ => Iff.rfl) t).trans found
    exact ⟨before, own, after, split, given, first, apply_of_firstMatch? found,
      apply_of_firstMatch? foundToo⟩
  case tests =>
    intro t u same
    have both : (∃ own ∈ t.tags, own ∈ cleaned tags) ↔ ∃ own ∈ u.tags, own ∈ cleaned tags := by
      simp only [same]
    constructor
    · rw [Bool.eq_iff_iff, includes, includes, both]
    · rw [Bool.eq_iff_iff, ← not_iff_not, Bool.not_eq_true, Bool.not_eq_true, excludes, excludes,
        both]

/-- The filters give the same verdict on every test, and the same one in full on a test with one
of the names. -/
structure Agree (tags : List String) (f g : TagFilter) : Prop where
  verdict : ∀ t, (f.apply t).isIncluded = (g.apply t).isIncluded
  full : ∀ t : TestIdentifier, (∃ own ∈ t.tags, Names tags own) → f.apply t = g.apply t

theorem agree_cleaned (same : ∀ name, Names others name ↔ Names tags name) (mode : FilterMode) :
    Agree tags ⟨cleaned tags, mode⟩ ⟨cleaned others, mode⟩ := by
  have first : ∀ t, firstMatch? ⟨cleaned tags, mode⟩ t = firstMatch? ⟨cleaned others, mode⟩ t :=
    firstMatch?_congr fun name => by
      rw [mem_cleaned_iff, mem_cleaned_iff, same name]
  constructor
  · intro t
    rw [Bool.eq_iff_iff, isIncluded_iff, isIncluded_iff, first t]
  · rintro t ⟨own, carried, name⟩
    have some_ : (firstMatch? ⟨cleaned tags, mode⟩ t).isSome = true :=
      (isSome_firstMatch?_iff _ t).2 ⟨own, carried, mem_cleaned_iff.2 name⟩
    obtain ⟨named, found⟩ := Option.isSome_iff_exists.1 some_
    rw [apply_of_firstMatch? found, apply_of_firstMatch? ((first t).symm.trans found)]

/-- **A list of tags decides by the set of its names.**
Either one of the tags is not blank and both filters of the list exist; they decide alike, and so
do those of any other list with the same names.  Or both are refused. -/
theorem tags_decide_by_names (tags : List String) :
    ((∃ tag ∈ tags, isBlank tag = false) ∧
      ∃ f g, ofTags .include tags = .ok f ∧ ofTags .exclude tags = .ok g ∧ Decide tags f g ∧
        ∀ others, (∀ name, Names others name ↔ Names tags name) →
          ∃ f' g', ofTags .include others = .ok f' ∧ ofTags .exclude others = .ok g' ∧
            Agree tags f f' ∧ Agree tags g g') ∨
    ((∀ tag ∈ tags, isBlank tag = true) ∧ ∀ mode, ofTags mode tags = .error .emptyTagList) := by
  by_cases some_ : ∃ tag ∈ tags, isBlank tag = false
  · refine .inl ⟨some_, _, _, ofTags_of_not_isBlank .include some_,
      ofTags_of_not_isBlank .exclude some_, decide_cleaned some_, fun others same => ?_⟩
    obtain ⟨tag, given, filled⟩ := some_
    obtain ⟨other, givenToo, filledToo, -⟩ := (same (trim tag)).2 ⟨tag, given, filled, rfl⟩
    have some_ : ∃ other ∈ others, isBlank other = false := ⟨other, givenToo, filledToo⟩
    exact ⟨_, _, ofTags_of_not_isBlank .include some_, ofTags_of_not_isBlank .exclude some_,
      agree_cleaned same .include, agree_cleaned same .exclude⟩
  · have blank : ∀ tag ∈ tags, isBlank tag = true := by simpa using some_
    exact .inr ⟨blank, fun mode => ofTags_of_isBlank mode blank⟩

/-- Two lists with the same two names, and a test whose first tag is padded and matches neither. -/
theorem tags_decide_by_names_padded :
    let tags := [" fast ", "", "slow"]
    let others := ["slow", "\tfast", "\u3000", "fast"]
    let t : TestIdentifier := ⟨"id", "Test", ["fast ", "slow", "fast"]⟩
    ∃ f f', ofTags .include tags = .ok f ∧ ofTags .include others = .ok f' ∧ f.tags ≠ f'.tags ∧
      f.apply t = .includedBecause "carries required tag 'slow'" ∧ f'.apply t = f.apply t := by
  intro tags others t
  have names : cleaned tags = ["fast", "slow"] := by decide
  have otherNames : cleaned others = ["slow", "fast", "fast"] := by decide
  have same : ∀ name, Names others name ↔ Names tags name := by
    intro name
    rw [← mem_cleaned_iff, ← mem_cleaned_iff, names, otherNames]
    simp [or_comm]
  rcases tags_decide_by_names tags with ⟨-, f, g, made, -, decides, alike⟩ | ⟨blank, -⟩
  · obtain ⟨f', g', madeToo, -, agree, -⟩ := alike others same
    have tagsOf : f.tags = cleaned tags := decides.tags.trans (cleaned_eq tags).symm
    have carried : ∃ own ∈ t.tags, Names tags own :=
      ⟨"slow", by decide, mem_cleaned_iff.1 (by rw [names]; decide)⟩
    refine ⟨f, f', made, madeToo, ?_, ?_, (agree.full t carried).symm⟩
    · obtain rfl : ⟨cleaned others, .include⟩ = f' := Except.ok.inj madeToo
      rw [tagsOf, names, otherNames]
      decide
    · obtain rfl : ⟨cleaned tags, .include⟩ = f := Except.ok.inj made
      decide
  · exact absurd (blank "slow" (by decide)) (by decide)

end TagFilter

end TestDiscovery
