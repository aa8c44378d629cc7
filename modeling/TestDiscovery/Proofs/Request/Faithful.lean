/-
# TestDiscovery.Proofs.Request.Faithful -- what a summary tells of a request

A summary puts the text that shows a filter in the place of the filter.  For the
filters of this library the text is enough: it tells the mode and the pattern of a
class name filter, and the mode and the tags of a tag filter, unless a tag contains
the comma and the blank that stand between tags.  So requests with equal summaries
give the same answers, reasons included (`Request.summary_faithful`).

Equality of summaries is that of `==`, for which paths with the same components are
equal, so that much and no more is known of the selectors.
-/
import TestDiscovery.Proofs.Text.Joined
import TestDiscovery.Request.Summary
import Mathlib.Data.List.Forall2

namespace TestDiscovery

set_option autoImplicit false

open TestDiscovery.Text

/-! ## Filters from their display -/

/-- The word that starts the display of a filter. -/
def FilterMode.word : FilterMode → String
  | .include => "include"
  | .exclude => "exclude"

/-- The words are of one length, so what follows them is known too. -/
theorem FilterMode.eq_of_word_append_eq {m n : FilterMode} {s t : String}
    (h : m.word ++ s = n.word ++ t) : m = n ∧ s = t := by
  have chars : m.word.toList ++ s.toList = n.word.toList ++ t.toList := by
    rw [← String.toList_append, ← String.toList_append, h]
  have width : m.word.toList.length = n.word.toList.length := by cases m <;> cases n <;> rfl
  obtain ⟨words, rest⟩ := List.append_inj chars width
  refine ⟨?_, String.toList_inj.1 rest⟩
  cases m <;> cases n <;> first | rfl | exact absurd words (by decide)

/-- Between the same words a text is known from the whole. -/
theorem FilterMode.eq_of_shown_eq {m n : FilterMode} {before after s t : String}
    (h : m.word ++ (before ++ s ++ after) = n.word ++ (before ++ t ++ after)) : m = n ∧ s = t := by
  obtain ⟨modes, rest⟩ := eq_of_word_append_eq h
  exact ⟨modes, (String.append_right_inj before).1 ((String.append_left_inj after).1 rest)⟩

theorem ClassNameFilter.display_eq (f : ClassNameFilter) :
    f.display = f.mode.word ++ (" class names matching '" ++ f.pattern ++ "'") := by
  obtain ⟨pattern, mode, whole⟩ := f
  cases mode <;> simp only [display, FilterMode.word, ← String.append_assoc] <;> rfl

theorem TagFilter.display_eq (f : TagFilter) :
    f.display = f.mode.word ++ (" tags [" ++ f.tagList ++ "]") := by
  obtain ⟨tags, mode⟩ := f
  cases mode <;> simp only [display, FilterMode.word, ← String.append_assoc] <;> rfl

/-- Class name filters with the same display are the same. -/
theorem ClassNameFilter.eq_of_display_eq {f g : ClassNameFilter}
    (hf : ofPattern f.mode f.pattern = .ok f) (hg : ofPattern g.mode g.pattern = .ok g)
    (h : f.display = g.display) : f = g := by
  rw [f.display_eq, g.display_eq] at h
  obtain ⟨mode, pattern⟩ := FilterMode.eq_of_shown_eq h
  rw [mode, pattern, hg] at hf
  exact (Except.ok.inj hf).symm

/-- A tag of the filter contains the separator of the display, a comma and a blank. -/
def TagFilter.HasDividedTag (f : TagFilter) : Prop := ∃ tag ∈ f.tags, [',', ' '] <:+: tag.toList

theorem TagFilter.not_isInfix_of_mem {f : TagFilter} (h : ¬ f.HasDividedTag) :
    ∀ part ∈ f.tags.map String.toList, ¬ [',', ' '] <:+: part := by
  intro part hp divided
  obtain ⟨tag, ht, rfl⟩ := List.mem_map.1 hp
  exact h ⟨tag, ht, divided⟩

/-- The list of the tags as it is shown tells the tags. -/
theorem TagFilter.tags_eq_of_tagList_eq {f g : TagFilter} (hf : f.tags ≠ []) (hg : g.tags ≠ [])
    (wholeF : ¬ f.HasDividedTag) (wholeG : ¬ g.HasDividedTag) (h : f.tagList = g.tagList) :
    f.tags = g.tags := by
  have joined : [',', ' '].intercalate (f.tags.map String.toList) =
      [',', ' '].intercalate (g.tags.map String.toList) := by
    simpa [tagList, String.toList_intercalate] using congrArg String.toList h
  have freeF := not_isInfix_of_mem wholeF
  have freeG := not_isInfix_of_mem wholeG
  obtain ⟨tag, tags, someF⟩ := List.exists_cons_of_ne_nil hf
  obtain ⟨other, others, someG⟩ := List.exists_cons_of_ne_nil hg
  simp only [someF, someG, List.map_cons] at joined freeF freeG ⊢
  have differ : ',' ≠ ' ' := by decide
  have parts := eq_of_intercalate_eq differ freeF freeG joined
  rw [← List.map_cons, ← List.map_cons] at parts
  exact (List.map_inj_right fun _ _ => String.toList_inj.1).1 parts

/-- Tag filters with the same display are the same, if they have tags and the separator is in
none of them. -/
theorem TagFilter.eq_of_display_eq {f g : TagFilter} (hf : f.tags ≠ []) (hg : g.tags ≠ [])
    (wholeF : ¬ f.HasDividedTag) (wholeG : ¬ g.HasDividedTag) (h : f.display = g.display) :
    f = g := by
  rw [f.display_eq, g.display_eq] at h
  obtain ⟨mode, list⟩ := FilterMode.eq_of_shown_eq h
  have tags := tags_eq_of_tagList_eq hf hg wholeF wholeG list
  obtain ⟨tagsF, modeF⟩ := f
  obtain ⟨tagsG, modeG⟩ := g
  simp only at mode tags
  rw [mode, tags]

theorem TagFilter.tags_ne_nil_of_ofTags {mode : FilterMode} {tags : List String} {f : TagFilter}
    (h : ofTags mode tags = .ok f) : f.tags ≠ [] := by
  simp only [ofTags] at h
  split at h
  · cases h
  · rename_i some_
    cases h
    simpa using some_

theorem ClassNameFilter.eq_of_ofPattern {mode : FilterMode} {pattern : String}
    {f : ClassNameFilter} (h : ofPattern mode pattern = .ok f) :
    ofPattern f.mode f.pattern = .ok f := by
  have parts : f.mode = mode ∧ f.pattern = pattern := by
    unfold ofPattern at h
    split at h
    · cases h
      exact ⟨rfl, rfl⟩
    · cases h
  rw [parts.1, parts.2, h]

/-! ## Lists of filters -/

/-- Lists with the same image are the same, if the map tells their elements apart. -/
theorem eq_of_map_eq {α β : Type} {f : α → β} {xs ys : List α}
    (tells : ∀ x ∈ xs, ∀ y ∈ ys, f x = f y → x = y) (h : xs.map f = ys.map f) : xs = ys := by
  induction xs generalizing ys with
  | nil =>
      cases ys with
      | nil => rfl
      | cons y ys => cases h
  | cons x xs ih =>
      cases ys with
      | nil => cases h
      | cons y ys =>
          obtain ⟨head, rest⟩ := List.cons.inj h
          have heads : x = y := tells x List.mem_cons_self y List.mem_cons_self head
          have others : xs = ys := ih (fun a ha b hb =>
            tells a (List.mem_cons_of_mem x ha) b (List.mem_cons_of_mem y hb)) rest
          rw [heads, others]

namespace Request

/-- The discovery and post-discovery filters are class name filters and tag filters, as they are
made of patterns and of tags. -/
structure BuiltIn (r : Request) : Prop where
  discoveryFilters : ∀ f ∈ r.discoveryFilters, ∃ mode pattern c,
    ClassNameFilter.ofPattern mode pattern = .ok c ∧ f = .className c
  postDiscoveryFilters : ∀ f ∈ r.postDiscoveryFilters, ∃ mode tags g,
    TagFilter.ofTags mode tags = .ok g ∧ f = .tags g

/-- A tag of a tag filter of the request contains a comma and a blank. -/
def HasDividedTag (r : Request) : Prop :=
  ∃ f, PostDiscoveryFilter.tags f ∈ r.postDiscoveryFilters ∧ f.HasDividedTag

variable {r s : Request}

theorem discoveryFilters_eq (hr : r.BuiltIn) (hs : s.BuiltIn)
    (h : r.discoveryFilters.map DiscoveryFilter.display =
      s.discoveryFilters.map DiscoveryFilter.display) :
    r.discoveryFilters = s.discoveryFilters := by
  refine eq_of_map_eq (fun f hf g hg shown => ?_) h
  obtain ⟨mode, pattern, c, made, rfl⟩ := hr.discoveryFilters f hf
  obtain ⟨mode', pattern', d, madeToo, rfl⟩ := hs.discoveryFilters g hg
  rw [ClassNameFilter.eq_of_display_eq (ClassNameFilter.eq_of_ofPattern made)
    (ClassNameFilter.eq_of_ofPattern madeToo) shown]

theorem postDiscoveryFilters_eq (hr : r.BuiltIn) (hs : s.BuiltIn)
    (whole : ¬ (r.HasDividedTag ∨ s.HasDividedTag))
    (h : r.postDiscoveryFilters.map PostDiscoveryFilter.display =
      s.postDiscoveryFilters.map PostDiscoveryFilter.display) :
    r.postDiscoveryFilters = s.postDiscoveryFilters := by
  refine eq_of_map_eq (fun f hf g hg shown => ?_) h
  obtain ⟨mode, tags, c, made, rfl⟩ := hr.postDiscoveryFilters f hf
  obtain ⟨mode', tags', d, madeToo, rfl⟩ := hs.postDiscoveryFilters g hg
  rw [TagFilter.eq_of_display_eq (TagFilter.tags_ne_nil_of_ofTags made)
    (TagFilter.tags_ne_nil_of_ofTags madeToo) (fun divided => whole (.inl ⟨c, hf, divided⟩))
    (fun divided => whole (.inr ⟨d, hg, divided⟩)) shown]

end Request

/-! ## Equal summaries -/

theorem Summary.beq_iff {a b : Summary} : (a == b) = true ↔
    (a.selectors == b.selectors) = true ∧ a.engineIds = b.engineIds ∧
      a.discoveryFilters = b.discoveryFilters ∧ a.postDiscoveryFilters = b.postDiscoveryFilters ∧
        a.parameters = b.parameters := by
  obtain ⟨selectors, engineIds, discoveryFilters, postDiscoveryFilters, parameters⟩ := a
  obtain ⟨selectors', engineIds', discoveryFilters', postDiscoveryFilters', parameters'⟩ := b
  show (_ && (_ && (_ && (_ && _)))) = true ↔ _
  simp only [Bool.and_eq_true, beq_iff_eq]

/-- Lists are equal when they are element by element. -/
theorem forall₂_beq_of_beq {α : Type} [BEq α] {xs ys : List α} (h : (xs == ys) = true) :
    List.Forall₂ (fun x y => (x == y) = true) xs ys := by
  induction xs generalizing ys with
  | nil =>
      cases ys with
      | nil => exact .nil
      | cons y ys => cases h
  | cons x xs ih =>
      cases ys with
      | nil => cases h
      | cons y ys =>
          rw [List.cons_beq_cons, Bool.and_eq_true] at h
          exact .cons h.1 (ih h.2)

namespace Request

/-- The requests give the same answers, and tell the same selectors. -/
structure SameAnswers (r s : Request) : Prop where
  selectors : List.Forall₂ (fun a b => (a == b) = true) r.selectors s.selectors
  /-- So every question about parameters is answered alike. -/
  parameters : r.parameters = s.parameters
  engines : ∀ id : String, r.engineFilters.map (·.apply id) = s.engineFilters.map (·.apply id)
  classNames : ∀ name : String,
    r.discoveryFilters.map (·.apply name) = s.discoveryFilters.map (·.apply name)
  tests : ¬ (r.HasDividedTag ∨ s.HasDividedTag) → ∀ t : TestIdentifier,
    r.postDiscoveryFilters.map (·.apply t) = s.postDiscoveryFilters.map (·.apply t)

/-- **Requests with equal summaries give the same answers**, if their filters are those of this
library; for tests also no tag of a filter may look like two. -/
theorem summary_faithful {r s : Request} (hr : r.BuiltIn) (hs : s.BuiltIn)
    (h : (r.summary == s.summary) = true) : SameAnswers r s := by
  obtain ⟨selectors, engineIds, discoveryFilters, postDiscoveryFilters, parameters⟩ :=
    Summary.beq_iff.1 h
  have engineFilters : r.engineFilters = s.engineFilters :=
    eq_of_map_eq (fun f _ g _ same => congrArg EngineFilter.mk same) engineIds
  refine ⟨forall₂_beq_of_beq selectors, parameters, fun id => ?_, fun name => ?_, ?_⟩
  · rw [engineFilters]
  · rw [discoveryFilters_eq hr hs discoveryFilters]
  · intro whole t
    rw [postDiscoveryFilters_eq hr hs whole postDiscoveryFilters]

/-- Two spellings of a path, patterns with alternatives and quotes, and a tag that ends in a
comma. -/
theorem summary_faithful_respelled :
    ∃ c d, ClassNameFilter.ofPattern .include "A.*|B" = .ok c ∧
      ClassNameFilter.ofPattern .exclude "it's" = .ok d ∧
      let r : Request :=
        { selectors := [.path (Path.ofText "a/b"), .className "C"], engineFilters := [⟨"e"⟩, ⟨""⟩]
          discoveryFilters := [.className c, .className d]
          postDiscoveryFilters := [.tags ⟨["a,", "b"], .include⟩], parameters := .empty }
      let s : Request := { r with selectors := [.path (Path.ofText "a/.//b/"), .className "C"] }
      r.BuiltIn ∧ s.BuiltIn ∧ (r.summary == s.summary) = true ∧
        ¬ (r.HasDividedTag ∨ s.HasDividedTag) ∧ SameAnswers r s := by
  have accepted : ∀ mode pattern, (ClassNameFilter.ofPattern mode pattern).isOk = true →
      ∃ c, ClassNameFilter.ofPattern mode pattern = .ok c := by
    intro mode pattern ok
    cases h : ClassNameFilter.ofPattern mode pattern with
    | error e =>
        rw [h] at ok
        cases ok
    | ok c => exact ⟨c, rfl⟩
  obtain ⟨c, madeC⟩ := accepted .include "A.*|B" (by decide +kernel)
  obtain ⟨d, madeD⟩ := accepted .exclude "it's" (by decide +kernel)
  refine ⟨c, d, madeC, madeD, ?_⟩
  intro r s
  have discovery : ∀ f ∈ r.discoveryFilters, ∃ mode pattern c,
      ClassNameFilter.ofPattern mode pattern = .ok c ∧ f = .className c :=
    List.forall_mem_cons.2 ⟨⟨_, _, c, madeC, rfl⟩,
      List.forall_mem_singleton.2 ⟨_, _, d, madeD, rfl⟩⟩
  have tests : ∀ f ∈ r.postDiscoveryFilters, ∃ mode tags g,
      TagFilter.ofTags mode tags = .ok g ∧ f = .tags g :=
    List.forall_mem_singleton.2 ⟨.include, [" a,", "", "b"], _, by decide, rfl⟩
  have whole : ¬ r.HasDividedTag := by
    rintro ⟨f, hf, divided⟩
    obtain rfl : f = ⟨["a,", "b"], .include⟩ := by simpa [r] using hf
    exact absurd divided (by unfold TagFilter.HasDividedTag; decide)
  have spelled : ([Selector.path (Path.ofText "a/b"), .className "C"] ==
      [.path (Path.ofText "a/.//b/"), .className "C"]) = true := by decide
  have same : (r.summary == s.summary) = true :=
    Summary.beq_iff.2 ⟨spelled, rfl, rfl, rfl, rfl⟩
  exact ⟨⟨discovery, tests⟩, ⟨discovery, tests⟩, same, fun either => either.elim whole whole,
    summary_faithful ⟨discovery, tests⟩ ⟨discovery, tests⟩ same⟩

-- Where a tag looks like two, the summary is the same and the answer is not.
example :
    let f : TagFilter := ⟨["a, b"], .include⟩
    let g : TagFilter := ⟨["a", "b"], .include⟩
    let t : TestIdentifier := ⟨"id", "name", ["a"]⟩
    f.display = g.display ∧ (f.apply t).isIncluded = false ∧ (g.apply t).isIncluded = true := by
  decide

end Request

end TestDiscovery
