/-
# TestDiscovery.Proofs.Request.Identified -- what equality of selectors and summaries identifies

Equality (`==`) of selectors compares texts as they are and paths by components.  So
it identifies the spellings of a path and nothing else (`Selector.beq_iff_alike`).  A
JSON form shows the spelling, and selectors with the same form are the same.

From there equality of summaries is an equivalence, and two requests that it
identifies have the same JSON form unless some path is written in two ways
(`Request.differInSpelling_of_json?_ne`).
-/
import TestDiscovery.Proofs.Files.Spelling
import TestDiscovery.Proofs.Request.Faithful
import TestDiscovery.Proofs.Request.JsonForm

namespace TestDiscovery

set_option autoImplicit false

/-! ## Equality as an equivalence -/

theorem equivalence_beq {α : Type} [BEq α] [EquivBEq α] :
    Equivalence fun x y : α => (x == y) = true :=
  ⟨fun _ => BEq.rfl, BEq.symm, BEq.trans⟩

theorem beq_iff_forall₂ {α : Type} [BEq α] {xs ys : List α} :
    (xs == ys) = true ↔ List.Forall₂ (fun x y => (x == y) = true) xs ys := by
  refine ⟨forall₂_beq_of_beq, fun h => ?_⟩
  induction h with
  | nil => rfl
  | cons first _ ih =>
      rw [List.cons_beq_cons, Bool.and_eq_true]
      exact ⟨first, ih⟩

theorem forall₂_trans {α : Type} {R : α → α → Prop} (trans : ∀ x y z, R x y → R y z → R x z)
    {xs ys zs : List α} (h : List.Forall₂ R xs ys) (k : List.Forall₂ R ys zs) :
    List.Forall₂ R xs zs := by
  induction h generalizing zs with
  | nil => exact k
  | cons first _ ih =>
      cases k with
      | cons second others => exact .cons (trans _ _ _ first second) (ih others)

instance equivBEq_list {α : Type} [BEq α] [EquivBEq α] : EquivBEq (List α) where
  symm h := beq_iff_forall₂.2 (.flip ((beq_iff_forall₂.1 h).imp fun _ _ => BEq.symm))
  trans h k := by
    rw [beq_iff_forall₂] at h k ⊢
    refine forall₂_trans (fun x y z first second => ?_) h k
    exact BEq.trans first second

/-- Lists that are related and not the same differ at some place. -/
theorem exists_ne_of_forall₂ {α : Type} {R : α → α → Prop} {xs ys : List α}
    (h : List.Forall₂ R xs ys) (ne : xs ≠ ys) :
    ∃ (i : Nat) (x y : α), xs[i]? = some x ∧ ys[i]? = some y ∧ R x y ∧ x ≠ y := by
  induction h with
  | nil => exact absurd rfl ne
  | @cons x y xs ys related _ ih =>
      by_cases head : x = y
      · subst head
        have rest : xs ≠ ys := fun same => ne (congrArg (x :: ·) same)
        obtain ⟨i, a, b, left, right, differ⟩ := ih rest
        exact ⟨i + 1, a, b, left, right, differ⟩
      · exact ⟨0, x, y, rfl, rfl, related, head⟩

/-! ## Selectors -/

namespace Selector

/-- The selectors are the same, up to the spelling of the path that they may name. -/
inductive Alike : Selector → Selector → Prop
  | same (s : Selector) : Alike s s
  | path {p q : Path} (spellings : p.IsSpellingOf q) : Alike (.path p) (.path q)

/-- **Equality identifies the spellings of a path and nothing else.** -/
theorem beq_iff_alike {a b : Selector} : (a == b) = true ↔ Alike a b := by
  constructor
  · intro h
    -- Selectors of different kinds are unequal by computation; of one kind only the names count.
    cases a with
    | path p =>
        cases b with
        | path q => exact .path (Path.beq_iff_isSpellingOf.1 h)
        | _ => cases h
    | package name =>
        cases b with
        | package other =>
            obtain rfl : name = other := eq_of_beq h
            exact .same _
        | _ => cases h
    | namedClass c =>
        cases b with
        | namedClass d =>
            obtain rfl : c = d := eq_of_beq h
            exact .same _
        | _ => cases h
    | method m =>
        cases b with
        | method n =>
            obtain rfl : m = n := eq_of_beq h
            exact .same _
        | _ => cases h
    | uniqueId id =>
        cases b with
        | uniqueId other =>
            obtain rfl : id = other := eq_of_beq h
            exact .same _
        | _ => cases h
  · intro h
    cases h with
    | path spellings => exact Path.beq_iff_isSpellingOf.2 spellings
    | same =>
        cases a with
        | path p => exact Path.beq_iff_isSpellingOf.2 (.refl p.bytes)
        | package name => exact beq_self_eq_true name
        | namedClass c => exact beq_self_eq_true c
        | method m => exact beq_self_eq_true m
        | uniqueId id => exact beq_self_eq_true id

theorem Alike.symm {a b : Selector} (h : Alike a b) : Alike b a := by
  cases h with
  | same => exact .same _
  | path spellings => exact .path (.symm _ _ spellings)

theorem Alike.trans {a b c : Selector} (h : Alike a b) (k : Alike b c) : Alike a c := by
  cases h with
  | same => exact k
  | path first =>
      cases k with
      | same => exact .path first
      | path second => exact .path (.trans _ _ _ first second)

instance : EquivBEq Selector where
  rfl := beq_iff_alike.2 (.same _)
  symm h := beq_iff_alike.2 (beq_iff_alike.1 h).symm
  trans h k := beq_iff_alike.2 ((beq_iff_alike.1 h).trans (beq_iff_alike.1 k))

theorem Alike.kind_eq {a b : Selector} (h : Alike a b) : a.kind = b.kind := by
  cases h with
  | same => rfl
  | path => rfl

/-- Both selectors name paths. -/
def ArePaths (a b : Selector) : Prop := ∃ p q : Path, a = .path p ∧ b = .path q

theorem Alike.eq_of_not_arePaths {a b : Selector} (h : Alike a b) (other : ¬ ArePaths a b) :
    a = b := by
  cases h with
  | same => rfl
  | path => exact absurd ⟨_, _, rfl, rfl⟩ other

theorem exists_json?_of_not_arePaths {s : Selector} (other : ¬ ArePaths s s) :
    ∃ j, s.json? = some j := by
  refine Option.ne_none_iff_exists'.1 fun refused => ?_
  obtain ⟨p, rfl, -⟩ := json?_eq_none_iff.1 refused
  exact other ⟨p, p, rfl, rfl⟩

theorem eq_of_json?_eq {a b : Selector} {j : Json} (ha : a.json? = some j)
    (hb : b.json? = some j) : a = b :=
  Option.some.inj ((ofJson?_of_json? ha).symm.trans (ofJson?_of_json? hb))

end Selector

/-! ## Requests -/

instance : EquivBEq Summary where
  rfl := Summary.beq_iff.2 ⟨BEq.rfl, rfl, rfl, rfl, rfl⟩
  symm h := by
    obtain ⟨selectors, engineIds, discoveryFilters, postDiscoveryFilters, parameters⟩ :=
      Summary.beq_iff.1 h
    exact Summary.beq_iff.2 ⟨BEq.symm selectors, engineIds.symm, discoveryFilters.symm,
      postDiscoveryFilters.symm, parameters.symm⟩
  trans h k := by
    obtain ⟨selectors, engineIds, discoveryFilters, postDiscoveryFilters, parameters⟩ :=
      Summary.beq_iff.1 h
    obtain ⟨selectors', engineIds', discoveryFilters', postDiscoveryFilters', parameters'⟩ :=
      Summary.beq_iff.1 k
    exact Summary.beq_iff.2 ⟨BEq.trans selectors selectors', engineIds.trans engineIds',
      discoveryFilters.trans discoveryFilters', postDiscoveryFilters.trans postDiscoveryFilters',
      parameters.trans parameters'⟩

namespace Request

/-- The requests differ in the spelling of paths, and in nothing else that a summary tells. -/
structure DifferInSpelling (r s : Request) : Prop where
  /-- At one place at least a path is written in two ways. -/
  somewhere : ∃ (i : Nat) (p q : Path), r.selectors[i]? = some (.path p) ∧
    s.selectors[i]? = some (.path q) ∧ p.IsSpellingOf q ∧ p.bytes ≠ q.bytes
  everywhere : List.Forall₂ Selector.Alike r.selectors s.selectors
  rest : { r.summary with selectors := s.selectors } = s.summary

theorem differInSpelling_of_json?_ne {r s : Request} (same : (r.summary == s.summary) = true)
    (differ : r.summary.json? ≠ s.summary.json?) : DifferInSpelling r s := by
  obtain ⟨selectors, engineIds, discoveryFilters, postDiscoveryFilters, parameters⟩ :=
    Summary.beq_iff.1 same
  have alike : List.Forall₂ Selector.Alike r.selectors s.selectors :=
    (forall₂_beq_of_beq selectors).imp fun _ _ => Selector.beq_iff_alike.1
  have rest : { r.summary with selectors := s.selectors } = s.summary := by
    show Summary.mk s.selectors r.summary.engineIds r.summary.discoveryFilters
      r.summary.postDiscoveryFilters r.summary.parameters = s.summary
    rw [engineIds, discoveryFilters, postDiscoveryFilters, parameters]
    rfl
  -- All else is the same, so the forms differ only if the selectors do.
  have ne : r.selectors ≠ s.selectors := by
    intro equal
    rw [← equal] at rest
    exact differ (congrArg Summary.json? rest)
  obtain ⟨i, x, y, left, right, pair, unequal⟩ := exists_ne_of_forall₂ alike ne
  refine ⟨?_, alike, rest⟩
  cases pair with
  | same => exact absurd rfl unequal
  | @path p q spellings =>
      exact ⟨i, p, q, left, right, spellings,
        fun bytes => unequal (congrArg (fun b => Selector.path ⟨b⟩) bytes)⟩

/-- **Equality is equality up to the spelling of paths.**  On selectors it is an equivalence that is
as fine as the JSON form wherever no path is named.  Paths whose slashes are written otherwise are
equal, those of other names are not.  So what the same summary identifies in spite of its JSON form
is the spelling of a path. -/
theorem equality_up_to_spelling :
    (Equivalence fun a b : Selector => (a == b) = true) ∧
    (∀ (a b : Selector) (j : Json), a.json? = some j → b.json? = some j → (a == b) = true) ∧
    (∀ a b : Selector, (a == b) = true → a.kind = b.kind ∧ (¬ Selector.ArePaths a b →
      (∃ j, a.json? = some j ∧ b.json? = some j) ∧ a.display = b.display)) ∧
    (∀ p q : Path, Path.Widened p.bytes q.bytes → (Selector.path p == .path q) = true) ∧
    (∀ p : Path, p.bytes ≠ [] →
      (Selector.path p == .path ⟨p.bytes ++ [Path.slash]⟩) = true) ∧
    (∀ p q : Path, p.isAbsolute ≠ q.isAbsolute ∨ p.names ≠ q.names →
      (Selector.path p == .path q) = false) ∧
    (Equivalence fun r s : Request => (r.summary == s.summary) = true) ∧
    (∀ r s : Request, (r.summary == s.summary) = true → r.summary.json? ≠ s.summary.json? →
      DifferInSpelling r s) := by
  refine ⟨equivalence_beq, fun a b j ha hb => ?_, fun a b h => ?_, fun p q wide => ?_,
    fun p filled => ?_, fun p q apart => ?_, equivalence_beq.comap Request.summary,
    fun r s => differInSpelling_of_json?_ne⟩
  · obtain rfl : a = b := Selector.eq_of_json?_eq ha hb
    exact BEq.rfl
  · have alike : Selector.Alike a b := Selector.beq_iff_alike.1 h
    refine ⟨alike.kind_eq, fun other => ?_⟩
    obtain rfl : a = b := alike.eq_of_not_arePaths other
    obtain ⟨j, form⟩ := Selector.exists_json?_of_not_arePaths other
    exact ⟨⟨j, form, form⟩, rfl⟩
  · exact Selector.beq_iff_alike.2 (.path (Path.eqvGen_of_widened wide))
  · exact Selector.beq_iff_alike.2 (.path (.rel _ _ (.ended filled)))
  · refine Bool.eq_false_iff.2 fun equal => ?_
    obtain ⟨absolute, components⟩ := Path.beq_iff.1 (show (p == q) = true from equal)
    rcases apart with apart | apart
    · exact apart absolute
    · exact apart (Path.names_eq_of_components_eq components)

/-- A path with a `.` at its front in two spellings, alone and in two requests, a method with an
empty list of types, and paths that are told apart by their root and by `..`. -/
theorem equality_up_to_spelling_dots :
    let p := Path.ofText "./a/b"
    let q := Path.ofText ".//a/./b"
    let m := Selector.method ⟨"C", "m", some []⟩
    let r : Request := { empty with selectors := [m, .path p] }
    let s : Request := { empty with selectors := [m, .path q] }
    (∃ j, m.json? = some j ∧ (m == m) = true) ∧
    (¬ Selector.ArePaths m m ∧ m.kind = m.kind ∧
      (∃ j, m.json? = some j ∧ m.json? = some j) ∧ m.display = m.display) ∧
    (Path.Widened p.bytes q.bytes ∧ (Selector.path p == .path q) = true) ∧
    (p.bytes ≠ [] ∧ (Selector.path p == .path ⟨p.bytes ++ [Path.slash]⟩) = true) ∧
    ((Path.ofText "/a").isAbsolute ≠ (Path.ofText "a").isAbsolute ∧
      (Selector.path (.ofText "/a") == .path (.ofText "a")) = false) ∧
    ((Path.ofText "a/../b").names ≠ (Path.ofText "b").names ∧
      (Selector.path (.ofText "a/../b") == .path (.ofText "b")) = false) ∧
    (r.summary == s.summary) = true ∧ r.summary.json? ≠ s.summary.json? ∧
      DifferInSpelling r s := by
  intro p q m r s
  obtain ⟨-, sameForm, sameKind, widened, ended, apart, -, identified⟩ := equality_up_to_spelling
  have noPath : ¬ Selector.ArePaths m m := by
    rintro ⟨_, _, path, -⟩
    exact Selector.noConfusion path
  have form : m.json? = some (.object [("kind", .text "method"), ("class_name", .text "C"),
      ("method_name", .text "m"), ("parameter_types", .array [])]) := rfl
  have wide : Path.Widened p.bytes q.bytes :=
    .kept _ (.doubled (.kept _ (.dotted (.kept _ .nil))))
  have filled : p.bytes ≠ [] := by decide
  have rooted : (Path.ofText "/a").isAbsolute ≠ (Path.ofText "a").isAbsolute := by decide
  have upwards : (Path.ofText "a/../b").names ≠ (Path.ofText "b").names := by decide
  have same : (r.summary == s.summary) = true := by decide
  have differ : r.summary.json? ≠ s.summary.json? := by
    have printed : r.summary.json?.map (Json.print 0) ≠ s.summary.json?.map (Json.print 0) := by
      decide +kernel
    exact fun equal => printed (congrArg _ equal)
  obtain ⟨kind, shown⟩ := sameKind m m (sameForm m m _ form form)
  exact ⟨⟨_, form, sameForm m m _ form form⟩, ⟨noPath, kind, shown noPath⟩,
    ⟨wide, widened p q wide⟩, ⟨filled, ended p filled⟩, ⟨rooted, apart _ _ (.inl rooted)⟩,
    ⟨upwards, apart _ _ (.inr upwards)⟩, same, differ, identified r s same differ⟩

end Request

end TestDiscovery
