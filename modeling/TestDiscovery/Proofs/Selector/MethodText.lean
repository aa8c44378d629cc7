/-
# TestDiscovery.Proofs.Selector.MethodText -- the texts that name methods

Reading is written out as it takes a text apart: a class and a member around the
one number sign (`ofChars?_eq_some_iff`), a name and a list around the first
opening parenthesis (`member?_eq_some_iff`), the inside of the list up to the
closing parenthesis at the very end (`typeList?_eq_some_iff`).

A method is well formed (`WellFormed`) when its parts are names without the
characters that would end them early.  Reading gives only well-formed methods
(`wellFormed_of_ofChars?`) and gives back every well-formed one
(`ofChars?_text`), so a method reads back from its text exactly when it is well
formed.
-/
import TestDiscovery.Proofs.Text.Parts
import TestDiscovery.Selector.Method

namespace TestDiscovery.MethodSelector

set_option autoImplicit false

open TestDiscovery.Text

/-! ## Names -/

theorem filled?_eq_some_iff {cs : List Char} {s : String} :
    filled? cs = some s ↔ s ≠ "" ∧ s = String.ofList (trimChars cs) := by
  unfold filled?
  dsimp only
  split
  · rename_i empty
    constructor
    · intro h
      cases h
    · rintro ⟨ne, rfl⟩
      exact absurd empty ne
  · rename_i ne
    constructor
    · intro h
      cases h
      exact ⟨ne, rfl⟩
    · rintro ⟨-, rfl⟩
      rfl

theorem isName_of_filled? {cs : List Char} {s : String} (h : filled? cs = some s) : IsName s := by
  obtain ⟨ne, rfl⟩ := filled?_eq_some_iff.1 h
  exact isName_ofList_trimChars ne

theorem mem_of_filled? {cs : List Char} {s : String} (h : filled? cs = some s) {c : Char}
    (hc : c ∈ s.toList) : c ∈ cs := by
  obtain ⟨-, rfl⟩ := filled?_eq_some_iff.1 h
  rw [String.toList_ofList] at hc
  exact mem_of_mem_trimChars hc

theorem filled?_toList {s : String} (h : IsName s) : filled? s.toList = some s := by
  rw [filled?_eq_some_iff, h.trimChars_toList, String.ofList_toList]
  exact ⟨h.filled, rfl⟩

theorem filled?_blank_toList {s : String} (h : IsName s) : filled? (' ' :: s.toList) = some s := by
  rw [filled?_eq_some_iff, trimChars_cons_of_isSpace (by decide), h.trimChars_toList,
    String.ofList_toList]
  exact ⟨h.filled, rfl⟩

/-! ## Reading, part by part -/

theorem typeList?_eq_some_iff {cs : List Char} {types : List String} :
    typeList? cs = some types ↔
      ∃ inside, cs = inside ++ [')'] ∧ ')' ∉ inside ∧ '(' ∉ inside ∧
        types? inside = some types := by
  unfold typeList?
  constructor
  · intro h
    split at h
    · rename_i inside cut
      split at h
      · cases h
      · rename_i noOpen
        obtain ⟨rfl, noClose⟩ := cutAt_eq_some_iff.1 cut
        exact ⟨inside, rfl, noClose, noOpen, h⟩
    · cases h
  · rintro ⟨inside, rfl, noClose, noOpen, h⟩
    rw [cutAt_append ')' inside [] noClose]
    simpa only [noOpen, if_false] using h

theorem member?_eq_some_iff {cs : List Char} {name : String} {types : Option (List String)} :
    member? cs = some (name, types) ↔
      ('(' ∉ cs ∧ filled? cs = some name ∧ types = none) ∨
        ∃ front list ts, cs = front ++ '(' :: list ∧ '(' ∉ front ∧ typeList? list = some ts ∧
          filled? front = some name ∧ types = some ts := by
  unfold member?
  cases cut : cutAt '(' cs with
  | none =>
      have noOpen : '(' ∉ cs := (cutAt_eq_none_iff '(' cs).1 cut
      simp only [Option.pure_def, Option.bind_eq_bind, Option.bind_eq_some_iff, Option.some.injEq,
        Prod.mk.injEq]
      constructor
      · rintro ⟨n, hn, rfl, rfl⟩
        exact Or.inl ⟨noOpen, hn, rfl⟩
      · rintro (⟨-, hn, rfl⟩ | ⟨front, list, ts, rfl, -⟩)
        · exact ⟨name, hn, rfl, rfl⟩
        · simp at noOpen
  | some parts =>
      obtain ⟨front, list⟩ := parts
      obtain ⟨rfl, noOpen⟩ := cutAt_eq_some_iff.1 cut
      simp only [Option.pure_def, Option.bind_eq_bind, Option.bind_eq_some_iff, Option.some.injEq,
        Prod.mk.injEq]
      constructor
      · rintro ⟨ts, hts, n, hn, rfl, rfl⟩
        exact Or.inr ⟨front, list, ts, rfl, noOpen, hts, hn, rfl⟩
      · rintro (⟨h, -⟩ | ⟨front', list', ts, same, noOpen', hts, hn, rfl⟩)
        · simp at h
        · rw [same, cutAt_append '(' front' list' noOpen'] at cut
          cases cut
          exact ⟨ts, hts, name, hn, rfl, rfl⟩

theorem ofChars?_eq_some_iff {cs : List Char} {m : MethodSelector} :
    ofChars? cs = some m ↔
      ∃ cls member, cs = cls ++ '#' :: member ∧ '#' ∉ cls ∧ '#' ∉ member ∧
        filled? cls = some m.className ∧
        member? member = some (m.methodName, m.parameterTypes) := by
  unfold ofChars?
  cases cut : cutAt '#' cs with
  | none =>
      have noSign : '#' ∉ cs := (cutAt_eq_none_iff '#' cs).1 cut
      constructor
      · intro h
        cases h
      · rintro ⟨cls, member, rfl, -⟩
        simp at noSign
  | some parts =>
      obtain ⟨cls, member⟩ := parts
      obtain ⟨rfl, noSign⟩ := cutAt_eq_some_iff.1 cut
      by_cases second : '#' ∈ member
      · simp only [second, if_true]
        constructor
        · intro h
          cases h
        · rintro ⟨cls', member', same, noSign', noSecond, -⟩
          rw [same, cutAt_append '#' cls' member' noSign'] at cut
          cases cut
          exact absurd second noSecond
      · simp only [second, if_false, Option.pure_def, Option.bind_eq_bind, Option.bind_eq_some_iff,
          Option.some.injEq]
        constructor
        · rintro ⟨className, hc, ⟨methodName, types⟩, hm, rfl⟩
          exact ⟨cls, member, rfl, noSign, second, hc, hm⟩
        · rintro ⟨cls', member', same, noSign', -, hc, hm⟩
          rw [same, cutAt_append '#' cls' member' noSign'] at cut
          cases cut
          exact ⟨m.className, hc, (m.methodName, m.parameterTypes), hm, rfl⟩

/-! ## Well-formed methods -/

/-- A type that may stand in a list: a name without the characters that would end it. -/
structure IsTypeName (t : String) : Prop where
  name : IsName t
  plain : ∀ c ∈ t.toList, c ∉ [',', '#', '(', ')']

/-- The methods that have a text of their own.  The class may hold parentheses, and the method a
closing one. -/
structure WellFormed (m : MethodSelector) : Prop where
  className : IsName m.className
  className_plain : '#' ∉ m.className.toList
  methodName : IsName m.methodName
  methodName_plain : '#' ∉ m.methodName.toList ∧ '(' ∉ m.methodName.toList
  parameterTypes : ∀ types, m.parameterTypes = some types → ∀ t ∈ types, IsTypeName t

/-- The types of a list without parentheses and number signs are type names. -/
theorem isTypeName_of_types? {cs : List Char} {types : List String}
    (h : types? cs = some types) (plain : ∀ c ∈ cs, c ∉ ['#', '(', ')']) {t : String}
    (ht : t ∈ types) : IsTypeName t := by
  unfold types? at h
  split at h
  · cases h
    simp at ht
  · have pieces := mapM_eq_some_iff.1 h
    have read : some t ∈ (cs.splitOn ',').map filled? := pieces ▸ List.mem_map_of_mem ht
    obtain ⟨piece, hp, filled⟩ := List.mem_map.1 read
    refine ⟨isName_of_filled? filled, fun c hc => ?_⟩
    obtain ⟨inside, notComma⟩ := mem_of_mem_splitOn hp (mem_of_filled? filled hc)
    have := plain c inside
    simp_all

theorem wellFormed_of_ofChars? {cs : List Char} {m : MethodSelector} (h : ofChars? cs = some m) :
    m.WellFormed := by
  obtain ⟨cls, member, rfl, noSign, noSecond, hc, hm⟩ := ofChars?_eq_some_iff.1 h
  have noSignIn : '#' ∉ m.className.toList := fun hs => noSign (mem_of_filled? hc hs)
  obtain ⟨noOpen, hn, none_⟩ | ⟨front, list, types, rfl, noOpen, hl, hn, some_⟩ :=
    member?_eq_some_iff.1 hm
  · exact ⟨isName_of_filled? hc, noSignIn, isName_of_filled? hn,
      ⟨fun hs => noSecond (mem_of_filled? hn hs), fun hs => noOpen (mem_of_filled? hn hs)⟩,
      fun types some_ => by simp [none_] at some_⟩
  · obtain ⟨inside, rfl, noClose, noOpenIn, ht⟩ := typeList?_eq_some_iff.1 hl
    have noSignFront : '#' ∉ front := fun hs => noSecond (by simp [hs])
    refine ⟨isName_of_filled? hc, noSignIn, isName_of_filled? hn,
      ⟨fun hs => noSignFront (mem_of_filled? hn hs), fun hs => noOpen (mem_of_filled? hn hs)⟩, ?_⟩
    intro types' some_' t memT
    cases some_.symm.trans some_'
    refine isTypeName_of_types? ht (fun c hc => ?_) memT
    have noSignInside : '#' ∉ inside := fun hs => noSecond (by simp [hs])
    simp only [List.mem_cons, List.not_mem_nil, or_false]
    rintro (rfl | rfl | rfl)
    · exact noSignInside hc
    · exact noOpenIn hc
    · exact noClose hc

/-! ## Reading what was written -/

/-- The characters between the parentheses. -/
def inside (types : List String) : List Char :=
  [',', ' '].intercalate (types.map String.toList)

theorem toList_text (m : MethodSelector) :
    m.text.toList = m.className.toList ++ '#' :: (m.methodName.toList ++
      match m.parameterTypes with
      | none => []
      | some types => '(' :: (inside types ++ [')'])) := by
  obtain ⟨className, methodName, _ | types⟩ := m
  · simp [text]
  · simp [text, inside]

/-- No character of the list is one that no type and no separator holds. -/
theorem not_mem_inside {types : List String} (h : ∀ t ∈ types, IsTypeName t) {c : Char}
    (hc : c ∈ ['#', '(', ')']) : c ∉ inside types := by
  intro member
  rcases mem_of_mem_intercalate member with sep | ⟨part, hp, hcp⟩
  · simp only [List.mem_cons, List.not_mem_nil, or_false] at hc sep
    rcases hc with rfl | rfl | rfl <;> simp at sep
  · obtain ⟨t, ht, rfl⟩ := List.mem_map.1 hp
    exact (h t ht).plain c hcp (List.mem_cons_of_mem ',' hc)

theorem types?_inside {types : List String} (h : ∀ t ∈ types, IsTypeName t) :
    types? (inside types) = some types := by
  unfold types?
  cases types with
  | nil => rfl
  | cons t ts =>
      have first : IsTypeName t := h t List.mem_cons_self
      have rest : ∀ u ∈ ts, IsTypeName u := fun u hu => h u (List.mem_cons_of_mem t hu)
      obtain ⟨more, starts⟩ := intercalate_cons_eq_append [',', ' '] t.toList (ts.map String.toList)
      have filled : ¬ (inside (t :: ts)).all isSpace = true := by
        rw [inside, List.map_cons, starts, List.all_append, Bool.and_eq_true]
        exact fun blank => first.name.not_isBlank blank.1
      have noComma : ∀ p ∈ t.toList :: ts.map String.toList, ',' ∉ p := by
        intro p hp hc
        obtain ⟨u, hu, rfl⟩ := List.mem_map.1 (List.map_cons ▸ hp : p ∈ (t :: ts).map String.toList)
        exact (h u hu).plain ',' hc List.mem_cons_self
      rw [if_neg filled, inside, List.map_cons, splitOn_joined (by decide) noComma,
        mapM_eq_some_iff, List.map_cons, List.map_cons, filled?_toList first.name, List.map_map,
        List.map_map]
      refine congrArg _ (List.map_congr_left fun u hu => ?_)
      simp only [Function.comp_apply]
      exact filled?_blank_toList (rest u hu).name

/-- **A well-formed method reads back from its text.** -/
theorem ofChars?_text {m : MethodSelector} (h : m.WellFormed) :
    ofChars? m.text.toList = some m := by
  rw [toList_text, ofChars?_eq_some_iff]
  refine ⟨_, _, rfl, h.className_plain, ?_, filled?_toList h.className, ?_⟩
  · cases types : m.parameterTypes with
    | none => simpa using h.methodName_plain.1
    | some ts =>
        have := not_mem_inside (h.parameterTypes ts types) (c := '#') (by decide)
        simpa [this] using h.methodName_plain.1
  · rw [member?_eq_some_iff]
    cases types : m.parameterTypes with
    | none =>
        refine Or.inl ⟨by simpa using h.methodName_plain.2, ?_, rfl⟩
        rw [List.append_nil, filled?_toList h.methodName]
    | some ts =>
        have typeNames := h.parameterTypes ts types
        refine Or.inr ⟨_, _, ts, rfl, h.methodName_plain.2, ?_, filled?_toList h.methodName, rfl⟩
        exact typeList?_eq_some_iff.2 ⟨inside ts, rfl, not_mem_inside typeNames (by decide),
          not_mem_inside typeNames (by decide), types?_inside typeNames⟩

/-! ## Reading a text -/

theorem parse_eq_ok_iff {t : String} {m : MethodSelector} :
    parse t = .ok m ↔ ofChars? t.toList = some m := by
  unfold parse
  split
  · rename_i read
    rw [read, Except.ok.injEq, Option.some.injEq]
  · rename_i refused
    simp [refused]

theorem wellFormed_of_parse {t : String} {m : MethodSelector} (h : parse t = .ok m) :
    m.WellFormed :=
  wellFormed_of_ofChars? (parse_eq_ok_iff.1 h)

theorem parse_text {m : MethodSelector} (h : m.WellFormed) : parse m.text = .ok m :=
  parse_eq_ok_iff.2 (ofChars?_text h)

/-- **Round trip.**  A method reads back from its text exactly when it is well formed.  All that is
read is well formed, so reading and writing settle after one reading, and two methods that were read
and are written alike are the same. -/
theorem parse_text_iff_wellFormed :
    (∀ m : MethodSelector, parse m.text = .ok m ↔ m.WellFormed) ∧
      (∀ (t : String) (m : MethodSelector), parse t = .ok m → m.WellFormed ∧ parse m.text = .ok m) ∧
      ∀ (t u : String) (m n : MethodSelector), parse t = .ok m → parse u = .ok n →
        m.text = n.text → m = n := by
  refine ⟨fun m => ⟨wellFormed_of_parse, parse_text⟩, fun t m read => ?_,
    fun t u m n readT readU same => ?_⟩
  · have formed := wellFormed_of_parse read
    exact ⟨formed, parse_text formed⟩
  · have backM := parse_text (wellFormed_of_parse readT)
    have backN := parse_text (wellFormed_of_parse readU)
    rw [same, backN] at backM
    exact (Except.ok.inj backM).symm

/-- Two texts that differ in their blanks name one method, which reads back from its own text. -/
theorem parse_text_spaced :
    ∃ m n : MethodSelector, parse " a.B # m ( int , a.C )" = .ok m ∧
      parse "a.B#m(int,a.C)" = .ok n ∧ parse m.text = .ok m ∧ m = n := by
  have spaced : parse " a.B # m ( int , a.C )" = .ok ⟨"a.B", "m", some ["int", "a.C"]⟩ := by
    decide +kernel
  have tight : parse "a.B#m(int,a.C)" = .ok ⟨"a.B", "m", some ["int", "a.C"]⟩ := by
    decide +kernel
  refine ⟨_, _, spaced, tight, ?_, ?_⟩
  · exact (parse_text_iff_wellFormed.2.1 _ _ spaced).2
  · exact parse_text_iff_wellFormed.2.2 _ _ _ _ spaced tight (Eq.refl _)

end TestDiscovery.MethodSelector
