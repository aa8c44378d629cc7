/-
# TestDiscovery.Proofs.Selector.MethodGrammar -- the grammar of method texts

A form (`Form`) is a way to write a method: a class and a name, a name with an empty
list, or a name with types between commas.  `Form.chars` writes it out,
`Form.Valid` says which parts it may have, and `Form.method` is the method it
writes, every part trimmed.

Reading finds the method of a form (`ofChars?_chars`) and finds nothing else
(`exists_form_of_ofChars?`).  A text has at most one form (`Form.eq_of_writes`),
since each part ends where the first separator that may not stand in it begins.
-/
import TestDiscovery.Proofs.Selector.MethodText

namespace TestDiscovery.MethodSelector

set_option autoImplicit false

open TestDiscovery.Text

/-! ## Forms -/

/-- White space only, or nothing at all. -/
def Blank (cs : List Char) : Prop := ∀ c ∈ cs, isSpace c = true

/-- A way to write a method. -/
inductive Form where
  /-- `Class#method` -/
  | bare (cls name : List Char)
  /-- `Class#method()`, with white space between the parentheses. -/
  | emptyList (cls name space : List Char)
  /-- `Class#method(Type, ...)`, with the pieces between the commas. -/
  | typeList (cls name : List Char) (pieces : List (List Char))

namespace Form

/-- The class of the form. -/
def cls : Form → List Char
  | bare cls _ => cls
  | emptyList cls _ _ => cls
  | typeList cls _ _ => cls

/-- The name of the method. -/
def name : Form → List Char
  | bare _ name => name
  | emptyList _ name _ => name
  | typeList _ name _ => name

/-- What stands between the parentheses, if there are any. -/
def inside? : Form → Option (List Char)
  | bare _ _ => none
  | emptyList _ _ space => some space
  | typeList _ _ pieces => some ([','].intercalate pieces)

/-- The part after the number sign. -/
def member (f : Form) : List Char :=
  match f.inside? with
  | none => f.name
  | some inside => f.name ++ '(' :: (inside ++ [')'])

/-- The form, written out. -/
def chars (f : Form) : List Char := f.cls ++ '#' :: f.member

/-- The types that the form gives. -/
def types : Form → Option (List String)
  | bare _ _ => none
  | emptyList _ _ _ => some []
  | typeList _ _ pieces => some (pieces.map fun piece => String.ofList (trimChars piece))

/-- The method that the form writes. -/
def method (f : Form) : MethodSelector :=
  ⟨String.ofList (trimChars f.cls), String.ofList (trimChars f.name), f.types⟩

/-- What may stand between the parentheses: white space, or pieces of which none is blank. -/
def ListValid : Form → Prop
  | bare _ _ => True
  | emptyList _ _ space => Blank space
  | typeList _ _ pieces => pieces ≠ [] ∧ ∀ piece ∈ pieces, ',' ∉ piece ∧ ¬ Blank piece

/-- The form has a class and a name; the name holds no opening parenthesis, and the list holds no
parenthesis at all. -/
structure Valid (f : Form) : Prop where
  cls : ¬ Blank f.cls
  name : ¬ Blank f.name
  name_plain : '(' ∉ f.name
  inside_plain : ∀ inside, f.inside? = some inside → '(' ∉ inside ∧ ')' ∉ inside
  list : f.ListValid

/-- The text has exactly one number sign and is the form, written out. -/
structure Writes (f : Form) (t : String) : Prop where
  sign : t.toList.count '#' = 1
  text : t.toList = f.chars
  valid : f.Valid

end Form

/-! ## Names and lists -/

theorem all_isSpace_iff (cs : List Char) : cs.all isSpace = true ↔ Blank cs := List.all_eq_true

theorem filled?_eq_some_iff_not_blank {cs : List Char} {s : String} :
    filled? cs = some s ↔ ¬ Blank cs ∧ String.ofList (trimChars cs) = s := by
  have empty : String.ofList (trimChars cs) = "" ↔ Blank cs := by
    rw [← all_isSpace_iff, ← trimChars_eq_nil_iff]
    exact String.ofList_eq_empty_iff
  rw [filled?_eq_some_iff]
  constructor
  · rintro ⟨filled, rfl⟩
    exact ⟨fun blank => filled (empty.2 blank), rfl⟩
  · rintro ⟨filled, rfl⟩
    exact ⟨fun none_ => filled (empty.1 none_), rfl⟩

/-- Pieces of which none is blank do not join to a blank list. -/
theorem not_blank_intercalate {pieces : List (List Char)} (some_ : pieces ≠ [])
    (filled : ∀ piece ∈ pieces, ¬ Blank piece) : ¬ Blank ([','].intercalate pieces) := by
  cases pieces with
  | nil => exact absurd rfl some_
  | cons piece rest =>
      obtain ⟨more, starts⟩ := intercalate_cons_eq_append [','] piece rest
      intro blank
      refine filled piece List.mem_cons_self fun c hc => blank c ?_
      rw [starts]
      exact List.mem_append_left more hc

theorem mapM_filled?_eq_some_iff {pieces : List (List Char)} {types : List String} :
    pieces.mapM filled? = some types ↔
      (∀ piece ∈ pieces, ¬ Blank piece) ∧
        pieces.map (fun piece => String.ofList (trimChars piece)) = types := by
  rw [mapM_eq_some_iff]
  induction pieces generalizing types with
  | nil => cases types <;> simp
  | cons piece pieces ih =>
      cases types with
      | nil => simp
      | cons t ts =>
          simp only [List.map_cons, List.cons.injEq, ih, filled?_eq_some_iff_not_blank,
            List.forall_mem_cons]
          tauto

theorem types?_eq_some_iff {inside : List Char} {types : List String} :
    types? inside = some types ↔
      (Blank inside ∧ types = []) ∨
        ∃ pieces, pieces ≠ [] ∧ (∀ piece ∈ pieces, ',' ∉ piece ∧ ¬ Blank piece) ∧
          inside = [','].intercalate pieces ∧
          types = pieces.map fun piece => String.ofList (trimChars piece) := by
  unfold types?
  split
  · rename_i blank
    rw [all_isSpace_iff] at blank
    constructor
    · intro h
      cases h
      exact Or.inl ⟨blank, rfl⟩
    · rintro (⟨-, rfl⟩ | ⟨pieces, some_, parts, rfl, -⟩)
      · rfl
      · exact absurd blank (not_blank_intercalate some_ fun p hp => (parts p hp).2)
  · rename_i filled
    rw [all_isSpace_iff] at filled
    rw [mapM_filled?_eq_some_iff]
    constructor
    · rintro ⟨parts, rfl⟩
      refine Or.inr ⟨_, List.splitOn_ne_nil ',' inside, fun piece hp => ⟨fun comma => ?_, ?_⟩, ?_,
        rfl⟩
      · exact (mem_of_mem_splitOn hp comma).2 rfl
      · exact parts piece hp
      · exact (List.intercalate_splitOn ',').symm
    · rintro (⟨blank, -⟩ | ⟨pieces, some_, parts, rfl, rfl⟩)
      · exact absurd blank filled
      · rw [List.splitOn_intercalate ',' (fun p hp => (parts p hp).1) some_]
        exact ⟨fun p hp => (parts p hp).2, rfl⟩

/-! ## Reading a form -/

theorem count_eq_one_iff {before after : List Char} {sep : Char} :
    (before ++ sep :: after).count sep = 1 ↔ sep ∉ before ∧ sep ∉ after := by
  rw [List.count_append, List.count_cons_self, ← List.count_eq_zero, ← List.count_eq_zero]
  omega

/-- The list of a form reads as its types. -/
theorem types?_inside_of_valid {f : Form} (h : f.Valid) {inside : List Char}
    (written : f.inside? = some inside) : types? inside = f.types := by
  cases f with
  | bare cls name => cases written
  | emptyList cls name space =>
      cases written
      exact types?_eq_some_iff.2 (Or.inl ⟨h.list, rfl⟩)
  | typeList cls name pieces =>
      cases written
      exact types?_eq_some_iff.2 (Or.inr ⟨pieces, h.list.1, h.list.2, rfl, rfl⟩)

/-- **A form is read as the method it writes.** -/
theorem ofChars?_chars {f : Form} (h : f.Valid) (sign : f.chars.count '#' = 1) :
    ofChars? f.chars = some f.method := by
  obtain ⟨noSign, noSecond⟩ := count_eq_one_iff.1 sign
  refine ofChars?_eq_some_iff.2 ⟨f.cls, f.member, rfl, noSign, noSecond,
    filled?_eq_some_iff_not_blank.2 ⟨h.cls, rfl⟩, member?_eq_some_iff.2 ?_⟩
  have name : filled? f.name = some f.method.methodName :=
    filled?_eq_some_iff_not_blank.2 ⟨h.name, rfl⟩
  cases written : f.inside? with
  | none =>
      cases f with
      | bare cls name' => exact Or.inl ⟨h.name_plain, name, rfl⟩
      | emptyList cls name' space => cases written
      | typeList cls name' pieces => cases written
  | some inside =>
      obtain ⟨noOpen, noClose⟩ := h.inside_plain inside written
      have read := types?_inside_of_valid h written
      cases types : f.types with
      | none =>
          cases f with
          | bare cls name' => cases written
          | emptyList cls name' space => cases types
          | typeList cls name' pieces => cases types
      | some ts =>
          refine Or.inr ⟨f.name, inside ++ [')'], ts, ?_, h.name_plain, ?_, name, types⟩
          · rw [Form.member, written]
          · exact typeList?_eq_some_iff.2 ⟨inside, rfl, noClose, noOpen, read.trans types⟩

/-- **What is read has a form.** -/
theorem exists_form_of_ofChars? {cs : List Char} {m : MethodSelector} (h : ofChars? cs = some m) :
    ∃ f : Form, f.Valid ∧ cs.count '#' = 1 ∧ cs = f.chars ∧ f.method = m := by
  obtain ⟨className, methodName, parameterTypes⟩ := m
  obtain ⟨cls, member, rfl, noSign, noSecond, hc, hm⟩ := ofChars?_eq_some_iff.1 h
  obtain ⟨clsFilled, rfl⟩ := filled?_eq_some_iff_not_blank.1 hc
  have sign := count_eq_one_iff.2 ⟨noSign, noSecond⟩
  obtain ⟨noOpen, hn, rfl⟩ | ⟨name, list, types, rfl, noOpen, hl, hn, rfl⟩ :=
    member?_eq_some_iff.1 hm
  · obtain ⟨nameFilled, rfl⟩ := filled?_eq_some_iff_not_blank.1 hn
    refine ⟨.bare cls member, ⟨clsFilled, nameFilled, noOpen, ?_, trivial⟩, sign, rfl, rfl⟩
    intro inside written
    cases written
  · obtain ⟨nameFilled, rfl⟩ := filled?_eq_some_iff_not_blank.1 hn
    obtain ⟨inside, rfl, noClose, noOpenIn, ht⟩ := typeList?_eq_some_iff.1 hl
    obtain ⟨blank, rfl⟩ | ⟨pieces, some_, parts, rfl, rfl⟩ := types?_eq_some_iff.1 ht
    · refine ⟨.emptyList cls name inside, ⟨clsFilled, nameFilled, noOpen, ?_, blank⟩, sign, rfl,
        rfl⟩
      rintro _ ⟨⟩
      exact ⟨noOpenIn, noClose⟩
    · refine ⟨.typeList cls name pieces, ⟨clsFilled, nameFilled, noOpen, ?_, some_, parts⟩, sign,
        rfl, rfl⟩
      rintro _ ⟨⟩
      exact ⟨noOpenIn, noClose⟩

/-! ## One form only -/

namespace Form

/-- The parts around the first separator are those of any other cut at it. -/
theorem parts_eq_of_append_eq {sep : Char} {before before' after after' : List Char}
    (h : before ++ sep :: after = before' ++ sep :: after') (free : sep ∉ before)
    (free' : sep ∉ before') : before = before' ∧ after = after' := by
  have cut := cutAt_append sep before after free
  rw [h, cutAt_append sep before' after' free'] at cut
  cases cut
  exact ⟨rfl, rfl⟩

theorem mem_open_member_iff {f : Form} (h : f.Valid) : '(' ∈ f.member ↔ f.inside?.isSome := by
  unfold member
  cases written : f.inside? with
  | none => simpa using h.name_plain
  | some inside => simp

/-- The part after the number sign tells the name and the inside of the list. -/
theorem parts_eq_of_member_eq {f g : Form} (hf : f.Valid) (hg : g.Valid)
    (h : f.member = g.member) : f.name = g.name ∧ f.inside? = g.inside? := by
  have same : f.inside?.isSome = g.inside?.isSome := by
    rw [Bool.eq_iff_iff, ← mem_open_member_iff hf, ← mem_open_member_iff hg, h]
  unfold member at h
  cases inF : f.inside? with
  | none =>
      cases inG : g.inside? with
      | none =>
          rw [inF, inG] at h
          exact ⟨h, rfl⟩
      | some insideG => simp [inF, inG] at same
  | some insideF =>
      cases inG : g.inside? with
      | none => simp [inF, inG] at same
      | some insideG =>
          rw [inF, inG] at h
          obtain ⟨name, list⟩ := parts_eq_of_append_eq h hf.name_plain hg.name_plain
          exact ⟨name, congrArg some (List.append_cancel_right list)⟩

/-- The parts of a form determine it. -/
theorem eq_of_parts {f g : Form} (hf : f.ListValid) (hg : g.ListValid) (cls : f.cls = g.cls)
    (name : f.name = g.name) (inside : f.inside? = g.inside?) : f = g := by
  cases f with
  | bare c n =>
      cases g with
      | bare c' n' => exact congrArg₂ bare cls name
      | emptyList c' n' space' => cases inside
      | typeList c' n' pieces' => cases inside
  | emptyList c n space =>
      cases g with
      | bare c' n' => cases inside
      | emptyList c' n' space' =>
          obtain rfl : c = c' := cls
          obtain rfl : n = n' := name
          exact congrArg (emptyList c n) (Option.some.inj inside)
      | typeList c' n' pieces' =>
          obtain rfl : space = [','].intercalate pieces' := Option.some.inj inside
          exact absurd hf (not_blank_intercalate hg.1 fun p hp => (hg.2 p hp).2)
  | typeList c n pieces =>
      cases g with
      | bare c' n' => cases inside
      | emptyList c' n' space' =>
          obtain rfl : [','].intercalate pieces = space' := Option.some.inj inside
          exact absurd hg (not_blank_intercalate hf.1 fun p hp => (hf.2 p hp).2)
      | typeList c' n' pieces' =>
          obtain rfl : c = c' := cls
          obtain rfl : n = n' := name
          have joined : [','].intercalate pieces = [','].intercalate pieces' :=
            Option.some.inj inside
          refine congrArg (typeList c n) ?_
          calc pieces = ([','].intercalate pieces).splitOn ',' :=
                (List.splitOn_intercalate ',' (fun p hp => (hf.2 p hp).1) hf.1).symm
            _ = ([','].intercalate pieces').splitOn ',' := by rw [joined]
            _ = pieces' := List.splitOn_intercalate ',' (fun p hp => (hg.2 p hp).1) hg.1

/-- **A text has at most one form.** -/
theorem eq_of_writes {f g : Form} {t : String} (hf : f.Writes t) (hg : g.Writes t) : f = g := by
  have same : f.chars = g.chars := hf.text.symm.trans hg.text
  have signF := hf.sign
  have signG := hg.sign
  rw [hf.text] at signF
  rw [hg.text] at signG
  obtain ⟨cls, member⟩ :=
    parts_eq_of_append_eq same (count_eq_one_iff.1 signF).1 (count_eq_one_iff.1 signG).1
  obtain ⟨name, inside⟩ := parts_eq_of_member_eq hf.valid hg.valid member
  exact eq_of_parts hf.valid.list hg.valid.list cls name inside

end Form

/-! ## The grammar -/

theorem parse_eq_ok_iff_writes {t : String} {m : MethodSelector} :
    parse t = .ok m ↔ ∃ f : Form, f.Writes t ∧ f.method = m := by
  rw [parse_eq_ok_iff]
  constructor
  · intro h
    obtain ⟨f, valid, sign, text, method⟩ := exists_form_of_ofChars? h
    exact ⟨f, ⟨sign, text, valid⟩, method⟩
  · rintro ⟨f, writes, rfl⟩
    have sign := writes.sign
    rw [writes.text] at sign ⊢
    exact ofChars?_chars writes.valid sign

/-- **Reading accepts exactly the grammar.**  A text is read as the method of its form; it has one
form at most, and a text without one is refused as it stands. -/
theorem parse_accepts_grammar (t : String) :
    (∀ m : MethodSelector, parse t = .ok m ↔ ∃ f : Form, f.Writes t ∧ f.method = m) ∧
      (∀ f g : Form, f.Writes t → g.Writes t → f = g) ∧
      (parse t = .error (.malformedMethod t) ↔ ∀ f : Form, ¬ f.Writes t) := by
  refine ⟨fun m => parse_eq_ok_iff_writes, fun f g => Form.eq_of_writes, ?_⟩
  constructor
  · intro refused f writes
    rw [parse_eq_ok_iff_writes.2 ⟨f, writes, rfl⟩] at refused
    cases refused
  · intro formless
    cases read : parse t with
    | ok m =>
        obtain ⟨f, writes, -⟩ := parse_eq_ok_iff_writes.1 read
        exact absurd writes (formless f)
    | error e =>
        unfold parse at read
        split at read
        · cases read
        · exact read.symm

/-- Blanks around every part and closing parentheses in the names leave a text its one form. -/
theorem parse_accepts_grammar_spaced :
    ∃ f : Form, f.Writes " A) # m) ( int , b.C )" ∧ f.method = ⟨"A)", "m)", some ["int", "b.C"]⟩ ∧
      ∀ g : Form, g.Writes " A) # m) ( int , b.C )" → g = f := by
  have read : parse " A) # m) ( int , b.C )" = .ok ⟨"A)", "m)", some ["int", "b.C"]⟩ := by
    decide +kernel
  obtain ⟨f, writes, method⟩ := ((parse_accepts_grammar _).1 _).1 read
  exact ⟨f, writes, method, fun g other => (parse_accepts_grammar _).2.1 g f other writes⟩

end TestDiscovery.MethodSelector
