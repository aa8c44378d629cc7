/-
# TestDiscovery.Proofs.Launch.Displayed -- selectors from their display

A display starts with the word of the kind and a colon.  No word contains a colon, so
the first colon ends the word, whatever the label contains (`Selector.cutAt_display`):
displays of different kinds never coincide.

A label alone tells less than the selector.  It leaves out how a class was named, and
a method or a path that no command line can give may be shown like one that it can.
`Selector.ofDisplay?` takes each label the way a command line does, so it gives back
just what a command line gives (`Selector.Given`, `Selector.ofDisplay?_display`).
-/
import TestDiscovery.Proofs.Launch.Influence
import TestDiscovery.Proofs.Request.Faithful
import TestDiscovery.Proofs.Request.JsonForm
import TestDiscovery.Proofs.Selector.MethodText

namespace TestDiscovery

set_option autoImplicit false

open TestDiscovery.Text

/-! ## The kind and the label of a display -/

theorem SelectorKind.colon_not_mem_word (k : SelectorKind) : ':' ∉ k.word.toList := by
  cases k <;> decide

theorem SelectorKind.eq_of_word_eq {j k : SelectorKind} (h : j.word = k.word) : j = k := by
  have read := ofWord?_word j
  rw [h, ofWord?_word] at read
  exact (Option.some.inj read).symm

namespace Selector

theorem toList_display (s : Selector) :
    s.display.toList = s.kind.word.toList ++ ':' :: s.label.toList := by
  simp [display]

/-- The first colon of a display stands behind the kind. -/
theorem cutAt_display (s : Selector) :
    cutAt ':' s.display.toList = some (s.kind.word.toList, s.label.toList) := by
  rw [toList_display]
  exact cutAt_append ':' s.kind.word.toList s.label.toList s.kind.colon_not_mem_word

/-- No display of one kind is a display of another, whatever the selectors name. -/
theorem kind_eq_of_display_eq {s t : Selector} (h : s.display = t.display) : s.kind = t.kind := by
  have cut := s.cutAt_display
  rw [h, t.cutAt_display] at cut
  obtain ⟨word, -⟩ := Prod.mk.inj (Option.some.inj cut)
  exact (SelectorKind.eq_of_word_eq (String.toList_inj.1 word)).symm

/-! ## Reading a display -/

/-- The selector of a kind that a command line gives for a text. -/
def ofLabel? (label : String) : SelectorKind → Option Selector
  | .package => some (.package label)
  | .namedClass => some (.className label)
  | .method => (MethodSelector.parse label).toOption.map .method
  | .path => some (.path (.ofText label))
  | .uniqueId => some (.uniqueId label)

/-- The selector that a display shows. -/
def ofDisplay? (shown : String) : Option Selector := do
  let (word, label) ← cutAt ':' shown.toList
  ofLabel? (String.ofList label) (← SelectorKind.ofWord? (String.ofList word))

/-- The selectors that a command line gives, if its paths are text. -/
inductive Given : Selector → Prop
  | package (name : String) : Given (.package name)
  | className (name : String) : Given (.className name)
  | method {text : String} {m : MethodSelector} (read : MethodSelector.parse text = .ok m) :
      Given (.method m)
  | path {p : Path} (text : p.IsText) : Given (.path p)
  | uniqueId (id : String) : Given (.uniqueId id)

theorem ofLabel?_label {s : Selector} (h : s.Given) : ofLabel? s.label s.kind = some s := by
  cases h with
  | package name => rfl
  | className name => rfl
  | method read =>
      have back := MethodSelector.parse_text (MethodSelector.wellFormed_of_parse read)
      simp only [label, kind, ofLabel?, back]
      rfl
  | path text =>
      obtain ⟨shown, rfl⟩ := text
      have bytes : (Path.ofText shown).display = shown :=
        Utf8.lossy_of_decode? (Utf8.decode?_encode shown)
      simp only [label, kind, ofLabel?, bytes]
  | uniqueId id => rfl

/-- A selector that a command line gives is read back from its display. -/
theorem ofDisplay?_display {s : Selector} (h : s.Given) : ofDisplay? s.display = some s := by
  have word : SelectorKind.ofWord? s.kind.word = some s.kind := SelectorKind.ofWord?_word s.kind
  simp only [ofDisplay?, cutAt_display, String.ofList_toList, word, Option.bind_eq_bind,
    Option.bind_some, ofLabel?_label h]

theorem eq_of_display_eq {s t : Selector} (hs : s.Given) (ht : t.Given)
    (h : s.display = t.display) : s = t := by
  have read := ofDisplay?_display hs
  rw [h, ofDisplay?_display ht] at read
  exact (Option.some.inj read).symm

end Selector

namespace Launch

theorem given_of_assembled {c : Config} {a : Arguments} {r : Request} (h : Assembled c a r)
    (texts : ∀ p ∈ a.paths, p.IsText) : ∀ s ∈ r.selectors, s.Given := by
  obtain ⟨methods, read, made⟩ := h.selectors
  intro s hs
  simp only [made, List.mem_append, List.mem_map] at hs
  obtain (((⟨name, -, rfl⟩ | ⟨name, -, rfl⟩) | ⟨m, hm, rfl⟩) | ⟨p, hp, rfl⟩) | ⟨id, -, rfl⟩ := hs
  · exact .package name
  · exact .className name
  · have known : Except.ok m ∈ a.methods.map MethodSelector.parse := by
      rw [read]
      exact List.mem_map_of_mem hm
    obtain ⟨text, -, accepted⟩ := List.mem_map.1 known
    exact .method accepted
  · exact .path (texts p hp)
  · exact .uniqueId id

theorem given_of_outcome {files : FileSystem} {a : Arguments} {root : Path} {r : Request}
    (h : outcome files a root = .ok r) (texts : ∀ p ∈ a.paths, p.IsText) :
    ∀ s ∈ r.selectors, s.Given := by
  obtain ⟨c, -, config, arguments, rfl⟩ := outcome_eq_ok_iff.1 h
  exact given_of_assembled (assembled_additions config arguments) texts

/-- **Displays identify the selectors of a command line.**  Requests of two launches that show the
same selectors have the same, if the paths of both command lines are text.  Kinds never share a
display, and methods that were read share none. -/
theorem displays_identify_selectors :
    (∀ (files others : FileSystem) (a b : Arguments) (root other : Path) (r s : Request),
      outcome files a root = .ok r → outcome others b other = .ok s →
      (∀ p ∈ a.paths, p.IsText) → (∀ p ∈ b.paths, p.IsText) →
      r.selectors.map Selector.display = s.selectors.map Selector.display →
        r.selectors = s.selectors) ∧
    (∀ s t : Selector, s.display = t.display → s.kind = t.kind) ∧
    (∀ (t u : String) (m n : MethodSelector), MethodSelector.parse t = .ok m →
      MethodSelector.parse u = .ok n → m.text = n.text → m = n) := by
  refine ⟨fun files others a b root other r s hr hs textsA textsB same => ?_,
    fun s t => Selector.kind_eq_of_display_eq, fun t u m n readM readN same => ?_⟩
  · have givenR := given_of_outcome hr textsA
    have givenS := given_of_outcome hs textsB
    exact eq_of_map_eq (fun x hx y hy => Selector.eq_of_display_eq (givenR x hx) (givenS y hy)) same
  · have shown : (Selector.method m).display = (Selector.method n).display :=
      congrArg ("method:" ++ ·) same
    exact Selector.method.inj (Selector.eq_of_display_eq (.method readM) (.method readN) shown)

/-- Two spellings of a method, a package that looks like a class and a class that a type names. -/
theorem displays_identify_selectors_respelled :
    let project : FileSystem := fun path =>
      if path == Path.ofText "rlaunch.toml" then .contents (Utf8.encode "engines = ['e']\n")
      else .missing
    let a : Arguments :=
      { packages := ["class:A"], classes := ["A"], methods := [" C # m ( int,B )"]
        paths := [Path.ofText "a//b#"], uniqueIds := ["", "path:p"] }
    let b : Arguments := { a with methods := ["C#m(int, B)"] }
    (∃ r s, outcome project a ⟨[]⟩ = .ok r ∧ outcome (fun _ => .missing) b ⟨[]⟩ = .ok s ∧
      (∀ p ∈ a.paths, p.IsText) ∧ (∀ p ∈ b.paths, p.IsText) ∧
      r.selectors.map Selector.display = s.selectors.map Selector.display ∧
      r.selectors = s.selectors) ∧
    (Selector.namedClass ⟨"A", .type⟩).kind = (Selector.className "A").kind ∧
    ∃ m n, MethodSelector.parse " C # m ( int,B )" = .ok m ∧
      MethodSelector.parse "C#m(int, B)" = .ok n ∧ m.text = n.text ∧ m = n := by
  intro project a b
  have shownA : (outcome project a ⟨[]⟩).toOption.map (·.selectors.map Selector.display) =
      some ["package:class:A", "class:A", "method:C#m(int, B)", "path:a//b#", "unique-id:",
        "unique-id:path:p"] := by decide +kernel
  have shownB : (outcome (fun _ => .missing) b ⟨[]⟩).toOption.map
      (·.selectors.map Selector.display) =
      some ["package:class:A", "class:A", "method:C#m(int, B)", "path:a//b#", "unique-id:",
        "unique-id:path:p"] := by decide +kernel
  have texts : ∀ p ∈ [Path.ofText "a//b#"], p.IsText := List.forall_mem_singleton.2 ⟨_, rfl⟩
  have spaced : MethodSelector.parse " C # m ( int,B )" = .ok ⟨"C", "m", some ["int", "B"]⟩ := by
    decide +kernel
  have tight : MethodSelector.parse "C#m(int, B)" = .ok ⟨"C", "m", some ["int", "B"]⟩ := by
    decide +kernel
  obtain ⟨r, madeR, displaysR⟩ := Option.map_eq_some_iff.1 shownA
  obtain ⟨s, madeS, displaysS⟩ := Option.map_eq_some_iff.1 shownB
  have hr := eq_ok_of_toOption madeR
  have hs := eq_ok_of_toOption madeS
  have same := displaysR.trans displaysS.symm
  refine ⟨⟨r, s, hr, hs, texts, texts, same, ?_⟩, ?_, _, _, spaced, tight, Eq.refl _, ?_⟩
  · exact displays_identify_selectors.1 project (fun _ => .missing) a b ⟨[]⟩ ⟨[]⟩ r s hr hs texts
      texts same
  · exact displays_identify_selectors.2.1 _ _ (Eq.refl "class:A")
  · exact displays_identify_selectors.2.2 _ _ _ _ spaced tight (Eq.refl _)

-- Paths that are no text may share a display.
example : (Selector.path ⟨[0xFE]⟩).display = (Selector.path ⟨[0xFF]⟩).display := by decide +kernel

end Launch

end TestDiscovery
