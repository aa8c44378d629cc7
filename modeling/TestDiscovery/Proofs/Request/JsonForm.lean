/-
# TestDiscovery.Proofs.Request.JsonForm -- a summary from its JSON form

`Summary.ofJson?` reads a summary from JSON.  Fields are found by name, so their order
does not matter.  It gives back every summary that has a JSON form
(`Summary.ofJson?_of_json?`): the kind of a selector is told by a word, the origin of a
class by another, and absent parameter types by the absence of their field.

A summary has a JSON form unless a path of its selectors is no text
(`Summary.json?_eq_none_iff`).  A path that is one is the path of that text, byte for
byte.
-/
import TestDiscovery.Proofs.Building.Additions
import TestDiscovery.Proofs.Text.Parts
import TestDiscovery.Request.Summary

namespace TestDiscovery

set_option autoImplicit false

open TestDiscovery.Text

/-! ## Lists that are written and read -/

/-- Writing a list fails just if it does at one of its elements. -/
theorem mapM_eq_none_iff {α β : Type} {write : α → Option β} {xs : List α} :
    xs.mapM write = none ↔ ∃ x ∈ xs, write x = none := by
  induction xs with
  | nil => simp
  | cons x xs ih =>
      rw [List.mapM_cons]
      cases hx : write x with
      | none => simp [hx]
      | some y =>
          have others : (∃ z ∈ x :: xs, write z = none) ↔ ∃ z ∈ xs, write z = none := by simp [hx]
          rw [others, ← ih]
          cases xs.mapM write <;> simp

/-- What is read back element by element is read back as a list. -/
theorem mapM_read_of_mapM_write {α β : Type} {write : α → Option β} {read : β → Option α}
    (back : ∀ x y, write x = some y → read y = some x) {xs : List α} {ys : List β}
    (h : xs.mapM write = some ys) : ys.mapM read = some xs := by
  rw [mapM_eq_some_iff] at h ⊢
  induction xs generalizing ys with
  | nil => simpa using h
  | cons x xs ih =>
      cases ys with
      | nil => simp at h
      | cons y ys =>
          obtain ⟨first, others⟩ := List.cons.inj h
          rw [List.map_cons, List.map_cons, back x y first, ih others]

/-! ## Parts of a value -/

namespace Json

/-- The text that this is. -/
def text? : Json → Option String
  | .text s => some s
  | _ => none

/-- The items of the array that this is. -/
def items? : Json → Option (List Json)
  | .array items => some items
  | _ => none

/-- The fields of the object that this is. -/
def fields? : Json → Option (List (String × Json))
  | .object fields => some fields
  | _ => none

/-- The texts of the array that this is. -/
def texts? (j : Json) : Option (List String) := do (← j.items?).mapM text?

/-- The value of a field, if there is one. -/
def field? (j : Json) (name : String) : Option Json := do (← j.fields?).lookup name

/-- The text of a field. -/
def textField? (j : Json) (name : String) : Option String := do (← j.field? name).text?

/-- The texts of a field. -/
def textsField? (j : Json) (name : String) : Option (List String) := do (← j.field? name).texts?

/-- The texts of a field that may be absent. -/
def optionalTexts? (j : Json) (name : String) : Option (Option (List String)) :=
  match j.field? name with
  | none => some none
  | some value => value.texts?.map some

theorem texts?_texts (ss : List String) : (texts ss).texts? = some ss :=
  mapM_eq_some_iff.2 (by simp [text?])

end Json

/-! ## Selectors -/

/-- The origin of a word. -/
def ClassOrigin.ofWord? (word : String) : Option ClassOrigin :=
  [type, name].find? fun o => o.word == word

/-- The kind of a word. -/
def SelectorKind.ofWord? (word : String) : Option SelectorKind :=
  [package, namedClass, method, path, uniqueId].find? fun k => k.word == word

theorem ClassOrigin.ofWord?_word (o : ClassOrigin) : ofWord? o.word = some o := by
  cases o <;> decide

theorem SelectorKind.ofWord?_word (k : SelectorKind) : ofWord? k.word = some k := by
  cases k <;> decide

namespace Selector

/-- The selector of a kind with the given fields. -/
def ofFields? (j : Json) : SelectorKind → Option Selector
  | .package => do return .package (← j.textField? "package_name")
  | .namedClass => do
    let origin ← ClassOrigin.ofWord? (← j.textField? "origin")
    return .namedClass ⟨← j.textField? "class_name", origin⟩
  | .method => do
    let parameterTypes ← j.optionalTexts? "parameter_types"
    return .method ⟨← j.textField? "class_name", ← j.textField? "method_name", parameterTypes⟩
  | .path => do return .path (.ofText (← j.textField? "path"))
  | .uniqueId => do return .uniqueId (← j.textField? "unique_id")

/-- The selector that a JSON value describes. -/
def ofJson? (j : Json) : Option Selector := do
  ofFields? j (← SelectorKind.ofWord? (← j.textField? "kind"))

end Selector

/-! ## Paths that are text -/

/-- The path is the path of a text. -/
def Path.IsText (p : Path) : Prop := ∃ s : String, p = .ofText s

theorem Path.ofText_of_text? {p : Path} {s : String} (h : p.text? = some s) : .ofText s = p := by
  obtain ⟨bytes⟩ := p
  simp only [text?, Utf8.decode?, String.fromUTF8?] at h
  split at h
  · cases h
    rfl
  · cases h

theorem Path.text?_ofText (s : String) : (ofText s).text? = some s := Utf8.decode?_encode s

theorem Path.isText_iff {p : Path} : p.IsText ↔ ∃ s, p.text? = some s := by
  constructor
  · rintro ⟨s, rfl⟩
    exact ⟨s, text?_ofText s⟩
  · rintro ⟨s, h⟩
    exact ⟨s, (ofText_of_text? h).symm⟩

namespace Selector

theorem json?_path_eq_none_iff {p : Path} : json? (.path p) = none ↔ ¬ p.IsText := by
  rw [Path.isText_iff]
  cases h : p.text? with
  | none => simp [json?, jsonFields?, h]
  | some s => simp [json?, jsonFields?, h]

/-- Only a path can stand in the way of a JSON form. -/
theorem json?_eq_none_iff {s : Selector} : s.json? = none ↔ ∃ p, s = .path p ∧ ¬ p.IsText := by
  cases s with
  | path p => simp [json?_path_eq_none_iff]
  | _ => simp [json?, jsonFields?]

/-- A selector is read back from its JSON form. -/
theorem ofJson?_of_json? {s : Selector} {j : Json} (h : s.json? = some j) : ofJson? j = some s := by
  obtain ⟨fields, given, rfl⟩ := Option.map_eq_some_iff.1 h
  have word : (Json.object (("kind", .text s.kind.word) :: fields)).textField? "kind" =
      some s.kind.word := rfl
  simp only [ofJson?, word, Option.bind_eq_bind, Option.bind_some, SelectorKind.ofWord?_word]
  cases s with
  | package name =>
      cases given
      rfl
  | namedClass c =>
      cases given
      have origin := c.origin.ofWord?_word
      simp [kind, ofFields?, Json.textField?, Json.field?, Json.fields?, Json.text?,
        List.lookup_cons, origin]
  | method m =>
      obtain ⟨className, methodName, parameterTypes⟩ := m
      cases given
      cases parameterTypes with
      | none => rfl
      | some types =>
          simp [kind, ofFields?, Json.textField?, Json.optionalTexts?, Json.field?, Json.fields?,
            Json.text?, List.lookup_cons, Json.texts?_texts]
  | path p =>
      obtain ⟨text, read, rfl⟩ := Option.map_eq_some_iff.1 given
      have same := Path.ofText_of_text? read
      simp [kind, ofFields?, Json.textField?, Json.field?, Json.fields?, Json.text?,
        List.lookup_cons, same]
  | uniqueId id =>
      cases given
      rfl

end Selector

/-! ## Parameters -/

/-- The parameters of an object of texts, whose keys are not blank. -/
def Parameters.ofJson? (j : Json) : Option Parameters := do
  let pairs ← (← j.fields?).mapM fun field => field.2.text?.map (Prod.mk field.1)
  if ∀ pair ∈ pairs, isBlank pair.1 = false then return Parameters.empty.writeAll pairs else none

theorem Parameters.ofJson?_json (ps : Parameters) : ofJson? ps.json = some ps := by
  have read : (ps.toList.map fun entry => (entry.1, Json.text entry.2)).mapM
      (fun field => field.2.text?.map (Prod.mk field.1)) = some ps.toList :=
    mapM_eq_some_iff.2 (by simp [Json.text?])
  have filled : ∀ pair ∈ ps.toList, isBlank pair.1 = false := fun pair hp =>
    ps.filled pair.1 (List.mem_map_of_mem hp)
  have same : Parameters.empty.writeAll ps.toList = ps := by
    refine ext_get? fun key => ?_
    rw [get?_writeAll _ filled, get?_empty, Option.or_none]
    exact ps.entries.lastWrite_toList key
  simp only [ofJson?, json, Json.fields?, Option.bind_eq_bind, Option.bind_some, read, same,
    if_pos filled]
  rfl

/-! ## Summaries -/

namespace Summary

/-- The summary that a JSON value describes. -/
def ofJson? (j : Json) : Option Summary := do
  let selectors ← (← (← j.field? "selectors").items?).mapM Selector.ofJson?
  let engineIds ← j.textsField? "engine_ids"
  let discoveryFilters ← j.textsField? "discovery_filters"
  let postDiscoveryFilters ← j.textsField? "post_discovery_filters"
  let parameters ← Parameters.ofJson? (← j.field? "configuration_parameters")
  return { selectors, engineIds, discoveryFilters, postDiscoveryFilters, parameters }

/-- A summary has no JSON form just if it selects a path that is no text. -/
theorem json?_eq_none_iff {s : Summary} :
    s.json? = none ↔ ∃ p, Selector.path p ∈ s.selectors ∧ ¬ p.IsText := by
  have form : s.json? = none ↔ s.selectors.mapM Selector.json? = none := by
    cases h : s.selectors.mapM Selector.json? with
    | none => simp [json?, h]
    | some js => simp [json?, h]
  rw [form, mapM_eq_none_iff]
  constructor
  · rintro ⟨x, hx, refused⟩
    obtain ⟨p, rfl, bytes⟩ := Selector.json?_eq_none_iff.1 refused
    exact ⟨p, hx, bytes⟩
  · rintro ⟨p, hp, bytes⟩
    exact ⟨.path p, hp, Selector.json?_path_eq_none_iff.2 bytes⟩

/-- **A summary is read back from its JSON form.** -/
theorem ofJson?_of_json? {s : Summary} {j : Json} (h : s.json? = some j) : ofJson? j = some s := by
  obtain ⟨selectors, engineIds, discoveryFilters, postDiscoveryFilters, parameters⟩ := s
  obtain ⟨js, forms, written⟩ := Option.bind_eq_some_iff.1 h
  cases written
  have read : js.mapM Selector.ofJson? = some selectors :=
    mapM_read_of_mapM_write (fun _ _ => Selector.ofJson?_of_json?) forms
  simp [ofJson?, Json.field?, Json.fields?, Json.items?, Json.textsField?, List.lookup_cons, read,
    Json.texts?_texts, Parameters.ofJson?_json]

end Summary

end TestDiscovery
