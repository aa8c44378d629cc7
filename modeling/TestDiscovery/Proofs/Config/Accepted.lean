/-
# TestDiscovery.Proofs.Config.Accepted -- which configuration files are taken

A document that has only keys with a meaning is taken when its lists are arrays of
texts and its parameters are a table of texts, and is refused otherwise, with one
exception: a date-time stands in for a table of parameters, and is taken for the table of
its written form.

What is taken is kept as it is written (`Config.Keeps`).  That the parameters are just
the entries of their table rests on its keys being distinct.
-/
import TestDiscovery.Proofs.Config.Fields
import Mathlib.Data.List.Basic

namespace TestDiscovery

set_option autoImplicit false

open TestDiscovery.Text Building

namespace Config

/-- The keys of the three lists. -/
def listKeys : List String := ["engines", "include-tags", "exclude-tags"]

/-- Every list of the document is an array of texts. -/
def HasTextLists (t : Toml.Table) : Prop :=
  ∀ key ∈ listKeys, ∀ v, (key, v) ∈ t → ∃ ss, v = textArray ss

/-- The parameters of the document, if it has any, are a table of texts. -/
def HasTextParameters (t : Toml.Table) : Prop :=
  ∀ v, ("parameters", v) ∈ t → ∃ pairs, v = textTable pairs

/-- The parameters of the document are a date-time. -/
def HasDatedParameters (t : Toml.Table) : Prop := ∃ time, ("parameters", .dateTime time) ∈ t

/-- The list is that under the key, or empty without the key. -/
def KeepsList (t : Toml.Table) (key : String) (ss : List String) : Prop :=
  (key, textArray ss) ∈ t ∨ (∀ v, (key, v) ∉ t) ∧ ss = []

/-- The configuration keeps what the document has under the keys with a meaning. -/
structure Keeps (t : Toml.Table) (c : Config) : Prop where
  engines : KeepsList t "engines" c.engines
  includeTags : KeepsList t "include-tags" c.includeTags
  excludeTags : KeepsList t "exclude-tags" c.excludeTags
  /-- The parameters are the entries of the table, or none without the key. -/
  parameters : (∀ pairs, ("parameters", textTable pairs) ∈ t →
      ∀ key value, c.parameters.get? key = some value ↔ (key, value) ∈ pairs) ∧
    ((∀ v, ("parameters", v) ∉ t) → c.parameters = .empty)
  dated : ∀ time, ("parameters", .dateTime time) ∈ t →
    c.parameters.toList = [(dateTimeKey, time.text)]

variable {t : Toml.Table}

/-! ## Lists -/

theorem exists_field?_texts?_iff (unique : (t.map Prod.fst).Nodup) (key : String) :
    (∃ ss, field? t key [] texts? = some ss) ↔ ∀ v, (key, v) ∈ t → ∃ ss, v = textArray ss := by
  simp only [field?_eq_some_iff, texts?_eq_some_iff, ← lookup_eq_some_iff_mem unique]
  cases t.lookup key with
  | none => simp
  | some v => simp

theorem keepsList_of_field? (unique : (t.map Prod.fst).Nodup) {key : String} {ss : List String}
    (h : field? t key [] texts? = some ss) : KeepsList t key ss := by
  simp only [KeepsList, ← lookup_eq_some_iff_mem unique]
  rcases field?_eq_some_iff.1 h with ⟨absent, rfl⟩ | ⟨v, found, read⟩
  · exact .inr ⟨by simp [absent], rfl⟩
  · exact .inl (by rw [found, texts?_eq_some_iff.1 read])

/-! ## Parameters -/

theorem exists_textTable?_iff {v : Toml.Value} : (∃ d, textTable? v = some d) ↔
    (∃ pairs, v = textTable pairs) ∨ ∃ time, v = .dateTime time := by
  simp only [textTable?_eq_some_iff]
  constructor
  · rintro ⟨d, ⟨pairs, shape, -⟩ | ⟨time, shape, -⟩⟩
    · exact .inl ⟨pairs, shape⟩
    · exact .inr ⟨time, shape⟩
  · rintro (⟨pairs, shape⟩ | ⟨time, shape⟩)
    · exact ⟨_, .inl ⟨pairs, shape, rfl⟩⟩
    · exact ⟨_, .inr ⟨time, shape, rfl⟩⟩

theorem exists_field?_textTable?_iff (unique : (t.map Prod.fst).Nodup) :
    (∃ d, field? t "parameters" .empty textTable? = some d) ↔
      HasTextParameters t ∨ HasDatedParameters t := by
  simp only [HasTextParameters, HasDatedParameters, field?_eq_some_iff,
    ← lookup_eq_some_iff_mem unique]
  cases t.lookup "parameters" with
  | none => simp
  | some v => simpa using exists_textTable?_iff

theorem eq_of_textTable_eq {pairs others : List (String × String)}
    (h : textTable pairs = textTable others) : pairs = others := by
  have written : Function.Injective fun pair : String × String =>
      (pair.1, Toml.Value.string pair.2) := by
    rintro ⟨k, s⟩ ⟨k', s'⟩ same
    simpa using same
  exact List.map_injective_iff.2 written (Toml.Value.table.inj h)

theorem nodup_of_distinct_textTable {pairs : List (String × String)}
    (h : (textTable pairs).Distinct) : (pairs.map Prod.fst).Nodup := by
  obtain ⟨keys, -⟩ := Toml.Value.distinct_table_iff.1 h
  simpa [List.map_map, Function.comp_def] using keys

/-! ## Documents with known keys -/

theorem exists_readFrom_iff (unique : (t.map Prod.fst).Nodup)
    (known : ∀ e ∈ t, e.1 ∈ knownKeys) :
    (∃ c, ReadFrom t c) ↔ HasTextLists t ∧ (HasTextParameters t ∨ HasDatedParameters t) := by
  have lists : HasTextLists t ↔ (∃ ss, field? t "engines" [] texts? = some ss) ∧
      (∃ ss, field? t "include-tags" [] texts? = some ss) ∧
      ∃ ss, field? t "exclude-tags" [] texts? = some ss := by
    simp [exists_field?_texts?_iff unique, HasTextLists, listKeys]
  rw [lists, ← exists_field?_textTable?_iff unique]
  constructor
  · rintro ⟨c, read⟩
    exact ⟨⟨⟨_, read.engines⟩, ⟨_, read.includeTags⟩, _, read.excludeTags⟩, _, read.parameters⟩
  · rintro ⟨⟨⟨engines, he⟩, ⟨includeTags, hi⟩, excludeTags, hx⟩, parameters, hp⟩
    refine ⟨⟨engines, includeTags, excludeTags, parameters, []⟩, he, hi, hx, hp, ?_, ?_⟩
    · simp [unknownEntries_eq_nil known]
    · simp [unknownEntries_eq_nil known]

theorem keeps_of_readFrom (distinct : (Toml.Value.table t).Distinct) {c : Config}
    (h : ReadFrom t c) : Keeps t c := by
  obtain ⟨unique, each⟩ := Toml.Value.distinct_table_iff.1 distinct
  have parameters := field?_eq_some_iff.1 h.parameters
  refine ⟨keepsList_of_field? unique h.engines, keepsList_of_field? unique h.includeTags,
    keepsList_of_field? unique h.excludeTags, ⟨fun pairs given => ?_, fun absent => ?_⟩,
    fun time given => ?_⟩
  · have found := (lookup_eq_some_iff_mem unique).2 given
    have keys := nodup_of_distinct_textTable (each _ given)
    rcases parameters with ⟨absent, -⟩ | ⟨v, here, read⟩
    · rw [found] at absent
      cases absent
    · rw [found] at here
      cases here
      rcases textTable?_eq_some_iff.1 read with ⟨others, same, taken⟩ | ⟨time, same, -⟩
      · obtain rfl := eq_of_textTable_eq same
        rw [taken]
        exact fun key value => Dictionary.get?_ofList_eq_some_iff keys
      · cases same
  · rcases parameters with ⟨-, empty⟩ | ⟨v, here, -⟩
    · exact empty
    · exact absurd (mem_of_lookup here) (absent v)
  · have found := (lookup_eq_some_iff_mem unique).2 given
    rcases parameters with ⟨absent, -⟩ | ⟨v, here, read⟩
    · rw [found] at absent
      cases absent
    · rw [found] at here
      cases here
      rcases textTable?_eq_some_iff.1 read with ⟨others, same, -⟩ | ⟨_, same, taken⟩
      · cases same
      · cases same
        rw [taken]
        rfl

/-! ## Texts -/

/-- **A document with known keys is taken when it is made of texts, or else refused.**  A date-time
counts as a table of parameters.  What is taken is kept as written, nothing is recorded, and a
text that is no document is refused. -/
theorem taken_or_refused (text : String) (origin : Path) (b : Builder) :
    (Toml.parse? text = none → (parse text origin).run b = (.error (.unparsable origin), b)) ∧
    ∀ t, Toml.parse? text = some t → (∀ e ∈ t, e.1 ∈ knownKeys) →
      (HasTextLists t ∧ (HasTextParameters t ∨ HasDatedParameters t) →
        ∃ c, (parse text origin).run b = (.ok c, b) ∧ Keeps t c) ∧
      (¬ (HasTextLists t ∧ (HasTextParameters t ∨ HasDatedParameters t)) →
        (parse text origin).run b = (.error (.unparsable origin), b)) := by
  refine ⟨fun noDocument => run_parse_of_none ?_ origin b, fun t document known => ?_⟩
  · rw [ofText?, noDocument]
    rfl
  have unique := Toml.nodup_keys_of_parse? document
  rw [← exists_readFrom_iff unique known]
  refine ⟨?_, fun refused => run_parse_of_not_exists document refused origin b⟩
  rintro ⟨c, read⟩
  have silent : c.unknownRecords origin = [] := by
    simp [unknownRecords, read.unknownKeys, unknownEntries_eq_nil known]
  refine ⟨c, (run_parse_eq_ok_iff document).2 ⟨read, ?_⟩,
    keeps_of_readFrom (Toml.distinct_of_parse? document) read⟩
  rw [silent, List.append_nil]

/-- A document with a list and a date-time for its parameters. -/
theorem taken_or_refused_dated_parameters :
    let text := "engines = ['a']\nparameters = 1979-05-27\n"
    ∃ c, (parse text (.ofText fileName)).run .empty = (.ok c, .empty) ∧ c.engines = ["a"] ∧
      c.parameters.toList = [(dateTimeKey, "1979-05-27")] := by
  intro text
  let time : Toml.DateTime := ⟨some ⟨1979, 5, 27⟩, none, none⟩
  have written : time.text = "1979-05-27" := by decide +kernel +revert
  let t : Toml.Table := [("engines", textArray ["a"]), ("parameters", .dateTime time)]
  have document : Toml.parse? text = some t := by decide +kernel +revert
  have lists : HasTextLists t := by
    intro key hk v hv
    simp only [t, List.mem_cons, Prod.mk.injEq, List.not_mem_nil, or_false] at hv
    rcases hv with ⟨-, rfl⟩ | ⟨rfl, -⟩
    · exact ⟨["a"], rfl⟩
    · simp [listKeys] at hk
  have dated : HasDatedParameters t := ⟨time, by simp [t]⟩
  obtain ⟨-, documents⟩ := taken_or_refused text (.ofText fileName) .empty
  obtain ⟨taken, -⟩ := documents t document (by simp [t, knownKeys])
  obtain ⟨c, run, keeps⟩ := taken ⟨lists, .inr dated⟩
  have parameters := keeps.dated time (by simp [t])
  rw [written] at parameters
  refine ⟨c, run, ?_, parameters⟩
  rcases keeps.engines with given | ⟨absent, -⟩
  · simpa [t, textArray, List.map_eq_cons_iff] using given
  · exact absurd List.mem_cons_self (absent (textArray ["a"]))

/-- Parameters need not be a table of texts for a document to be taken: a date-time will do. -/
theorem takes_dated_parameters :
    ¬ ∀ (text : String) (t : Toml.Table), Toml.parse? text = some t → (∀ e ∈ t, e.1 ∈ knownKeys) →
      ∀ (origin : Path) (b : Builder),
        (∃ c after, (parse text origin).run b = (.ok c, after)) ↔
          HasTextLists t ∧ HasTextParameters t := by
  intro claim
  have document : Toml.parse? "parameters = 1979-05-27\n" =
      some [("parameters", .dateTime ⟨some ⟨1979, 5, 27⟩, none, none⟩)] := by decide +kernel
  have taken : (ofText? "parameters = 1979-05-27\n").isSome = true := by
    rw [ofText?, document]
    rfl
  obtain ⟨c, read⟩ := Option.isSome_iff_exists.1 taken
  obtain ⟨-, parameters⟩ := (claim _ _ document (by simp [knownKeys]) (.ofText fileName) .empty).1
    ⟨c, _, run_parse_of_some read (.ofText fileName) .empty⟩
  obtain ⟨pairs, shape⟩ := parameters _ List.mem_cons_self
  cases shape

end Config

end TestDiscovery
