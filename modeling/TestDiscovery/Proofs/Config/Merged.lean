/-
# TestDiscovery.Proofs.Config.Merged -- parameters that are merged into a document

Merging entries into the parameters of a document writes them over what it gives under
the same keys and leaves all else alone (`Config.MergedParameters`).  Neither the order of
the keys nor that of the parameters matters.

The merged document is read whenever the document is, and what is read differs in just
the parameters (`Config.exists_merged_of_readFrom`).  A date-time in place of the table of
parameters counts as the one parameter that it is read as.
-/
import TestDiscovery.Proofs.Config.Accepted

namespace TestDiscovery

set_option autoImplicit false

namespace Config

/-! ## The parameters of a document -/

/-- The document gives the parameter: in its table of parameters, or by the date-time that stands
in for one. -/
inductive GivesParameter (t : Toml.Table) : String → String → Prop where
  | entry {pairs : List (String × String)} {key value : String}
    (table : ("parameters", textTable pairs) ∈ t) (mem : (key, value) ∈ pairs) :
    GivesParameter t key value
  | dated {time : Toml.DateTime} (given : ("parameters", .dateTime time) ∈ t) :
    GivesParameter t dateTimeKey time.text

variable {t u : Toml.Table} {c : Config}

/-- A document with a table of parameters gives the entries of the table. -/
theorem givesParameter_iff_mem (unique : (t.map Prod.fst).Nodup) {pairs : List (String × String)}
    (table : ("parameters", textTable pairs) ∈ t) {key value : String} :
    GivesParameter t key value ↔ (key, value) ∈ pairs := by
  have here := (lookup_eq_some_iff_mem unique).2 table
  constructor
  · intro gives
    cases gives with
    | entry other mem =>
        have same := here.symm.trans ((lookup_eq_some_iff_mem unique).2 other)
        rwa [eq_of_textTable_eq (Option.some.inj same)]
    | dated given =>
        cases here.symm.trans ((lookup_eq_some_iff_mem unique).2 given)
  · exact .entry table

/-- What is read of a document has the parameters that the document gives. -/
theorem get?_parameters_eq_some_iff (distinct : (Toml.Value.table t).Distinct)
    (h : ReadFrom t c) {key value : String} :
    c.parameters.get? key = some value ↔ GivesParameter t key value := by
  have keeps := keeps_of_readFrom distinct h
  constructor
  · intro found
    rcases field?_eq_some_iff.1 h.parameters with ⟨-, empty⟩ | ⟨v, here, read⟩
    · rw [empty] at found
      cases found
    · rcases textTable?_eq_some_iff.1 read with ⟨pairs, rfl, -⟩ | ⟨time, rfl, -⟩
      · have table := mem_of_lookup here
        exact .entry table ((keeps.parameters.1 pairs table key value).1 found)
      · have given := mem_of_lookup here
        have entry : (key, value) ∈ c.parameters.toList := mem_of_lookup found
        rw [keeps.dated time given, List.mem_singleton] at entry
        cases entry
        exact .dated given
  · intro gives
    cases gives with
    | entry table mem => exact (keeps.parameters.1 _ table key value).2 mem
    | @dated time given =>
        show c.parameters.toList.lookup dateTimeKey = some time.text
        rw [keeps.dated time given, Dictionary.lookup_cons_eq_ite, if_pos rfl]

/-! ## Merging -/

/-- The second document is the first with the entries of `m` merged into its parameters. -/
structure MergedParameters (m : Dictionary) (t u : Toml.Table) : Prop where
  others : ∀ e, e.1 ≠ "parameters" → (e ∈ u ↔ e ∈ t)
  parameters : ∃ pairs, ("parameters", textTable pairs) ∈ u ∧
    ∀ key value, (key, value) ∈ pairs ↔
      m.get? key = some value ∨ m.get? key = none ∧ GivesParameter t key value

/-- The second configuration is the first with the entries of `m` merged into its parameters. -/
structure Merged (m : Dictionary) (c d : Config) : Prop where
  engines : d.engines = c.engines
  includeTags : d.includeTags = c.includeTags
  excludeTags : d.excludeTags = c.excludeTags
  parameters : ∀ key, d.parameters.get? key = (m.get? key).or (c.parameters.get? key)

theorem field?_congr {α : Type} {key : String} (h : u.lookup key = t.lookup key) (absent : α)
    (read : Toml.Value → Option α) : field? u key absent read = field? t key absent read := by
  rw [field?, field?, h]

/-- **A merged document is read with merged parameters.** -/
theorem exists_merged_of_readFrom {m : Dictionary} (distinct : (Toml.Value.table t).Distinct)
    (distinctToo : (Toml.Value.table u).Distinct) (merged : MergedParameters m t u)
    (h : ReadFrom t c) : ∃ d, ReadFrom u d ∧ Merged m c d := by
  obtain ⟨unique, -⟩ := Toml.Value.distinct_table_iff.1 distinct
  obtain ⟨uniqueToo, each⟩ := Toml.Value.distinct_table_iff.1 distinctToo
  obtain ⟨pairs, table, entries⟩ := merged.parameters
  have same : ∀ key, key ≠ "parameters" → u.lookup key = t.lookup key := by
    intro key ne
    refine Option.ext fun v => ?_
    rw [lookup_eq_some_iff_mem uniqueToo, lookup_eq_some_iff_mem unique]
    exact merged.others (key, v) ne
  have read : field? u "parameters" .empty textTable? = some (.ofList pairs) :=
    field?_eq_some_iff.2 (.inr ⟨_, (lookup_eq_some_iff_mem uniqueToo).2 table,
      textTable?_eq_some_iff.2 (.inl ⟨pairs, rfl, rfl⟩)⟩)
  refine ⟨⟨c.engines, c.includeTags, c.excludeTags, .ofList pairs,
    ((unknownEntries u).map Prod.fst).mergeSort fun a b => a ≤ b⟩, ?_, rfl, rfl, rfl, fun key => ?_⟩
  · refine ⟨?_, ?_, ?_, read, fun e he => ?_, rfl⟩
    · rw [field?_congr (same "engines" (by decide)), h.engines]
    · rw [field?_congr (same "include-tags" (by decide)), h.includeTags]
    · rw [field?_congr (same "exclude-tags" (by decide)), h.excludeTags]
    · obtain ⟨mem, unknown⟩ := mem_unknownEntries_iff.1 he
      have ne : e.1 ≠ "parameters" := fun known => unknown (known ▸ by decide)
      exact h.acceptable e (mem_unknownEntries_iff.2 ⟨(merged.others e ne).1 mem, unknown⟩)
  · refine Option.ext fun value => ?_
    rw [Dictionary.get?_ofList_eq_some_iff (nodup_of_distinct_textTable (each _ table)), entries,
      Option.or_eq_some_iff, get?_parameters_eq_some_iff distinct h]

end Config

end TestDiscovery
