/-
# TestDiscovery.Proofs.Config.Unknown -- keys without a meaning

A document with unknown keys is read as the document without them is, and the unknown
keys are recorded.  Nearly any value may stand under an unknown key.  The exception is a
table that starts with the key of date-times but is no date-time (`Config.Misread`), at
any depth: such a document is refused.

The fields are found by their keys, so they do not see what stands under other keys.  The
values under those are only walked through (`Config.isAcceptable_iff`).
-/
import TestDiscovery.Proofs.Config.Fields
import TestDiscovery.Proofs.Text.ByteOrder
import Mathlib.Data.List.Nodup

namespace TestDiscovery

set_option autoImplicit false

open TestDiscovery.Text Building

/-! ## Values in values -/

/-- The value is the other, or stands in it at some depth. -/
inductive Toml.Value.Within : Value → Value → Prop where
  | self (v : Value) : Within v v
  | item {v w : Value} {items : List Value} (mem : w ∈ items) (h : Within v w) :
    Within v (.array items)
  | entry {v : Value} {e : String × Value} {entries : Table} (mem : e ∈ entries)
    (h : Within v e.2) : Within v (.table entries)

namespace Config

/-- The value is a text that writes a date-time. -/
def IsDateTimeText (v : Toml.Value) : Prop :=
  ∃ s time, v = .string s ∧ Toml.DateTime.read? .embedded s.toList = some time

/-- A table that starts with the key of date-times and does not hold just the text of one. -/
def Misread (v : Toml.Value) : Prop :=
  ∃ first rest, v = .table ((dateTimeKey, first) :: rest) ∧ ¬ (rest = [] ∧ IsDateTimeText first)

/-- Nothing in the value is misread. -/
def Unmistaken (v : Toml.Value) : Prop := ∀ w, w.Within v → ¬ Misread w

theorem unmistaken_array_iff {items : List Toml.Value} :
    Unmistaken (.array items) ↔ ∀ v ∈ items, Unmistaken v := by
  constructor
  · intro h v hv w hw
    exact h w (.item hv hw)
  · intro h w hw
    cases hw with
    | self => rintro ⟨first, rest, ⟨⟩, -⟩
    | item mem inside => exact h _ mem w inside

theorem unmistaken_table_iff {entries : Toml.Table} :
    Unmistaken (.table entries) ↔
      ¬ Misread (.table entries) ∧ ∀ e ∈ entries, Unmistaken e.2 := by
  constructor
  · intro h
    exact ⟨h _ (.self _), fun e he w hw => h w (.entry he hw)⟩
  · rintro ⟨whole, each⟩ w hw
    cases hw with
    | self => exact whole
    | entry mem inside => exact each _ mem w inside

/-- A value without parts is not misread. -/
theorem unmistaken_of_scalar {v : Toml.Value} (items : ∀ items, v ≠ .array items)
    (entries : ∀ entries, v ≠ .table entries) : Unmistaken v := by
  intro w hw
  cases hw with
  | self =>
      rintro ⟨first, rest, shape, -⟩
      exact entries _ shape
  | item => exact absurd rfl (items _)
  | entry => exact absurd rfl (entries _)

theorem not_misread_of_ne {key : String} (ne : key ≠ dateTimeKey) (v : Toml.Value)
    (rest : Toml.Table) : ¬ Misread (.table ((key, v) :: rest)) := by
  rintro ⟨first, others, shape, -⟩
  cases shape
  exact ne rfl

theorem not_misread_iff {v : Toml.Value} {rest : Toml.Table} :
    ¬ Misread (.table ((dateTimeKey, v) :: rest)) ↔ rest = [] ∧ IsDateTimeText v := by
  rw [Misread]
  push Not
  constructor
  · intro h
    exact h v rest rfl
  · rintro dated first others ⟨⟩
    exact dated

/-- A table that starts with the key of date-times can be taken in when it is the text of one. -/
theorem isAcceptable_dateTimeKey_iff {v : Toml.Value} {rest : Toml.Table} :
    isAcceptable (.table ((dateTimeKey, v) :: rest)) = true ↔ rest = [] ∧ IsDateTimeText v := by
  cases v with
  | string s =>
      simp [isAcceptable, IsDateTimeText, Option.isSome_iff_exists]
  | _ => simp [isAcceptable, IsDateTimeText]

/-- No part of the text of a date-time is misread. -/
theorem unmistaken_dateTimeKey_iff {v : Toml.Value} {rest : Toml.Table} :
    Unmistaken (.table ((dateTimeKey, v) :: rest)) ↔ rest = [] ∧ IsDateTimeText v := by
  rw [unmistaken_table_iff, not_misread_iff]
  refine and_iff_left_of_imp ?_
  rintro ⟨rfl, s, time, rfl, -⟩ e he
  rw [List.mem_singleton.1 he]
  exact unmistaken_of_scalar nofun nofun

mutual

/-- A value can be taken in when nothing in it is misread. -/
theorem isAcceptable_iff (v : Toml.Value) : isAcceptable v = true ↔ Unmistaken v := by
  match v with
  | .array items =>
      rw [isAcceptable, unmistaken_array_iff]
      exact areAcceptable_iff items
  | .table [] =>
      simp [isAcceptable, unmistaken_table_iff, Misread]
  | .table ((key, v) :: rest) =>
      by_cases dated : key = dateTimeKey
      · rw [dated, isAcceptable_dateTimeKey_iff, unmistaken_dateTimeKey_iff]
      · have walk : isAcceptable (.table ((key, v) :: rest)) =
            (isAcceptable v && areAcceptableEntries rest) := by simp [isAcceptable, dated]
        rw [walk, unmistaken_table_iff, Bool.and_eq_true, List.forall_mem_cons,
          isAcceptable_iff v, areAcceptableEntries_iff rest]
        exact (and_iff_right (not_misread_of_ne dated v rest)).symm
  | .string _ | .integer _ | .float | .boolean _ | .dateTime _ =>
      exact iff_of_true rfl (unmistaken_of_scalar nofun nofun)

theorem areAcceptable_iff (items : List Toml.Value) :
    areAcceptable items = true ↔ ∀ v ∈ items, Unmistaken v := by
  match items with
  | [] => simp [areAcceptable]
  | v :: rest =>
      rw [areAcceptable, Bool.and_eq_true, List.forall_mem_cons, isAcceptable_iff v,
        areAcceptable_iff rest]

theorem areAcceptableEntries_iff (entries : Toml.Table) :
    areAcceptableEntries entries = true ↔ ∀ e ∈ entries, Unmistaken e.2 := by
  match entries with
  | [] => simp [areAcceptableEntries]
  | (key, v) :: rest =>
      rw [areAcceptableEntries, Bool.and_eq_true, List.forall_mem_cons, isAcceptable_iff v,
        areAcceptableEntries_iff rest]

end

/-! ## Documents without their unknown keys -/

/-- The second document has the entries of the first under keys with a meaning, and no others. -/
def KnownPart (t known : Toml.Table) : Prop := ∀ e, e ∈ known ↔ e ∈ t ∧ e.1 ∈ knownKeys

variable {t known : Toml.Table}

theorem KnownPart.field?_eq (h : KnownPart t known) (unique : (t.map Prod.fst).Nodup)
    (uniqueKnown : (known.map Prod.fst).Nodup) {α : Type} {key : String} (hk : key ∈ knownKeys)
    (absent : α) (read : Toml.Value → Option α) :
    field? known key absent read = field? t key absent read := by
  have found : known.lookup key = t.lookup key := by
    refine Option.ext fun v => ?_
    rw [lookup_eq_some_iff_mem unique, lookup_eq_some_iff_mem uniqueKnown, h]
    exact and_iff_left hk
  rw [field?, field?, found]

theorem KnownPart.unknownEntries_eq (h : KnownPart t known) : unknownEntries known = [] :=
  unknownEntries_eq_nil fun e he => ((h e).1 he).2

/-- The unknown keys in ascending order. -/
def unknownNames (t : Toml.Table) : List String :=
  ((unknownEntries t).map Prod.fst).mergeSort fun a b => a ≤ b

/-- The document is read as its known part is, unless a value under an unknown key is misread. -/
theorem readFrom_iff (h : KnownPart t known) (unique : (t.map Prod.fst).Nodup)
    (uniqueKnown : (known.map Prod.fst).Nodup) {c : Config} : ReadFrom t c ↔
      ReadFrom known { c with unknownKeys := [] } ∧ c.unknownKeys = unknownNames t ∧
        ∀ e ∈ t, e.1 ∉ knownKeys → Unmistaken e.2 := by
  have engines : field? known "engines" [] texts? = _ :=
    h.field?_eq unique uniqueKnown (by decide) _ _
  have includeTags : field? known "include-tags" [] texts? = _ :=
    h.field?_eq unique uniqueKnown (by decide) _ _
  have excludeTags : field? known "exclude-tags" [] texts? = _ :=
    h.field?_eq unique uniqueKnown (by decide) _ _
  have parameters : field? known "parameters" .empty textTable? = _ :=
    h.field?_eq unique uniqueKnown (by decide) _ _
  have none_ := h.unknownEntries_eq
  constructor
  · intro read
    refine ⟨⟨engines ▸ read.engines, includeTags ▸ read.includeTags,
      excludeTags ▸ read.excludeTags, parameters ▸ read.parameters, by simp [none_],
      by simp [none_]⟩, read.unknownKeys, fun e he hk => ?_⟩
    exact (isAcceptable_iff e.2).1 (read.acceptable e (mem_unknownEntries_iff.2 ⟨he, hk⟩))
  · rintro ⟨read, names, unmistaken⟩
    refine ⟨engines ▸ read.engines, includeTags ▸ read.includeTags, excludeTags ▸ read.excludeTags,
      parameters ▸ read.parameters, fun e he => ?_, names⟩
    obtain ⟨mem, hk⟩ := mem_unknownEntries_iff.1 he
    exact (isAcceptable_iff e.2).2 (unmistaken e mem hk)

/-! ## Unknown keys -/

theorem mem_unknownNames_iff {key : String} :
    key ∈ unknownNames t ↔ key ∉ knownKeys ∧ ∃ v, (key, v) ∈ t := by
  rw [unknownNames, List.mem_mergeSort, List.mem_map]
  constructor
  · rintro ⟨e, he, rfl⟩
    obtain ⟨mem, hk⟩ := mem_unknownEntries_iff.1 he
    exact ⟨hk, e.2, mem⟩
  · rintro ⟨hk, v, mem⟩
    exact ⟨(key, v), mem_unknownEntries_iff.2 ⟨mem, hk⟩, rfl⟩

/-- The unknown keys ascend by their bytes, so none stands there twice. -/
theorem ascending_unknownNames (unique : (t.map Prod.fst).Nodup) :
    (unknownNames t).Pairwise fun a b => Utf8.encode a < Utf8.encode b := by
  have trans (a b c : String) (hab : decide (a ≤ b) = true) (hbc : decide (b ≤ c) = true) :
      decide (a ≤ c) = true :=
    decide_eq_true (String.le_trans (of_decide_eq_true hab) (of_decide_eq_true hbc))
  have total (a b : String) : (decide (a ≤ b) || decide (b ≤ a)) = true := by
    simpa using String.le_total a b
  have sorted : (unknownNames t).Pairwise fun a b => decide (a ≤ b) = true :=
    List.pairwise_mergeSort trans total _
  have distinct : (unknownNames t).Nodup := by
    refine (List.mergeSort_perm _ _).nodup_iff.2 ?_
    exact unique.sublist (List.filter_sublist.map Prod.fst)
  refine (sorted.and distinct).imp fun {a b} both => Utf8.encode_lt_encode ?_
  have notLess : ¬ b < a := String.not_lt.2 (of_decide_eq_true both.1)
  exact Dictionary.lt_of_ne_of_not_lt (Ne.symm both.2) notLess

/-! ## Configurations with and without unknown keys -/

/-- A configuration of the document, and one of its known part that differs from it in nothing but
the unknown keys. -/
structure AddsUnknownKeys (t : Toml.Table) (c known : Config) : Prop where
  engines : c.engines = known.engines
  includeTags : c.includeTags = known.includeTags
  excludeTags : c.excludeTags = known.excludeTags
  parameters : c.parameters = known.parameters
  /-- Both act alike on every builder. -/
  apply : ∀ b, c.apply.run b = known.apply.run b
  unknownKeys : ∀ key, key ∈ c.unknownKeys ↔ key ∉ knownKeys ∧ ∃ v, (key, v) ∈ t
  ascending : c.unknownKeys.Pairwise fun a b => Utf8.encode a < Utf8.encode b
  eq_empty_iff : c = .empty ↔ (c.engines = [] ∧ c.includeTags = [] ∧ c.excludeTags = [] ∧
    c.parameters = .empty) ∧ ∀ e ∈ t, e.1 ∈ knownKeys

theorem addsUnknownKeys_of_readFrom (unique : (t.map Prod.fst).Nodup) {c : Config}
    (h : ReadFrom t c) : AddsUnknownKeys t c { c with unknownKeys := [] } := by
  have names : c.unknownKeys = unknownNames t := h.unknownKeys
  have mem : ∀ key, key ∈ c.unknownKeys ↔ key ∉ knownKeys ∧ ∃ v, (key, v) ∈ t := fun key =>
    names ▸ mem_unknownNames_iff
  have none_ : c.unknownKeys = [] ↔ ∀ e ∈ t, e.1 ∈ knownKeys := by
    rw [List.eq_nil_iff_forall_not_mem]
    constructor
    · intro free e he
      refine Decidable.byContradiction fun hk => free e.1 ((mem e.1).2 ⟨hk, e.2, he⟩)
    · intro all key hk
      obtain ⟨unknown, v, he⟩ := (mem key).1 hk
      exact unknown (all _ he)
  refine ⟨rfl, rfl, rfl, rfl, fun _ => rfl, mem, names ▸ ascending_unknownNames unique, ?_⟩
  rw [← none_]
  obtain ⟨engines, includeTags, excludeTags, parameters, unknownKeys⟩ := c
  simp [empty, and_assoc]

/-- **Unknown keys are recorded and change nothing else, unless a value under one is misread.**
`text` and `part` are documents that differ in nothing but the unknown keys of the first. -/
theorem unknown_keys_are_recorded {text part : String} {t known : Toml.Table}
    (document : Toml.parse? text = some t) (knownDocument : Toml.parse? part = some known)
    (same : KnownPart t known) (origin : Path) (b : Builder) :
    ((∃ c after, (parse text origin).run b = (.ok c, after)) ↔
      (∃ c after, (parse part origin).run b = (.ok c, after)) ∧
        ∀ e ∈ t, e.1 ∉ knownKeys → Unmistaken e.2) ∧
    ∀ c after, (parse text origin).run b = (.ok c, after) →
      (∃ knownConfig, (parse part origin).run b = (.ok knownConfig, b) ∧
        AddsUnknownKeys t c knownConfig) ∧
      after = { b with journal := b.journal ++ c.unknownRecords origin } ∧
      ∀ r ∈ c.unknownRecords origin, r.level = .warn := by
  have unique := Toml.nodup_keys_of_parse? document
  have uniqueKnown := Toml.nodup_keys_of_parse? knownDocument
  constructor
  · simp only [run_parse_eq_ok_iff document, run_parse_eq_ok_iff knownDocument,
      readFrom_iff same unique uniqueKnown]
    constructor
    · rintro ⟨c, after, ⟨read, -, unmistaken⟩, -⟩
      exact ⟨⟨_, _, read, rfl⟩, unmistaken⟩
    · rintro ⟨⟨⟨engines, includeTags, excludeTags, parameters, unknownKeys⟩, after, read, -⟩,
        unmistaken⟩
      obtain rfl : unknownKeys = [] := by
        simpa [same.unknownEntries_eq] using read.unknownKeys
      exact ⟨⟨engines, includeTags, excludeTags, parameters, unknownNames t⟩, _,
        ⟨read, rfl, unmistaken⟩, rfl⟩
  · intro c after run
    obtain ⟨read, rfl⟩ := (run_parse_eq_ok_iff document).1 run
    obtain ⟨readKnown, -, -⟩ := (readFrom_iff same unique uniqueKnown).1 read
    refine ⟨⟨_, (run_parse_eq_ok_iff knownDocument).2 ⟨readKnown, ?_⟩,
      addsUnknownKeys_of_readFrom unique read⟩, rfl, fun r hr => ?_⟩
    · simp [unknownRecords]
    · obtain ⟨key, -, rfl⟩ := List.mem_map.1 hr
      rfl

/-- A document with unknown keys on both sides of a list. -/
theorem unknown_keys_are_recorded_two_keys :
    let text := "b = []\nengines = ['x']\na = ''\n"
    let part := "engines = ['x']\n"
    let t : Toml.Table :=
      [("b", .array []), ("engines", textArray ["x"]), ("a", .string "")]
    Toml.parse? text = some t ∧ ∃ c known after,
      (parse text (.ofText fileName)).run .empty = (.ok c, after) ∧
      (parse part (.ofText fileName)).run .empty = (.ok known, .empty) ∧
      AddsUnknownKeys t c known ∧ after.journal = c.unknownRecords (.ofText fileName) := by
  intro text part t
  let known : Toml.Table := [("engines", textArray ["x"])]
  have document : Toml.parse? text = some t := by decide +kernel +revert
  have knownDocument : Toml.parse? part = some known := by decide +kernel +revert
  have same : KnownPart t known := by
    intro e
    simp only [t, known, List.mem_cons, List.not_mem_nil, or_false]
    constructor
    · rintro rfl
      exact ⟨.inr (.inl rfl), by decide⟩
    · rintro ⟨rfl | rfl | rfl, hk⟩
      · exact absurd hk (by decide)
      · rfl
      · exact absurd hk (by decide)
  have unmistaken : ∀ e ∈ t, e.1 ∉ knownKeys → Unmistaken e.2 := by
    intro e he _
    have walked : t.all (fun e => isAcceptable e.2) = true := by decide
    exact (isAcceptable_iff e.2).1 (List.all_eq_true.1 walked e he)
  have taken : (ofText? part).isSome = true := by
    rw [ofText?, knownDocument]
    rfl
  obtain ⟨c', read⟩ := Option.isSome_iff_exists.1 taken
  obtain ⟨succeeds, leaves⟩ :=
    unknown_keys_are_recorded document knownDocument same (.ofText fileName) .empty
  obtain ⟨c, after, run⟩ := succeeds.2 ⟨⟨c', _, run_parse_of_some read _ _⟩, unmistaken⟩
  obtain ⟨⟨knownConfig, runKnown, adds⟩, recorded, -⟩ := leaves c after run
  refine ⟨document, c, knownConfig, after, run, runKnown, adds, ?_⟩
  rw [recorded]
  rfl

/-- A value under an unknown key can make a document fail: a table that starts with the key of
date-times but is no date-time. -/
theorem misread_unknown_value_refused :
    ¬ ∀ (text part : String) (t known : Toml.Table), Toml.parse? text = some t →
      Toml.parse? part = some known → KnownPart t known → ∀ (origin : Path) (b : Builder),
        (∃ c after, (parse text origin).run b = (.ok c, after)) ↔
          ∃ c after, (parse part origin).run b = (.ok c, after) := by
  intro claim
  let text := "x = \x7b \"$__toml_private_datetime\" = \"\" \x7d\n"
  have document : Toml.parse? text =
      some [("x", .table [("$__toml_private_datetime", .string "")])] := by decide +kernel +revert
  have empty : Toml.parse? "" = some [] := by decide +kernel
  have same : KnownPart [("x", .table [("$__toml_private_datetime", .string "")])] [] := by
    intro e
    simp only [List.not_mem_nil, List.mem_singleton, false_iff, not_and]
    rintro rfl
    decide
  have refused : ofText? text = none := by
    rw [ofText?, document]
    rfl
  have taken : (ofText? "").isSome = true := by
    rw [ofText?, empty]
    rfl
  obtain ⟨c, read⟩ := Option.isSome_iff_exists.1 taken
  obtain ⟨c', after, run⟩ := (claim _ _ _ _ document empty same (.ofText fileName) .empty).2
    ⟨c, _, run_parse_of_some read _ _⟩
  rw [run_parse_of_none refused] at run
  cases run

end Config

end TestDiscovery
