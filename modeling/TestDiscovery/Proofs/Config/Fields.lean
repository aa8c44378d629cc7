/-
# TestDiscovery.Proofs.Config.Fields -- the parts of a configuration file

A configuration is read from the four keys with a meaning, one by one, and from the
names of the keys without one.  `Config.ReadFrom` says so part by part.  Reading a text
tells of the unknown keys and touches nothing else (`run_parse`).

A value is a list of texts in just one way (`texts?_eq_some_iff`).  It is a table of
texts in two: a table whose values are texts, and a date-time, which is taken for a table
of its written form (`textTable?_eq_some_iff`).
-/
import TestDiscovery.Config
import TestDiscovery.Proofs.Building.Contract
import TestDiscovery.Proofs.Text.Parts
import TestDiscovery.Proofs.Toml.Distinct

namespace TestDiscovery

set_option autoImplicit false

open TestDiscovery.Text Building

/-! ## Dictionaries of entries -/

theorem Dictionary.get?_ofList (pairs : List (String × String)) (key : String) :
    (ofList pairs).get? key = lastWrite pairs key := by
  have writes : ∀ d : Dictionary, (pairs.foldl (fun d pair => d.put pair.1 pair.2) d).get? key =
      (lastWrite pairs key).or (d.get? key) := by
    induction pairs with
    | nil => exact fun d => rfl
    | cons pair rest ih =>
        intro d
        rw [List.foldl_cons, ih, get?_put, lastWrite_cons, Option.or_assoc]
        split
        · rw [Option.some_or]
        · rw [Option.none_or]
  rw [ofList, writes]
  exact Option.or_none

theorem Dictionary.get?_ofList_eq_some_iff {pairs : List (String × String)}
    (unique : (pairs.map Prod.fst).Nodup) {key value : String} :
    (ofList pairs).get? key = some value ↔ (key, value) ∈ pairs := by
  rw [get?_ofList, lastWrite_of_nodup unique, lookup_eq_some_iff_mem unique]

namespace Config

/-! ## Values -/

/-- The array of texts. -/
def textArray (ss : List String) : Toml.Value := .array (ss.map .string)

/-- The table of texts. -/
def textTable (pairs : List (String × String)) : Toml.Value :=
  .table (pairs.map fun pair => (pair.1, .string pair.2))

theorem text?_eq_some_iff {v : Toml.Value} {s : String} : text? v = some s ↔ v = .string s := by
  cases v <;> simp [text?]

theorem texts?_eq_some_iff {v : Toml.Value} {ss : List String} :
    texts? v = some ss ↔ v = textArray ss := by
  cases v with
  | array items =>
      rw [texts?, mapM_eq_some_iff_eq_map fun _ _ => text?_eq_some_iff, textArray,
        Toml.Value.array.injEq]
  | _ => simp [texts?, textArray]

theorem textEntry?_eq_some_iff {e : String × Toml.Value} {pair : String × String} :
    textEntry? e = some pair ↔ e = (pair.1, .string pair.2) := by
  obtain ⟨key, v⟩ := e
  obtain ⟨k, s⟩ := pair
  simp only [Option.map_eq_some_iff, text?_eq_some_iff, Prod.mk.injEq, textEntry?]
  constructor
  · rintro ⟨_, rfl, rfl, rfl⟩
    exact ⟨rfl, rfl⟩
  · rintro ⟨rfl, rfl⟩
    exact ⟨s, rfl, rfl, rfl⟩

/-- The two kinds of value that count as a table of texts. -/
theorem textTable?_eq_some_iff {v : Toml.Value} {d : Dictionary} : textTable? v = some d ↔
    (∃ pairs, v = textTable pairs ∧ d = .ofList pairs) ∨
      ∃ time, v = .dateTime time ∧ d = .ofList [(dateTimeKey, time.text)] := by
  cases v with
  | table entries =>
      have read (pairs : List (String × String)) :
          entries.mapM textEntry? = some pairs ↔ Toml.Value.table entries = textTable pairs := by
        rw [mapM_eq_some_iff_eq_map fun _ _ => textEntry?_eq_some_iff, textTable,
          Toml.Value.table.injEq]
      simp [textTable?, read, eq_comm]
  | dateTime time => simp [textTable?, textTable, eq_comm]
  | _ => simp [textTable?, textTable]

/-! ## Fields -/

theorem field?_eq_some_iff {α : Type} {t : Toml.Table} {key : String} {absent x : α}
    {read : Toml.Value → Option α} : field? t key absent read = some x ↔
      (t.lookup key = none ∧ x = absent) ∨ ∃ v, t.lookup key = some v ∧ read v = some x := by
  unfold field?
  cases t.lookup key <;> simp [eq_comm]

/-- The entries whose keys have no meaning. -/
def unknownEntries (t : Toml.Table) : Toml.Table := t.filter fun e => !knownKeys.contains e.1

theorem mem_unknownEntries_iff {t : Toml.Table} {e : String × Toml.Value} :
    e ∈ unknownEntries t ↔ e ∈ t ∧ e.1 ∉ knownKeys := by
  simp [unknownEntries]

theorem unknownEntries_eq_nil {t : Toml.Table} (known : ∀ e ∈ t, e.1 ∈ knownKeys) :
    unknownEntries t = [] :=
  List.eq_nil_iff_forall_not_mem.2 fun e he =>
    (mem_unknownEntries_iff.1 he).2 (known e (mem_unknownEntries_iff.1 he).1)

/-- The configuration is what the table holds, part by part. -/
structure ReadFrom (t : Toml.Table) (c : Config) : Prop where
  engines : field? t "engines" [] texts? = some c.engines
  includeTags : field? t "include-tags" [] texts? = some c.includeTags
  excludeTags : field? t "exclude-tags" [] texts? = some c.excludeTags
  parameters : field? t "parameters" .empty textTable? = some c.parameters
  acceptable : ∀ e ∈ unknownEntries t, isAcceptable e.2 = true
  unknownKeys : c.unknownKeys = ((unknownEntries t).map Prod.fst).mergeSort fun a b => a ≤ b

theorem ofTable?_eq_some_iff {t : Toml.Table} {c : Config} :
    ofTable? t = some c ↔ ReadFrom t c := by
  constructor
  · intro h
    obtain ⟨engines, readEngines, h⟩ := Option.bind_eq_some_iff.1 h
    obtain ⟨includeTags, readIncludeTags, h⟩ := Option.bind_eq_some_iff.1 h
    obtain ⟨excludeTags, readExcludeTags, h⟩ := Option.bind_eq_some_iff.1 h
    obtain ⟨parameters, readParameters, h⟩ := Option.bind_eq_some_iff.1 h
    dsimp only at h
    split at h
    · rename_i acceptable
      cases h
      exact ⟨readEngines, readIncludeTags, readExcludeTags, readParameters,
        List.all_eq_true.1 acceptable, rfl⟩
    · cases h
  · rintro ⟨engines, includeTags, excludeTags, parameters, acceptable, unknownKeys⟩
    have all : (unknownEntries t).all (fun e => isAcceptable e.2) = true :=
      List.all_eq_true.2 acceptable
    refine Option.bind_eq_some_iff.2 ⟨_, engines, Option.bind_eq_some_iff.2 ⟨_, includeTags,
      Option.bind_eq_some_iff.2 ⟨_, excludeTags, Option.bind_eq_some_iff.2 ⟨_, parameters, ?_⟩⟩⟩⟩
    refine (if_pos all).trans ?_
    rw [unknownEntries] at unknownKeys
    rw [← unknownKeys]

/-! ## Texts -/

theorem ofText?_eq_some_iff {text : String} {t : Toml.Table} (document : Toml.parse? text = some t)
    {c : Config} : ofText? text = some c ↔ ReadFrom t c := by
  rw [← ofTable?_eq_some_iff, ofText?, document]
  rfl

/-- The records that tell of unknown keys. -/
def unknownRecords (c : Config) (origin : Path) : List LogRecord :=
  c.unknownKeys.map fun key => .unknownKey key origin

theorem run_forM_note {ε : Type} (record : String → LogRecord) (keys : List String) (b : Builder) :
    (keys.forM fun key => (note (record key) : Building ε Unit)).run b =
      (.ok (), { b with journal := b.journal ++ keys.map record }) := by
  induction keys generalizing b with
  | nil =>
      rw [List.map_nil, List.append_nil]
      rfl
  | cons key rest ih =>
      refine (run_bind_of_ok rfl _).trans ?_
      refine (ih (b.note (record key))).trans ?_
      rw [Builder.note, List.append_assoc, List.map_cons, List.singleton_append]

theorem run_parse_of_some {text : String} {c : Config} (h : ofText? text = some c) (origin : Path)
    (b : Builder) : (parse text origin).run b =
      (.ok c, { b with journal := b.journal ++ c.unknownRecords origin }) := by
  have noted : (c.unknownKeys.forM fun key =>
      (note (.unknownKey key origin) : Building ConfigFault Unit)).run b = _ :=
    run_forM_note _ c.unknownKeys b
  rw [parse, h]
  refine (run_bind_of_ok (congrArg Prod.fst noted) _).trans ?_
  rw [noted]
  rfl

theorem run_parse_of_none {text : String} (h : ofText? text = none) (origin : Path) (b : Builder) :
    (parse text origin).run b = (.error (.unparsable origin), b) := by
  rw [parse, h]
  rfl

/-- Reading a document gives what it holds and records its unknown keys. -/
theorem run_parse_eq_ok_iff {text : String} {t : Toml.Table}
    (document : Toml.parse? text = some t) {origin : Path} {b after : Builder} {c : Config} :
    (parse text origin).run b = (.ok c, after) ↔
      ReadFrom t c ∧ after = { b with journal := b.journal ++ c.unknownRecords origin } := by
  rw [← ofText?_eq_some_iff document]
  cases read : ofText? text with
  | none =>
      rw [run_parse_of_none read]
      exact iff_of_false nofun nofun
  | some d =>
      rw [run_parse_of_some read, Prod.mk.injEq, Except.ok.injEq, Option.some.injEq]
      constructor
      · rintro ⟨rfl, rfl⟩
        exact ⟨rfl, rfl⟩
      · rintro ⟨rfl, rfl⟩
        exact ⟨rfl, rfl⟩

/-- A document that holds no configuration is refused. -/
theorem run_parse_of_not_exists {text : String} {t : Toml.Table}
    (document : Toml.parse? text = some t) (h : ¬ ∃ c, ReadFrom t c) (origin : Path) (b : Builder) :
    (parse text origin).run b = (.error (.unparsable origin), b) := by
  refine run_parse_of_none (Option.eq_none_iff_forall_not_mem.2 fun c read => ?_) origin b
  exact h ⟨c, (ofText?_eq_some_iff document).1 read⟩

end Config

end TestDiscovery
