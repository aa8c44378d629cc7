/-
# TestDiscovery.Proofs.CommandLine.ReadBack -- written options are read back

The values that the arguments hold for an option (`Arguments.held`) are those of its
own uses, in order, whatever stands between them (`Arguments.read_written`).  Uses are
settled one after the other (`ReadState.read_render`), so it is enough to know what one
of them adds (`Arguments.exists_settle`) and that no use before it excludes it.

Nothing but what is held tells arguments apart, so the order between options and their
spelling do not matter (`Arguments.read_eq_of_values_eq`).
-/
import TestDiscovery.Proofs.CommandLine.Occurrences
import Mathlib.Data.List.Induction

namespace TestDiscovery

set_option autoImplicit false

open TestDiscovery.Text

/-! ## Values -/

/-- The values of an option, byte for byte. -/
def Arguments.held (a : Arguments) : ValueOption → List RawArgument
  | .list .package => a.packages.map Utf8.encode
  | .list .className => a.classes.map Utf8.encode
  | .list .method => a.methods.map Utf8.encode
  | .list .path => a.paths.map Path.bytes
  | .list .uniqueId => a.uniqueIds.map Utf8.encode
  | .list .engine => a.engines.map Utf8.encode
  | .list .includeClassName => a.includeClassNames.map Utf8.encode
  | .list .excludeClassName => a.excludeClassNames.map Utf8.encode
  | .list .includeTag => a.includeTags.map Utf8.encode
  | .list .excludeTag => a.excludeTags.map Utf8.encode
  | .config => a.config.map Utf8.encode
  | .configFile => (a.configFile.map Path.bytes).toList

/-- The value is one that the option takes: paths are not empty, all others are texts. -/
def ValueOption.Admits (o : ValueOption) (value : RawArgument) : Prop :=
  match o with
  | .list .path | .configFile => value ≠ []
  | _ => ∃ s : String, value = Utf8.encode s

namespace Occurrence

/-- The option that takes the values of the use. -/
def option? : Occurrence → Option ValueOption
  | .joined o _ | .apart o _ => some o
  | .letter _ => some .config
  | .json => none

/-- The values of the use. -/
def values : Occurrence → List RawArgument
  | .joined _ value => [value]
  | .apart _ values | .letter values => values
  | .json => []

/-- The values of the use for an option. -/
def valuesOf (o : ValueOption) (u : Occurrence) : List RawArgument :=
  if u.option? = some o then u.values else []

/-- The use is written as it should be, with values that its option takes. -/
structure Valid (u : Occurrence) : Prop where
  wellSpelled : u.WellSpelled
  admitted : ∀ o, u.option? = some o → ∀ v ∈ u.values, o.Admits v

theorem eq_json_of_option? {u : Occurrence} (h : u.option? = none) : u = .json := by
  cases u with
  | json => rfl
  | _ => cases h

theorem Valid.count {u : Occurrence} {o : ValueOption} (valid : u.Valid) (h : u.option? = some o) :
    o = .config ∨ ∃ v, u.values = [v] := by
  have spelled := valid.wellSpelled
  cases u with
  | joined p value => exact .inr ⟨value, rfl⟩
  | apart p values =>
      cases h
      exact spelled.1
  | letter values =>
      cases h
      exact .inl rfl
  | json => cases h

/-- The uses are valid and can stand in one command line: the configuration file is named at most
once and the flag is set at most once. -/
structure Together (us : List Occurrence) : Prop where
  valid : ∀ u ∈ us, u.Valid
  file : us.countP (·.option? = some .configFile) ≤ 1
  json : us.count .json ≤ 1

namespace Together

variable {us : List Occurrence} {u : Occurrence} (h : Together (us ++ [u]))

include h

theorem init : Together us where
  valid v hv := h.valid v (List.mem_append_left [u] hv)
  file := (List.sublist_append_left us [u]).countP_le.trans h.file
  json := (List.sublist_append_left us [u]).countP_le.trans h.json

theorem last : u.Valid := h.valid u (List.mem_append_right us List.mem_cons_self)

theorem fileOnce (same : u.option? = some .configFile) :
    ∀ v ∈ us, v.option? ≠ some .configFile := by
  have count := h.file
  rw [List.countP_append, List.countP_singleton, if_pos (by simpa using same)] at count
  have none_ : us.countP (·.option? = some .configFile) = 0 := by omega
  simpa using List.countP_eq_zero.1 none_

theorem jsonOnce (same : u = .json) : .json ∉ us := by
  have count := h.json
  rw [same, List.count_append, List.count_singleton_self] at count
  exact List.count_eq_zero.1 (by omega)

end Together

end Occurrence

/-- The arguments hold what the uses of options gave them. -/
structure Arguments.Holds (a : Arguments) (us : List Occurrence) : Prop where
  values : ∀ o, a.held o = us.flatMap (Occurrence.valuesOf o)
  json : a.json = true ↔ .json ∈ us

/-! ## One use -/

namespace Arguments

theorem textValue_encode (s : String) : textValue (Utf8.encode s) = .ok s := by
  rw [textValue, Utf8.decode?_encode]

theorem pathValue_of_ne_nil {raw : RawArgument} (h : raw ≠ []) : pathValue raw = .ok ⟨raw⟩ :=
  if_neg h

/-- `b` is `a` with further values of an option, and the same in all else. -/
structure Extends (b a : Arguments) (o : ValueOption) (values : List RawArgument) : Prop where
  held : ∀ p, b.held p = a.held p ++ if o = p then values else []
  json : b.json = a.json

theorem exists_append {o : ListOption} {raw : RawArgument} (h : ValueOption.Admits (.list o) raw)
    (a : Arguments) : ∃ b, a.append o raw = .ok b ∧ b.Extends a (.list o) [raw] := by
  cases o
  case path =>
    refine ⟨{ a with paths := a.paths ++ [⟨raw⟩] }, ?_, ?_, rfl⟩
    · simp only [append, pathValue_of_ne_nil h]
      rfl
    · rintro (⟨⟨⟩⟩ | _ | _) <;> simp [held]
  all_goals
    obtain ⟨s, rfl⟩ := h
    simp only [append, textValue_encode]
    refine ⟨_, rfl, ?_, rfl⟩
    rintro (⟨⟨⟩⟩ | _ | _) <;> simp [held]

theorem mapM_textValue (texts : List String) :
    (texts.map Utf8.encode).mapM textValue = .ok texts := by
  induction texts with
  | nil => rfl
  | cons s texts ih => rw [List.map_cons, List.mapM_cons, textValue_encode, ih]; rfl

theorem exists_texts {values : List RawArgument} (h : ∀ v ∈ values, ∃ s, v = Utf8.encode s) :
    ∃ texts : List String, values = texts.map Utf8.encode := by
  induction values with
  | nil => exact ⟨[], rfl⟩
  | cons v values ih =>
      obtain ⟨⟨s, rfl⟩, rest⟩ := List.forall_mem_cons.1 h
      obtain ⟨texts, rfl⟩ := ih rest
      exact ⟨s :: texts, rfl⟩

/-- A use with values that its option takes adds them and no more. -/
theorem exists_settle {o : ValueOption} {values : List RawArgument}
    (count : o = .config ∨ ∃ v, values = [v]) (admitted : ∀ v ∈ values, o.Admits v)
    (a : Arguments) (first : o = .configFile → a.configFile = none) :
    ∃ b, a.settle o values = .ok b ∧ b.Extends a o values := by
  cases o with
  | list o =>
      obtain ⟨v, rfl⟩ := count.resolve_left nofun
      exact exists_append (admitted v List.mem_cons_self) a
  | config =>
      obtain ⟨texts, rfl⟩ := exists_texts admitted
      refine ⟨{ a with config := a.config ++ texts }, ?_, ?_, rfl⟩
      · simp only [settle, mapM_textValue]
        rfl
      · rintro (⟨⟨⟩⟩ | _ | _) <;> simp [held]
  | configFile =>
      obtain ⟨v, rfl⟩ := count.resolve_left nofun
      refine ⟨{ a with configFile := some ⟨v⟩ }, ?_, ?_, rfl⟩
      · simp only [settle, first rfl, pathValue_of_ne_nil (admitted v List.mem_cons_self)]
        rfl
      · rintro (⟨⟨⟩⟩ | _ | _) <;> simp [held, first rfl]

/-- A use of an option that takes values settles it with them. -/
theorem use_of_option? {u : Occurrence} {o : ValueOption} (h : u.option? = some o)
    (a : Arguments) : a.use u = a.settle o u.values := by
  cases u with
  | json => cases h
  | _ => cases h; rfl

/-- A valid use adds its values and its flag, and no more. -/
theorem exists_use {u : Occurrence} (valid : u.Valid) (a : Arguments)
    (file : u.option? = some .configFile → a.configFile = none)
    (json : u = .json → a.json = false) :
    ∃ b, a.use u = .ok b ∧ (∀ o, b.held o = a.held o ++ u.valuesOf o) ∧
      (b.json = true ↔ a.json = true ∨ .json = u) := by
  cases option : u.option? with
  | none =>
      obtain rfl := Occurrence.eq_json_of_option? option
      refine ⟨{ a with json := true }, ?_, fun o => ?_, by simp⟩
      · rw [use, json rfl]
        rfl
      · rw [Occurrence.valuesOf, option, if_neg (Option.some_ne_none o).symm, List.append_nil]
        cases o <;> rfl
  | some o =>
      obtain ⟨b, settled, added⟩ := exists_settle (valid.count option) (valid.admitted o option) a
        fun same => file (option.trans (congrArg some same))
      refine ⟨b, (use_of_option? option a).trans settled, fun p => ?_, ?_⟩
      · simp only [added.held, Occurrence.valuesOf, option, Option.some.injEq]
      · have other : Occurrence.json ≠ u := by
          rintro rfl
          cases option
        rw [added.json, or_iff_left other]

/-! ## Many uses -/

namespace Holds

variable {a : Arguments} {us : List Occurrence}

theorem nil : Holds {} [] := ⟨by rintro (⟨⟨⟩⟩ | _ | _) <;> rfl, by simp⟩

theorem configFile_eq_none (h : a.Holds us) (unused : ∀ u ∈ us, u.option? ≠ some .configFile) :
    a.configFile = none := by
  have empty : a.held .configFile = [] := by
    rw [h.values, List.flatMap_eq_nil_iff]
    exact fun u hu => if_neg (unused u hu)
  simpa [held] using empty

/-- One more use is read, if no use before it excludes it. -/
theorem exists_use (h : a.Holds us) {u : Occurrence} (valid : u.Valid)
    (file : u.option? = some .configFile → ∀ v ∈ us, v.option? ≠ some .configFile)
    (json : u = .json → .json ∉ us) : ∃ b, a.use u = .ok b ∧ b.Holds (us ++ [u]) := by
  have noFile : u.option? = some .configFile → a.configFile = none :=
    fun same => h.configFile_eq_none (file same)
  have noFlag : u = .json → a.json = false :=
    fun same => Bool.eq_false_iff.2 (mt h.json.1 (json same))
  obtain ⟨b, used, values, flag⟩ := Arguments.exists_use valid a noFile noFlag
  refine ⟨b, used, fun o => ?_, ?_⟩
  · rw [values, h.values, List.flatMap_append, List.flatMap_singleton]
  · rw [flag, h.json, List.mem_append, List.mem_singleton]

end Holds

/-- Valid uses hold after one another, from no arguments on. -/
theorem exists_uses {us : List Occurrence} (h : Occurrence.Together us) :
    ∃ a, us.foldlM use {} = .ok a ∧ a.Holds us := by
  induction us using List.reverseRecOn with
  | nil => exact ⟨{}, rfl, .nil⟩
  | append_singleton us u ih =>
      obtain ⟨a, used, holds⟩ := ih h.init
      obtain ⟨b, last, holdsAll⟩ := holds.exists_use h.last h.fileOnce h.jsonOnce
      refine ⟨b, ?_, holdsAll⟩
      rw [List.foldlM_append, used]
      exact (bind_pure (a.use u)).trans last

/-- Valid uses are read one after the other. -/
theorem read_eq_foldlM {us : List Occurrence} (h : Occurrence.Together us) :
    Arguments.read (us.flatMap Occurrence.render) = us.foldlM use {} :=
  ReadState.read_render (fun u hu => (h.valid u hu).wellSpelled) ReadState.start

/-- **Written options are read back.**  The arguments hold for each option the values of its own
uses, in order, whatever stands between them. -/
theorem read_written {us : List Occurrence} (h : Occurrence.Together us) :
    ∃ a, Arguments.read (us.flatMap Occurrence.render) = .ok a ∧ a.Holds us := by
  rw [read_eq_foldlM h]
  exact exists_uses h

/-- `--config` without values and with others after its letter, values that are empty, that are a
hyphen or that look like options, and a path that is no text. -/
theorem read_written_mixed :
    let us : List Occurrence :=
      [ .apart .config [], .joined (.list .includeTag) [],
        .letter [Utf8.encode "a=--b", Utf8.encode "-", []], .apart (.list .path) [[0xff]], .json,
        .apart .config [Utf8.encode "k=v"], .joined .configFile (Utf8.encode "--json"),
        .apart (.list .package) [Utf8.encode "-"],
        .joined (.list .package) (Utf8.encode "-c") ]
    Occurrence.Together us ∧
      ∃ a, Arguments.read (us.flatMap Occurrence.render) = .ok a ∧ a.Holds us := by
  intro us
  have alone : ∀ v ∈ [[], [0xff], Utf8.encode "-", Utf8.encode "a=--b", Utf8.encode "k=v"],
      StandsAlone v := by decide
  have spelled : ∀ u ∈ us, u.WellSpelled := by simp [us, Occurrence.WellSpelled, alone]
  have empty : ∃ s : String, Utf8.encode s = [] := ⟨"", by decide⟩
  have path : Utf8.encode "--json" ≠ [] := by decide
  have admitted : ∀ u ∈ us, ∀ o, u.option? = some o → ∀ v ∈ u.values, o.Admits v := by
    simp [us, Occurrence.option?, Occurrence.values, ValueOption.Admits, empty, path]
  have together : Occurrence.Together us :=
    ⟨fun u hu => ⟨spelled u hu, admitted u hu⟩, by decide, by decide⟩
  exact ⟨together, read_written together⟩

-- The values after a name end where the next option starts.
example :
    let texts :=
      ["-c", "k=v", "-", "--json", "--select-package=-p", "--config", "--include-tag", ""]
    (Arguments.read (texts.map Utf8.encode)).toOption.map
      (fun a => (a.config, a.json, a.packages, a.includeTags)) =
        some (["k=v", "-"], true, ["-p"], [""]) := by
  decide +kernel

/-! ## Orders and spellings -/

/-- Nothing but what is held tells arguments apart. -/
theorem eq_of_held_eq {a b : Arguments} (h : ∀ o, a.held o = b.held o) (json : a.json = b.json) :
    a = b := by
  have texts : ∀ {xs ys : List String}, xs.map Utf8.encode = ys.map Utf8.encode → xs = ys :=
    (List.map_inj_right fun _ _ => Utf8.eq_of_encode_eq).1
  have bytes : ∀ p q : Path, p.bytes = q.bytes → p = q := fun _ _ => congrArg Path.mk
  have paths : a.paths = b.paths := (List.map_inj_right bytes).1 (h (.list .path))
  have file : a.configFile = b.configFile := by
    have same : a.configFile.map Path.bytes = b.configFile.map Path.bytes := by
      simpa only [held, Option.head?_toList] using congrArg List.head? (h .configFile)
    exact Option.map_injective bytes same
  have lists : ∀ o, a.held (.list o) = b.held (.list o) := fun o => h (.list o)
  obtain ⟨⟩ := a
  obtain ⟨⟩ := b
  simp only [mk.injEq]
  exact ⟨texts (lists .package), texts (lists .className), texts (lists .method), paths,
    texts (lists .uniqueId), texts (lists .engine), texts (lists .includeClassName),
    texts (lists .excludeClassName), texts (lists .includeTag), texts (lists .excludeTag),
    texts (h .config), file, json⟩

/-- **Neither the order between options nor their spelling matters**: uses with the same values
for each option are read alike. -/
theorem read_eq_of_values_eq {us vs : List Occurrence} (hu : Occurrence.Together us)
    (hv : Occurrence.Together vs)
    (values : ∀ o, us.flatMap (Occurrence.valuesOf o) = vs.flatMap (Occurrence.valuesOf o))
    (json : .json ∈ us ↔ .json ∈ vs) :
    Arguments.read (us.flatMap Occurrence.render) =
      Arguments.read (vs.flatMap Occurrence.render) := by
  obtain ⟨a, usedU, holdsU⟩ := exists_uses hu
  obtain ⟨b, usedV, holdsV⟩ := exists_uses hv
  have held : ∀ o, a.held o = b.held o := fun o => by rw [holdsU.values, holdsV.values, values]
  have flag : a.json = b.json := Bool.eq_iff_iff.2 (by rw [holdsU.json, holdsV.json, json])
  rw [read_eq_foldlM hu, read_eq_foldlM hv, usedU, usedV, eq_of_held_eq held flag]

end Arguments

end TestDiscovery
