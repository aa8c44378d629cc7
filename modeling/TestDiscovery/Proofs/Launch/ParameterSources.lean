/-
# TestDiscovery.Proofs.Launch.ParameterSources -- one meaning for parameters from anywhere

Parameters can be given on the command line, on a builder and in the configuration file.
A text of the command line is divided at its first equals sign and nothing is done to the
parts (`Arguments.parameter_eq_ok_iff`), so any entry whose key is free of equals signs
can be given there (`Arguments.adding`).

Behind all other parameters of a command line, further entries come to what they come to
on a builder that holds the request (`Launch.outcome_adding`), and the order in which the
entries of a dictionary are written makes no difference
(`Request.writing_eq_of_perm`).  In the file they come to the same, unless the
command line sets one of their keys.  For this the merged file is compared through a
command line that gives the entries once more: it overwrites what the files differ in,
and changes nothing where they are already there.
-/
import TestDiscovery.Proofs.Config.Merged
import TestDiscovery.Proofs.Launch.Document
import TestDiscovery.Proofs.Launch.Influence

namespace TestDiscovery

set_option autoImplicit false

open TestDiscovery.Text Building

/-! ## Texts of parameters -/

namespace Arguments

theorem parameter_eq_ok_iff {raw key value : String} :
    parameter raw = .ok (key, value) ↔ raw = key ++ "=" ++ value ∧ '=' ∉ key.toList := by
  constructor
  · intro h
    unfold parameter at h
    split at h
    · rename_i cut
      cases h
      obtain ⟨parts, free⟩ := eq_append_of_cutAt cut
      refine ⟨String.toList_inj.1 ?_, by simpa using free⟩
      simpa using parts
    · cases h
  · rintro ⟨rfl, free⟩
    exact parameter_eq_ok free value

/-- The command line sets the keys of its parameters. -/
theorem setsKey_iff {a : Arguments} {key : String} :
    a.SetsKey key ↔ ∃ value, (key, value) ∈ a.pairs := by
  simp only [SetsKey, pairs, List.mem_filterMap]
  constructor
  · rintro ⟨raw, given, value, parts⟩
    exact ⟨value, raw, given, by rw [parameter_eq_ok_iff.2 parts]; rfl⟩
  · rintro ⟨value, raw, given, read⟩
    exact ⟨raw, given, value, parameter_eq_ok_iff.1 (Launch.eq_ok_of_toOption read)⟩

theorem lastWrite_pairs_of_not_setsKey {a : Arguments} {key : String} (h : ¬ a.SetsKey key) :
    lastWrite a.pairs key = none := by
  rw [setsKey_iff, ← lastWrite_ne_none_iff] at h
  exact not_not.1 h

/-- The parameters are read just if every text has an equals sign. -/
theorem exists_parameters_iff {a : Arguments} :
    (∃ pairs, a.parameters = .ok pairs) ↔ ∀ raw ∈ a.config, '=' ∈ raw.toList := by
  simp [parameters_eq, firstFault_eq_ok_iff, parameterFaults, refusals_eq_nil_iff]

/-- Every text is its key, an equals sign and its value, uncut. -/
theorem forall₂_of_parameters {a : Arguments} {pairs : List (String × String)}
    (h : a.parameters = .ok pairs) :
    a.config.Forall₂ (fun raw p => raw = p.1 ++ "=" ++ p.2 ∧ '=' ∉ p.1.toList) pairs := by
  rw [parameters_eq, firstFault_eq_ok_iff] at h
  obtain ⟨free, rfl⟩ := h
  have each : (a.config.map parameter).Forall₂ Eq (a.pairs.map .ok) := by
    rw [Launch.map_parameter_of_parameterFaults free, List.forall₂_eq_eq_eq]
  rw [List.forall₂_map_left_iff, List.forall₂_map_right_iff] at each
  exact each.imp fun _ _ => parameter_eq_ok_iff.1

/-- The fault tells of the first text without an equals sign. -/
theorem parameters_eq_error_iff {a : Arguments} {e : LaunchFault} :
    a.parameters = .error e ↔ ∃ before raw rest, a.config = before ++ raw :: rest ∧
      (∀ text ∈ before, '=' ∈ text.toList) ∧ '=' ∉ raw.toList ∧ e = .malformedParameter raw := by
  rw [parameters_eq, firstFault_eq_error_iff, parameterFaults]
  constructor
  · intro first
    obtain all | ⟨before, raw, rest, split, good, bad⟩ :=
      accepted_or_split (fun raw : String => raw.toList.contains '=') a.config
    · rw [refusals_eq_nil_iff.2 all] at first
      cases first
    · rw [split, refusals_split good bad] at first
      cases first
      exact ⟨before, raw, rest, split, by simpa using good, by simpa using bad, rfl⟩
  · rintro ⟨before, raw, rest, split, good, bad, rfl⟩
    rw [split, refusals_split (by simpa using good) (by simpa using bad)]
    rfl

/-! ## Further parameters -/

/-- The command line with further parameters behind its own. -/
def adding (a : Arguments) (entries : List (String × String)) : Arguments :=
  { a with config := a.config ++ entries.map fun e => e.1 ++ "=" ++ e.2 }

variable {a : Arguments} {entries : List (String × String)}

theorem pairs_adding (free : ∀ e ∈ entries, '=' ∉ e.1.toList) :
    (a.adding entries).pairs = a.pairs ++ entries := by
  have read : ∀ e ∈ entries, (parameter (e.1 ++ "=" ++ e.2)).toOption = some e := by
    intro e he
    rw [parameter_eq_ok (free e he) e.2]
    rfl
  rw [pairs, adding, List.filterMap_append, List.filterMap_map, ← pairs]
  exact congrArg _ ((List.filterMap_congr read).trans List.filterMap_some)

theorem faults_adding (h : a.faults = [])
    (sound : ∀ e ∈ entries, isBlank e.1 = false ∧ '=' ∉ e.1.toList) :
    (a.adding entries).faults = [] := by
  obtain ⟨methods, includes, excludes, texts, keys⟩ := a.faults_eq_nil_iff.1 h
  refine (a.adding entries).faults_eq_nil_iff.2 ⟨methods, includes, excludes, ?_, ?_⟩
  · rw [parameterFaults, refusals_eq_nil_iff] at texts ⊢
    intro raw hr
    rcases List.mem_append.1 hr with own | further
    · exact texts raw own
    · obtain ⟨e, -, rfl⟩ := List.mem_map.1 further
      simp
  · rw [pairs_adding fun e he => (sound e he).2, writeFaults_eq_nil_iff]
    intro w hw
    rcases List.mem_append.1 hw with own | further
    · exact writeFaults_eq_nil_iff.1 keys w own
    · exact (sound w further).1

end Arguments

/-! ## Entries in any order -/

namespace Parameters

variable {m : Dictionary} {entries : List (String × String)}

theorem get?_writeAll_of_perm (ps : Parameters) (filled : ∀ e ∈ entries, isBlank e.1 = false)
    (order : entries.Perm m.toList) (key : String) :
    (ps.writeAll entries).get? key = (m.get? key).or (ps.get? key) := by
  have unique : (m.toList.map Prod.fst).Nodup := nodup_of_ascending m.ascending
  have uniqueToo : (entries.map Prod.fst).Nodup := (order.map Prod.fst).nodup_iff.2 unique
  have last : lastWrite entries key = m.get? key := by
    refine Option.ext fun value => ?_
    rw [lastWrite_of_nodup uniqueToo, lookup_eq_some_iff_mem uniqueToo, order.mem_iff,
      ← lookup_eq_some_iff_mem unique]
    rfl
  rw [get?_writeAll ps filled, last]

end Parameters

namespace Request

/-- The request with parameters written to it. -/
def writing (r : Request) (entries : List (String × String)) : Request :=
  r.withParameters (r.parameters.writeAll entries)

theorem extended_ofWrites (r : Request) (entries : List (String × String)) :
    r.extended (.ofWrites entries) = r.writing entries := by
  simp [extended, Additions.ofWrites, writing, withParameters]

/-- The order in which the entries of a dictionary are written makes no difference. -/
theorem writing_eq_of_perm (r : Request) {m : Dictionary} {entries : List (String × String)}
    (filled : ∀ e ∈ entries, isBlank e.1 = false) (order : entries.Perm m.toList) :
    r.writing entries = r.writing m.toList := by
  have filledToo : ∀ e ∈ m.toList, isBlank e.1 = false := fun e he =>
    filled e (order.mem_iff.2 he)
  have same : r.parameters.writeAll entries = r.parameters.writeAll m.toList := by
    refine Parameters.ext_get? fun key => ?_
    rw [r.parameters.get?_writeAll_of_perm filled order,
      r.parameters.get?_writeAll_of_perm filledToo (.refl _)]
  rw [writing, writing, same]

end Request

/-! ## Three ways to the same parameters -/

namespace Launch

variable {files others : FileSystem} {a : Arguments} {root other : Path} {c : Config}
  {entries : List (String × String)}

/-- Behind its own parameters, a command line writes further ones to its request. -/
theorem outcome_adding {r : Request} (h : outcome files a root = .ok r)
    (sound : ∀ e ∈ entries, isBlank e.1 = false ∧ '=' ∉ e.1.toList) :
    outcome files (a.adding entries) root = .ok (r.writing entries) := by
  obtain ⟨c, loaded, config, arguments, rfl⟩ := outcome_eq_ok_iff.1 h
  have further := Arguments.faults_adding arguments sound
  obtain ⟨-, -, -, -, keys⟩ := a.faults_eq_nil_iff.1 arguments
  obtain ⟨-, -, -, -, keysToo⟩ := (a.adding entries).faults_eq_nil_iff.1 further
  have writes : (additions (c.inForce a) (a.adding entries)).writes =
      (additions (c.inForce a) a).writes ++ entries := by
    rw [writes_additions config keys, writes_additions config keysToo,
      Arguments.pairs_adding fun e he => (sound e he).2, List.append_assoc]
  refine outcome_eq_ok_iff.2 ⟨c, loaded, config, further, ?_⟩
  refine (Request.mk.injEq ..).mpr ⟨rfl, rfl, rfl, rfl, ?_⟩
  show Parameters.empty.writeAll (additions (c.inForce a) (a.adding entries)).writes = _
  rw [writes, Parameters.writeAll, List.foldl_append]
  rfl

theorem run_setParameters (filled : ∀ e ∈ entries, isBlank e.1 = false) (b : Builder) :
    ((setParameters entries).run b).1 = .ok () ∧
      ((setParameters entries).run b).2.contents = b.contents.writing entries := by
  have adds := adds_setParameters entries
  have none_ : writeFaults entries = [] := writeFaults_eq_nil_iff.2 filled
  have all : accepted entries = entries := takeWhile_of_refusals_eq_nil none_
  constructor
  · rw [adds.answers, none_, firstFault]
  · rw [adds.leaves, all, Request.extended_ofWrites]

/-- For a command line that gives the entries of `m`, merging them into the file changes nothing
that counts. -/
theorem sameFor_of_merged {m : Dictionary} {d : Config} (h : Config.Merged m c d)
    (sound : ∀ e ∈ m.toList, isBlank e.1 = false ∧ '=' ∉ e.1.toList) :
    Config.SameFor (a.adding m.toList) c d := by
  refine ⟨fun _ => h.engines.symm, fun _ => h.includeTags.symm, fun _ => h.excludeTags.symm,
    fun key counts => ?_⟩
  rw [h.parameters key]
  cases found : m.get? key with
  | none => rfl
  | some value =>
      have given : (key, value) ∈ m.toList := mem_of_lookup found
      refine absurd ⟨(sound _ given).1, Arguments.setsKey_iff.2 ⟨value, ?_⟩⟩ counts
      rw [Arguments.pairs_adding fun e he => (sound e he).2]
      exact List.mem_append_right a.pairs given

/-- Once the entries of `m` are in the file, writing them to the request changes nothing, unless the
command line sets one of their keys. -/
theorem writing_eq_self_of_merged {m : Dictionary} {d : Config} (h : Config.Merged m c d)
    (config : (d.inForce a).faults = []) (arguments : a.faults = [])
    (filled : ∀ e ∈ m.toList, isBlank e.1 = false) (unset : ∀ key ∈ m.keys, ¬ a.SetsKey key) :
    let s := Request.empty.extended (additions (d.inForce a) a)
    s.writing m.toList = s := by
  intro s
  obtain ⟨-, -, -, -, keys⟩ := a.faults_eq_nil_iff.1 arguments
  have values : ∀ key, s.parameters.get? key = (lastWrite a.pairs key).or (d.parameters.get? key) :=
    get?_writeAll_additions config keys
  have parameters : s.parameters.writeAll m.toList = s.parameters := by
    refine Parameters.ext_get? fun key => ?_
    rw [Parameters.get?_writeAll_of_perm s.parameters filled (.refl _)]
    cases found : m.get? key with
    | none => rfl
    | some value =>
        have listed : key ∈ m.keys := List.mem_map_of_mem (mem_of_lookup found)
        have unwritten := Arguments.lastWrite_pairs_of_not_setsKey (unset key listed)
        rw [values, unwritten, h.parameters, found]
        rfl
  rw [Request.writing, parameters]
  rfl

/-- With the entries of `m` merged into its file, a command line comes to the request that it comes
to when it gives them itself. -/
theorem outcome_of_merged {m : Dictionary} {r : Request} {t u : Toml.Table}
    (h : outcome files a root = .ok r)
    (sound : ∀ e ∈ m.toList, isBlank e.1 = false ∧ '=' ∉ e.1.toList)
    (unset : ∀ key ∈ m.keys, ¬ a.SetsKey key) (reads : ReadsDocument files a root t)
    (readsToo : ReadsDocument others a other u) (merged : Config.MergedParameters m t u) :
    outcome others a other = .ok (r.writing m.toList) := by
  have filled : ∀ e ∈ m.toList, isBlank e.1 = false := fun e he => (sound e he).1
  obtain ⟨c, loaded, config, arguments, -⟩ := outcome_eq_ok_iff.1 h
  obtain ⟨d, read, differs⟩ := Config.exists_merged_of_readFrom reads.distinct readsToo.distinct
    merged ((configuration_eq_ok_iff reads).1 loaded)
  have loadedToo : configuration others a other = .ok d := (configuration_eq_ok_iff readsToo).2 read
  have same : Config.SameFor (a.adding m.toList) c d := sameFor_of_merged differs sound
  -- What is loaded and which lists are in force does not depend on the parameters of `a`.
  have giving : configuration files (a.adding m.toList) root = .ok c := loaded
  have givingToo : configuration others (a.adding m.toList) other = .ok d := loadedToo
  have configToo : (d.inForce a).faults = [] := same.faults_eq.symm.trans config
  have made : outcome others a other =
      .ok (Request.empty.extended (additions (d.inForce a) a)) :=
    outcome_eq_ok_iff.2 ⟨d, loadedToo, configToo, arguments, rfl⟩
  calc outcome others a other
      = .ok (Request.empty.extended (additions (d.inForce a) a)) := made
    _ = .ok ((Request.empty.extended (additions (d.inForce a) a)).writing m.toList) := by
        rw [writing_eq_self_of_merged differs configToo arguments filled unset]
    _ = outcome others (a.adding m.toList) other := (outcome_adding made sound).symm
    _ = outcome files (a.adding m.toList) root := (outcome_eq_of_sameFor giving givingToo same).symm
    _ = .ok (r.writing m.toList) := outcome_adding h sound

/-- The entries of `m` are given to a launch that comes to the request `r`: on the command line, on
a builder or in the file.  Each way it becomes the request `after`. -/
structure GivenAlike (files : FileSystem) (a : Arguments) (root : Path) (m : Dictionary)
    (r after : Request) : Prop where
  /-- The entries stand over the parameters that there were. -/
  parameters : ∀ key, after.parameters.get? key = (m.get? key).or (r.parameters.get? key)
  rest : after = r.withParameters after.parameters
  commandLine : ∀ entries, entries.Perm m.toList →
    outcome files (a.adding entries) root = .ok after
  builder : ∀ entries, entries.Perm m.toList → ∀ b : Builder, b.contents = r →
    ((setParameters entries).run b).1 = .ok () ∧
      ((setParameters entries).run b).2.contents = after
  document : ∃ t, ReadsDocument files a root t
  /-- In any file whose document is that of the launch with the entries merged into it. -/
  file : (∀ key ∈ m.keys, ¬ a.SetsKey key) → ∀ t, ReadsDocument files a root t →
    ∀ others other u, ReadsDocument others a other u → Config.MergedParameters m t u →
      outcome others a other = .ok after

theorem givenAlike {m : Dictionary} {r : Request} (h : outcome files a root = .ok r)
    (keys : ∀ key ∈ m.keys, isBlank key = false ∧ '=' ∉ key.toList) :
    GivenAlike files a root m r (r.writing m.toList) := by
  have sound : ∀ {entries : List (String × String)}, entries.Perm m.toList →
      ∀ e ∈ entries, isBlank e.1 = false ∧ '=' ∉ e.1.toList := fun order e he =>
    keys e.1 (List.mem_map_of_mem (order.mem_iff.1 he))
  have filled : ∀ {entries : List (String × String)}, entries.Perm m.toList →
      ∀ e ∈ entries, isBlank e.1 = false := fun order e he => (sound order e he).1
  obtain ⟨c, loaded, -⟩ := outcome_eq_ok_iff.1 h
  constructor
  case parameters => exact r.parameters.get?_writeAll_of_perm (filled (.refl _)) (.refl _)
  case rest => rfl
  case commandLine =>
    intro entries order
    rw [outcome_adding h (sound order), r.writing_eq_of_perm (filled order) order]
  case builder =>
    intro entries order b held
    obtain ⟨answer, contents⟩ := run_setParameters (filled order) b
    refine ⟨answer, ?_⟩
    rw [contents, held, r.writing_eq_of_perm (filled order) order]
  case document => exact exists_readsDocument loaded
  case file =>
    intro unset t reads others other u readsToo merged
    exact outcome_of_merged h (sound (.refl _)) unset reads readsToo merged

/-- No key with an equals sign is set on the command line. -/
theorem get?_of_equalsSign {r : Request} (h : outcome files a root = .ok r)
    (loaded : configuration files a root = .ok c) {key : String} (sign : '=' ∈ key.toList) :
    r.parameters.get? key = c.parameters.get? key := by
  obtain ⟨d, loadedToo, config, arguments, rfl⟩ := outcome_eq_ok_iff.1 h
  cases loaded.symm.trans loadedToo
  obtain ⟨-, -, -, -, keys⟩ := a.faults_eq_nil_iff.1 arguments
  have unset : ¬ a.SetsKey key := by
    rintro ⟨raw, -, value, -, free⟩
    exact free sign
  have values := get?_writeAll_additions config keys key
  rw [Arguments.lastWrite_pairs_of_not_setsKey unset, Option.none_or] at values
  exact values

/-- **Parameters mean the same wherever they are given**, if their keys are not blank and free of
equals signs.  On the command line each is one text, which is read whole; a text without an equals
sign is refused. -/
theorem parameters_mean_the_same (files : FileSystem) (a : Arguments) (root : Path) :
    (∀ r m, outcome files a root = .ok r →
      (∀ key ∈ m.keys, isBlank key = false ∧ '=' ∉ key.toList) →
        ∃ after, GivenAlike files a root m r after) ∧
    ((∃ pairs, a.parameters = .ok pairs) ↔ ∀ raw ∈ a.config, '=' ∈ raw.toList) ∧
    (∀ pairs, a.parameters = .ok pairs →
      a.config.Forall₂ (fun raw p => raw = p.1 ++ "=" ++ p.2 ∧ '=' ∉ p.1.toList) pairs) ∧
    (∀ e, a.parameters = .error e ↔ ∃ before raw rest, a.config = before ++ raw :: rest ∧
      (∀ text ∈ before, '=' ∈ text.toList) ∧ '=' ∉ raw.toList ∧ e = .malformedParameter raw) ∧
    ∀ r c, outcome files a root = .ok r → configuration files a root = .ok c →
      ∀ key, '=' ∈ key.toList → r.parameters.get? key = c.parameters.get? key := by
  refine ⟨fun r m h keys => ⟨_, givenAlike h keys⟩, Arguments.exists_parameters_iff,
    fun pairs => Arguments.forall₂_of_parameters, fun e => Arguments.parameters_eq_error_iff,
    fun r c h loaded key sign => get?_of_equalsSign h loaded sign⟩

/-- A value with blanks and an equals sign that replaces one of the file, and an empty one. -/
theorem parameters_mean_the_same_blanks_and_signs :
    let project : String → FileSystem := fun text path =>
      if path == Path.ofText "rlaunch.toml" then .contents (Utf8.encode text) else .missing
    let files := project "engines = ['e']\n[parameters]\nk = 'file'\nl = 'x'\n"
    let others := project "engines = ['e']\n[parameters]\nn = ''\nl = 'x'\nk = 'v = w'\n"
    let a : Arguments := { config := ["j=1=2"] }
    let m : Dictionary := .ofList [("n", ""), ("k", "v = w")]
    (∀ key ∈ m.keys, isBlank key = false ∧ '=' ∉ key.toList) ∧
    (∀ key ∈ m.keys, ¬ a.SetsKey key) ∧
    (∃ r after, outcome files a ⟨[]⟩ = .ok r ∧
      outcome files { a with config := ["j=1=2", "n=", "k=v = w"] } ⟨[]⟩ = .ok after ∧
      (∀ b : Builder, b.contents = r →
        ((setParameters [("k", "v = w"), ("n", "")]).run b).2.contents = after) ∧
      outcome others a ⟨[]⟩ = .ok after ∧
      r.parameters.get? "j=1" = none) ∧
    a.parameters = .ok [("j", "1=2")] ∧
    a.config.Forall₂ (fun raw p => raw = p.1 ++ "=" ++ p.2 ∧ '=' ∉ p.1.toList) [("j", "1=2")] := by
  intro project files others a m
  let t : Toml.Table := [("engines", Config.textArray ["e"]),
    ("parameters", Config.textTable [("k", "file"), ("l", "x")])]
  let u : Toml.Table := [("engines", Config.textArray ["e"]),
    ("parameters", Config.textTable [("n", ""), ("l", "x"), ("k", "v = w")])]
  have reads : ReadsDocument files a ⟨[]⟩ t :=
    .file (fun _ => by decide) (by rfl) (by decide +kernel)
  have readsToo : ReadsDocument others a ⟨[]⟩ u :=
    .file (fun _ => by decide) (by rfl) (by decide +kernel)
  have values : ∀ key, m.get? key =
      if key = "k" then some "v = w" else if key = "n" then some "" else none := by
    intro key
    show ((Dictionary.empty.put "n" "").put "k" "v = w").get? key = _
    rw [Dictionary.get?_put, Dictionary.get?_put]
    rfl
  have merged : Config.MergedParameters m t u := by
    have unique : (t.map Prod.fst).Nodup := by decide
    have table : ("parameters", Config.textTable [("k", "file"), ("l", "x")]) ∈ t :=
      List.mem_cons_of_mem _ List.mem_cons_self
    refine ⟨fun e other => ?_, _, List.mem_cons_of_mem _ List.mem_cons_self, fun key value => ?_⟩
    · have absent : ∀ v, e ≠ ("parameters", v) := fun v same => other (by rw [same])
      simp only [t, u, List.mem_pair, absent, or_false]
    · rw [Config.givesParameter_iff_mem unique table, values]
      by_cases k : key = "k"
      · simp [k, eq_comm]
      · by_cases n : key = "n"
        · simp [n, eq_comm]
        · simp [k, n]
  have keys : ∀ key ∈ m.keys, isBlank key = false ∧ '=' ∉ key.toList := by decide
  have unset : ∀ key ∈ m.keys, ¬ a.SetsKey key := by
    have pairs : a.pairs = [("j", "1=2")] := by decide
    intro key hk
    rw [Arguments.setsKey_iff, pairs]
    rintro ⟨value, written⟩
    cases List.mem_singleton.1 written
    exact absurd hk (by decide)
  have read : a.parameters = .ok [("j", "1=2")] := eq_ok_of_toOption (by decide)
  have accepted : (outcome files a ⟨[]⟩).isOk = true := by decide +kernel
  have loaded : configuration files a ⟨[]⟩ =
      .ok ⟨["e"], [], [], .ofList [("k", "file"), ("l", "x")], []⟩ :=
    eq_ok_of_toOption (by decide +kernel)
  obtain ⟨same, -, whole, -, untouched⟩ := parameters_mean_the_same files a ⟨[]⟩
  refine ⟨keys, unset, ?_, read, whole _ read⟩
  cases h : outcome files a ⟨[]⟩ with
  | error e =>
      rw [h] at accepted
      cases accepted
  | ok r =>
      obtain ⟨after, alike⟩ := same r m h keys
      refine ⟨r, after, rfl, ?_, fun b held => ?_, ?_, ?_⟩
      · exact alike.commandLine [("n", ""), ("k", "v = w")] (by decide)
      · exact (alike.builder [("k", "v = w"), ("n", "")] (by decide) b held).2
      · exact alike.file unset t reads others ⟨[]⟩ u readsToo merged
      · rw [untouched r _ h loaded "j=1" (by decide)]
        decide

end Launch

end TestDiscovery
