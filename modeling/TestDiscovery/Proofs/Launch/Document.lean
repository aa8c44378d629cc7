/-
# TestDiscovery.Proofs.Launch.Document -- the document that a launch reads

The configuration of a launch is what one document holds: that of the file that the
command line names, or else that of the project's file.  A project without the file
counts as one with an empty document, so every launch with a configuration has one
(`Launch.exists_readsDocument`), and which file it stands in makes no difference.
-/
import TestDiscovery.Proofs.Config.Fields
import TestDiscovery.Proofs.Launch.Stages

namespace TestDiscovery

set_option autoImplicit false

namespace Launch

variable {files : FileSystem} {a : Arguments} {root : Path} {c : Config}

/-- The document that a launch takes its configuration from.  A project without a file counts as
one with an empty document. -/
inductive ReadsDocument (files : FileSystem) (a : Arguments) (root : Path) : Toml.Table → Prop where
  | file {text : String} {t : Toml.Table}
    (present : a.configFile = none → (files (configPath a root)).isFile = true)
    (contents : (files (configPath a root)).text = .ok text)
    (document : Toml.parse? text = some t) : ReadsDocument files a root t
  | missing (unnamed : a.configFile = none)
    (absent : (files (configPath a root)).isFile = false) : ReadsDocument files a root []

theorem ReadsDocument.distinct {t : Toml.Table} (h : ReadsDocument files a root t) :
    (Toml.Value.table t).Distinct := by
  cases h with
  | file present contents document => exact Toml.distinct_of_parse? document
  | missing unnamed absent => exact Toml.Value.distinct_table_iff.2 ⟨.nil, nofun⟩

theorem inFile_of_document {path : Path} {text : String} {t : Toml.Table}
    (contents : (files path).text = .ok text) (document : Toml.parse? text = some t) :
    Config.inFile files path = .ok c ↔ Config.ReadFrom t c := by
  rw [← Config.ofText?_eq_some_iff document, Config.inFile, contents]
  dsimp only
  cases Config.ofText? text with
  | none => exact iff_of_false nofun nofun
  | some d => rw [Except.ok.injEq, Option.some.injEq]

theorem readFrom_nil_iff : Config.ReadFrom [] c ↔ Config.empty = c := by
  have read : Config.ofTable? [] = some .empty := by
    simp [Config.ofTable?, Config.field?, Config.empty]
  rw [← Config.ofTable?_eq_some_iff, read, Option.some.injEq]

/-- The configuration of a launch is what its document holds. -/
theorem configuration_eq_ok_iff {t : Toml.Table} (h : ReadsDocument files a root t) :
    configuration files a root = .ok c ↔ Config.ReadFrom t c := by
  unfold configuration
  cases h with
  | file present contents document =>
      cases named : a.configFile with
      | some path =>
          rw [configPath, named, Option.getD_some] at contents
          exact inFile_of_document contents document
      | none =>
          have found := present named
          rw [configPath, named, Option.getD_none] at contents found
          dsimp only
          rw [if_pos found]
          exact inFile_of_document contents document
  | missing unnamed absent =>
      rw [configPath, unnamed, Option.getD_none] at absent
      rw [unnamed]
      dsimp only
      rw [absent, if_neg Bool.false_ne_true, Except.ok.injEq, readFrom_nil_iff]

theorem exists_document_of_inFile {path : Path} (h : Config.inFile files path = .ok c) :
    ∃ text t, (files path).text = .ok text ∧ Toml.parse? text = some t := by
  unfold Config.inFile at h
  split at h
  · cases h
  · rename_i text contents
    split at h
    · cases h
    · rename_i d read
      obtain ⟨t, document, -⟩ := Option.bind_eq_some_iff.1 read
      exact ⟨text, t, contents, document⟩

/-- A launch with a configuration has a document. -/
theorem exists_readsDocument (h : configuration files a root = .ok c) :
    ∃ t, ReadsDocument files a root t := by
  unfold configuration at h
  cases named : a.configFile with
  | some path =>
      rw [named] at h
      obtain ⟨text, t, contents, document⟩ := exists_document_of_inFile h
      refine ⟨t, .file (fun unnamed => ?_) (by rwa [configPath, named]) document⟩
      rw [unnamed] at named
      cases named
  | none =>
      rw [named] at h
      dsimp only at h
      split at h
      · rename_i present
        obtain ⟨text, t, contents, document⟩ := exists_document_of_inFile h
        exact ⟨t, .file (fun _ => by rwa [configPath, named]) (by rwa [configPath, named]) document⟩
      · rename_i absent
        exact ⟨[], .missing named (by rw [configPath, named]; simpa using absent)⟩

end Launch

end TestDiscovery
