/-
# TestDiscovery.Config -- defaults from a configuration file

A configuration file is a TOML document.  It may give the ids of engines, tags to
include and to exclude, and a table of parameters; under any other key it may hold
what it likes, which is recorded and ignored.  Applying a configuration adds its
filters and parameters to a request.
-/
import TestDiscovery.Request.Builder
import TestDiscovery.Toml.Document

namespace TestDiscovery

set_option autoImplicit false

/-- The defaults of a file, with the keys that have no meaning, in ascending order.  What a file
holds under such a key is read and dropped, so configurations that differ only there are equal. -/
structure Config where
  engines : List String
  includeTags : List String
  excludeTags : List String
  parameters : Dictionary
  unknownKeys : List String
  deriving DecidableEq, Repr

namespace Config

/-- The name of the configuration file in a project. -/
def fileName : String := "rlaunch.toml"

/-- The configuration that says nothing. -/
def empty : Config := ⟨[], [], [], .empty, []⟩

/-! ## Reading -/

/-- The key under which a table holds the text of a date-time. -/
def dateTimeKey : String := "$__toml_private_datetime"

/-- A value that is a text. -/
def text? : Toml.Value → Option String
  | .string s => some s
  | _ => none

/-- A value that is a list of texts. -/
def texts? : Toml.Value → Option (List String)
  | .array items => items.mapM text?
  | _ => none

/-- An entry whose value is a text. -/
def textEntry? (entry : String × Toml.Value) : Option (String × String) :=
  (text? entry.2).map fun s => (entry.1, s)

/-- A value that is a table of texts.  A date-time counts as a table of its written form. -/
def textTable? : Toml.Value → Option Dictionary
  | .table entries => (entries.mapM textEntry?).map Dictionary.ofList
  | .dateTime d => some (.ofList [(dateTimeKey, d.text)])
  | _ => none

mutual

/-- The value can be taken in without being understood.  A table that starts with the key of
date-times must be the text of one. -/
def isAcceptable : Toml.Value → Bool
  | .array items => areAcceptable items
  | .table [] => true
  | .table ((key, v) :: rest) =>
    if key = dateTimeKey then
      rest.isEmpty && (match v with
        | .string s => (Toml.DateTime.read? .embedded s.toList).isSome
        | _ => false)
    else isAcceptable v && areAcceptableEntries rest
  | _ => true

/-- All values of an array can be taken in. -/
def areAcceptable : List Toml.Value → Bool
  | [] => true
  | v :: rest => isAcceptable v && areAcceptable rest

/-- All values of a table can be taken in. -/
def areAcceptableEntries : List (String × Toml.Value) → Bool
  | [] => true
  | (_, v) :: rest => isAcceptable v && areAcceptableEntries rest

end

/-- The keys with a meaning. -/
def knownKeys : List String := ["engines", "include-tags", "exclude-tags", "parameters"]

/-- What a key of a table holds, read by `read`; `absent` when there is no such key. -/
def field? {α : Type} (table : Toml.Table) (key : String) (absent : α)
    (read : Toml.Value → Option α) : Option α :=
  match table.lookup key with
  | none => some absent
  | some v => read v

/-- The configuration that a document holds. -/
def ofTable? (table : Toml.Table) : Option Config := do
  let engines ← field? table "engines" [] texts?
  let includeTags ← field? table "include-tags" [] texts?
  let excludeTags ← field? table "exclude-tags" [] texts?
  let parameters ← field? table "parameters" .empty textTable?
  let unknown := table.filter fun (key, _) => !knownKeys.contains key
  if unknown.all fun (_, v) => isAcceptable v then
    some { engines, includeTags, excludeTags, parameters
           unknownKeys := (unknown.map Prod.fst).mergeSort fun a b => a ≤ b }
  else none

/-- The configuration that a text writes. -/
def ofText? (text : String) : Option Config := do ofTable? (← Toml.parse? text)

/-- The configuration that a text writes; `origin` only names the text. -/
def parse (text : String) (origin : Path) : Building ConfigFault Config :=
  match ofText? text with
  | none => throw (.unparsable origin)
  | some c => do
    c.unknownKeys.forM fun key => Building.note (.unknownKey key origin)
    return c

/-! ## Finding the file -/

/-- The configuration of the file at a path. -/
def ofFile (files : FileSystem) (path : Path) : Building ConfigFault Config :=
  match (files path).text with
  | .ok text => parse text path
  | .error cause => throw (.unreadable path cause)

/-- The configuration of a project: that of its configuration file, if it has one. -/
def ofProject (files : FileSystem) (root : Path) : Building ConfigFault Config := do
  let path := root.join fileName
  if (files path).isFile then
    Building.note (.loadingConfiguration path)
    ofFile files path
  else
    Building.note (.noConfiguration fileName root)
    return empty

/-! ## Applying -/

/-- Add an engine filter for an id. -/
def applyEngine (id : String) : Building RequestFault Unit := do
  Building.store (.engine (← Building.ofExcept (EngineFilter.ofId id)))

/-- Add a tag filter for a list of tags, unless the list is empty. -/
def applyTags (mode : FilterMode) (tags : List String) : Building RequestFault Unit :=
  if tags.isEmpty then pure ()
  else do
    Building.store (.postDiscovery (.tags (← Building.ofExcept (TagFilter.ofTags mode tags))))

/-- Add the filters and parameters: engines, tags to include, tags to exclude, parameters. -/
def applyParts (c : Config) : Building RequestFault Unit := do
  c.engines.forM applyEngine
  applyTags .include c.includeTags
  applyTags .exclude c.excludeTags
  Building.setParameters c.parameters.toList

/-- Add the filters and parameters. -/
def apply (c : Config) : Building ConfigFault Unit := Building.widen .request c.applyParts

end Config

end TestDiscovery
