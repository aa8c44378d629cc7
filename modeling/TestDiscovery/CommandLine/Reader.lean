/-
# TestDiscovery.CommandLine.Reader -- reading a command line

An option is written by its name, or `-c` for `--config`.  A value follows an
equals sign or stands in the next argument, where it may not start with a hyphen
unless it is a hyphen alone.  Values are kept until the next option or the end
settles them, so a fault in an option that is not known comes before faults in
values that wait.
-/
import TestDiscovery.CommandLine.Arguments

namespace TestDiscovery

set_option autoImplicit false

open TestDiscovery.Text

/-- Why a command line is not read to its end. -/
inductive Refusal where
  | unknownArgument
  | invalidValue
  | argumentConflict
  | tooManyValues
  | invalidUtf8
  | displayHelp
  | displayVersion
  deriving DecidableEq, Repr

/-- The exit code that goes with a refusal: asking for help is no failure. -/
def Refusal.exitCode : Refusal → Nat
  | .displayHelp | .displayVersion => 0
  | _ => 2

/-- An argument as it is given. -/
abbrev RawArgument := List UInt8

/-! ## Options -/

/-- The options that take one value at a time. -/
inductive ListOption where
  | package
  | className
  | method
  | path
  | uniqueId
  | engine
  | includeClassName
  | excludeClassName
  | includeTag
  | excludeTag
  deriving DecidableEq, Repr

/-- The options that take values. -/
inductive ValueOption where
  | list (o : ListOption)
  | config
  | configFile
  deriving DecidableEq, Repr

/-- The options. -/
inductive CommandOption where
  | value (o : ValueOption)
  | json
  | help
  | version
  deriving DecidableEq, Repr

/-- The name of an option after its two hyphens. -/
def CommandOption.name : CommandOption → String
  | .value (.list .package) => "select-package"
  | .value (.list .className) => "select-class"
  | .value (.list .method) => "select-method"
  | .value (.list .path) => "select-path"
  | .value (.list .uniqueId) => "select-unique-id"
  | .value (.list .engine) => "include-engine"
  | .value (.list .includeClassName) => "include-classname"
  | .value (.list .excludeClassName) => "exclude-classname"
  | .value (.list .includeTag) => "include-tag"
  | .value (.list .excludeTag) => "exclude-tag"
  | .value .config => "config"
  | .value .configFile => "config-file"
  | .json => "json"
  | .help => "help"
  | .version => "version"

/-- All options. -/
def CommandOption.all : List CommandOption :=
  [ .value (.list .package), .value (.list .className), .value (.list .method),
    .value (.list .path), .value (.list .uniqueId), .value (.list .engine),
    .value (.list .includeClassName), .value (.list .excludeClassName),
    .value (.list .includeTag), .value (.list .excludeTag), .value .config, .value .configFile,
    .json, .help, .version ]

/-- The option of a name. -/
def CommandOption.ofName? (name : RawArgument) : Option CommandOption :=
  CommandOption.all.find? fun o => Utf8.encode o.name == name

/-- The option of a letter after one hyphen. -/
def CommandOption.ofLetter? (letter : UInt8) : Option CommandOption :=
  if letter = 'c'.toUInt8 then some (.value .config)
  else if letter = 'h'.toUInt8 then some .help
  else if letter = 'V'.toUInt8 then some .version
  else none

/-! ## Values -/

/-- A value that is a text. -/
def textValue (raw : RawArgument) : Except Refusal String :=
  match Utf8.decode? raw with
  | some s => .ok s
  | none => .error .invalidUtf8

/-- A value that is a path, which is not empty. -/
def pathValue (raw : RawArgument) : Except Refusal Path :=
  if raw = [] then .error .invalidValue else .ok ⟨raw⟩

/-- The arguments with one more value of an option. -/
def Arguments.append (a : Arguments) (o : ListOption) (raw : RawArgument) :
    Except Refusal Arguments :=
  match o with
  | .path => do return { a with paths := a.paths ++ [← pathValue raw] }
  | .package => do return { a with packages := a.packages ++ [← textValue raw] }
  | .className => do return { a with classes := a.classes ++ [← textValue raw] }
  | .method => do return { a with methods := a.methods ++ [← textValue raw] }
  | .uniqueId => do return { a with uniqueIds := a.uniqueIds ++ [← textValue raw] }
  | .engine => do return { a with engines := a.engines ++ [← textValue raw] }
  | .includeClassName => do
    return { a with includeClassNames := a.includeClassNames ++ [← textValue raw] }
  | .excludeClassName => do
    return { a with excludeClassNames := a.excludeClassNames ++ [← textValue raw] }
  | .includeTag => do return { a with includeTags := a.includeTags ++ [← textValue raw] }
  | .excludeTag => do return { a with excludeTags := a.excludeTags ++ [← textValue raw] }

/-- The arguments after an occurrence of an option with its values. -/
def Arguments.settle (a : Arguments) (o : ValueOption) (values : List RawArgument) :
    Except Refusal Arguments :=
  match o, values with
  | .config, values => do return { a with config := a.config ++ (← values.mapM textValue) }
  | .list o, [raw] => a.append o raw
  | .configFile, [raw] =>
    if a.configFile.isSome then .error .argumentConflict
    else do return { a with configFile := some (← pathValue raw) }
  | _, _ => .error .invalidValue

/-! ## The walk over the arguments -/

/-- An option whose values may still come. -/
structure Waiting where
  option : ValueOption
  values : List RawArgument
  /-- The next argument is a value if it looks like one. -/
  takesMore : Bool
  deriving Repr

/-- The values settled so far, and the option that waits. -/
structure ReadState where
  arguments : Arguments
  waiting : Option Waiting

namespace ReadState

/-- The state before the first argument. -/
def start : ReadState := ⟨{}, none⟩

/-- Settle the option that waits. -/
def settled (st : ReadState) : Except Refusal Arguments :=
  match st.waiting with
  | none => .ok st.arguments
  | some w => st.arguments.settle w.option w.values

/-- Read an option without a value beside it. -/
def bare (st : ReadState) (o : CommandOption) : Except Refusal ReadState := do
  let a ← st.settled
  match o with
  | .value o => return ⟨a, some ⟨o, [], true⟩⟩
  | .json => if a.json then throw .argumentConflict else return ⟨{ a with json := true }, none⟩
  | .help => throw .displayHelp
  | .version => throw .displayVersion

/-- Read an option with a value beside it. -/
def attached (st : ReadState) (o : CommandOption) (raw : RawArgument) :
    Except Refusal ReadState :=
  match o with
  | .value o => do
    let a ← st.settled
    return ⟨← a.settle o [raw], none⟩
  | _ => .error .tooManyValues

/-- Read an option by its name, after its two hyphens. -/
def named (st : ReadState) (raw : RawArgument) : Except Refusal ReadState :=
  let name := raw.takeWhile (· != '='.toUInt8)
  match CommandOption.ofName? name with
  | none => .error .unknownArgument
  | some o =>
    match raw.drop name.length with
    | [] => st.bare o
    | _ :: value => st.attached o value

/-- Read the letters after one hyphen; the rest after a letter with values is a value, where one
equals sign may come first. -/
def letters (st : ReadState) : RawArgument → Except Refusal ReadState
  | [] => .ok st
  | letter :: rest =>
    match CommandOption.ofLetter? letter with
    | none => .error .unknownArgument
    | some (.value o) =>
      match rest with
      | [] => st.bare (.value o)
      | first :: value =>
        st.attached (.value o) (if first = '='.toUInt8 then value else rest)
    | some o => do (← st.bare o).letters rest

/-- Read an argument that is no option: a value of the option that waits. -/
def plain (st : ReadState) (raw : RawArgument) : Except Refusal ReadState :=
  match st.waiting with
  | some w =>
    if w.takesMore then
      .ok { st with
        waiting := some { w with values := w.values ++ [raw], takesMore := w.option == .config } }
    else .error .unknownArgument
  | none => .error .unknownArgument

/-- Read one argument. -/
def argument (st : ReadState) (raw : RawArgument) : Except Refusal ReadState :=
  let hyphen := '-'.toUInt8
  match raw with
  | first :: second :: rest =>
    if first = hyphen then
      if second = hyphen then st.named rest else st.letters (second :: rest)
    else st.plain raw
  | _ => st.plain raw

/-- Read arguments up to the end, or up to two hyphens alone, after which none may follow. -/
def read (st : ReadState) : List RawArgument → Except Refusal Arguments
  | [] => st.settled
  | raw :: rest =>
    if raw = ['-'.toUInt8, '-'.toUInt8] then
      if rest.isEmpty then st.settled else .error .unknownArgument
    else do (← st.argument raw).read rest

end ReadState

/-- What a command line asks for. -/
def Arguments.read (raw : List RawArgument) : Except Refusal Arguments := ReadState.start.read raw

end TestDiscovery
