/-
# TestDiscovery.Proofs.Launch.Stages -- the stages of a launch

A launch loads a configuration, puts the lists of the command line in force, applies
the configuration, and adds selectors, class name filters and parameters.  For each
stage stands what it may find faulty, in order, and what it adds.

`Config.inForce` and `Launch.configuration` say without records what `overridden`
and `load` come to; the texts of the command line are read by `mapM`, whose first
fault is that of the first text that is refused (`mapM_eq_firstFault`).
-/
import TestDiscovery.Launch
import TestDiscovery.Proofs.Config.Applied

namespace TestDiscovery

set_option autoImplicit false

open TestDiscovery.Text Building

/-! ## Lists of texts -/

theorem mapM_eq_firstFault {β γ ε : Type} {read : β → Except ε γ} {fault : β → ε}
    (h : ∀ x e, read x = .error e → e = fault x) (xs : List β) :
    xs.mapM read = firstFault (refusals (fun x => (read x).isOk) fault xs)
      (xs.filterMap fun x => (read x).toOption) := by
  induction xs with
  | nil => rfl
  | cons x xs ih =>
      cases hx : read x with
      | error e =>
          have refused : refusals (fun x => (read x).isOk) fault (x :: xs) =
              fault x :: refusals (fun x => (read x).isOk) fault xs :=
            refusals_cons_of_not_accepts (by rw [hx]; rfl) fault xs
          rw [List.mapM_cons, hx, refused, firstFault, h x e hx]
          rfl
      | ok y =>
          have accepted : refusals (fun x => (read x).isOk) fault (x :: xs) =
              refusals (fun x => (read x).isOk) fault xs :=
            refusals_cons_of_accepts (by rw [hx]; rfl) fault xs
          have kept : (x :: xs).filterMap (fun x => (read x).toOption) =
              y :: xs.filterMap fun x => (read x).toOption :=
            List.filterMap_cons_some (by rw [hx]; rfl)
          rw [List.mapM_cons, hx, ih, accepted, kept]
          cases refusals (fun x => (read x).isOk) fault xs with
          | nil => rfl
          | cons e faults => rfl

/-! ## Loading -/

namespace Config

/-- The configuration of the file at a path. -/
def inFile (files : FileSystem) (path : Path) : Except ConfigFault Config :=
  match (files path).text with
  | .error cause => .error (.unreadable path cause)
  | .ok text =>
    match ofText? text with
    | none => .error (.unparsable path)
    | some c => .ok c

theorem finds_ofFile (files : FileSystem) (path : Path) :
    Finds (ofFile files path) (inFile files path) := by
  unfold ofFile inFile
  cases (files path).text with
  | error cause => exact finds_ofExcept (.error (ConfigFault.unreadable path cause))
  | ok text =>
      simp only [parse]
      cases ofText? text with
      | none => exact finds_ofExcept (.error (ConfigFault.unparsable path))
      | some c =>
          have noted : Finds (c.unknownKeys.forM fun key => note (.unknownKey key path) :
              Building ConfigFault Unit) (.ok ()) :=
            finds_forM (fun key => finds_note (.unknownKey key path)) c.unknownKeys
          exact noted.bind (finds_ofExcept (.ok c))

/-- The configuration with the lists that a command line gives in place of its own. -/
def inForce (c : Config) (a : Arguments) : Config :=
  { c with
    engines := Launch.effective c.engines a.engines
    includeTags := Launch.effective c.includeTags a.includeTags
    excludeTags := Launch.effective c.excludeTags a.excludeTags }

end Config

namespace Launch

/-- The configuration of a launch: that of the given file, else that of the project's file if
there is one, else the empty one. -/
def configuration (files : FileSystem) (a : Arguments) (root : Path) : Except ConfigFault Config :=
  match a.configFile with
  | some path => Config.inFile files path
  | none =>
    if (files (root.join Config.fileName)).isFile then
      Config.inFile files (root.join Config.fileName)
    else .ok .empty

theorem finds_load (files : FileSystem) (a : Arguments) (root : Path) :
    Finds (load files a root) (configuration files a root) := by
  unfold load configuration
  cases a.configFile with
  | some path => exact Config.finds_ofFile files path
  | none =>
      simp only [Config.ofProject]
      cases (files (root.join Config.fileName)).isFile with
      | true =>
          exact (finds_note (.loadingConfiguration _)).bind (Config.finds_ofFile files _)
      | false =>
          exact (finds_note (.noConfiguration _ root)).bind (finds_ofExcept (.ok Config.empty))

variable {ε : Type}

theorem finds_override (list : DefaultList) (defaults given : List String) :
    Finds (override list defaults given : Building ε (List String))
      (.ok (effective defaults given)) := by
  unfold override
  split
  · exact (finds_note _).bind (finds_ofExcept (.ok _))
  · exact finds_ofExcept (.ok _)

theorem finds_overridden (c : Config) (a : Arguments) :
    Finds (overridden c a : Building ε Config) (.ok (c.inForce a)) :=
  (finds_override .engines _ _).bind ((finds_override .includeTags _ _).bind
    ((finds_override .excludeTags _ _).bind (finds_ofExcept (.ok _))))

end Launch

/-! ## Texts that are refused -/

theorem MethodSelector.eq_of_parse_eq_error {t : String} {e : RequestFault}
    (h : parse t = .error e) : e = .malformedMethod t := by
  unfold parse at h
  split at h
  · cases h
  · cases h
    rfl

theorem ClassNameFilter.eq_of_ofPattern_eq_error {mode : FilterMode} {pattern : String}
    {e : RequestFault} (h : ofPattern mode pattern = .error e) : e = .malformedPattern pattern := by
  unfold ofPattern at h
  split at h
  · cases h
  · cases h
    rfl

theorem Arguments.eq_of_parameter_eq_error {raw : String} {e : LaunchFault}
    (h : parameter raw = .error e) : e = .malformedParameter raw := by
  unfold parameter at h
  split at h
  · cases h
  · cases h
    rfl

/-! ## Selectors and class name filters -/

namespace Arguments

/-- The faults of the texts of methods: those that are not read. -/
def methodFaults (a : Arguments) : List RequestFault :=
  refusals (fun t => (MethodSelector.parse t).isOk) .malformedMethod a.methods

/-- The selectors of the command line, kind by kind. -/
def selectors (a : Arguments) : List Selector :=
  a.packages.map .package ++ (a.classes.map .className ++
    ((a.methods.filterMap fun t => (MethodSelector.parse t).toOption).map .method ++
      (a.paths.map .path ++ a.uniqueIds.map .uniqueId)))

/-- The faults of class name patterns: those that are not read. -/
def patternFaults (mode : FilterMode) (patterns : List String) : List RequestFault :=
  refusals (fun p => (ClassNameFilter.ofPattern mode p).isOk) .malformedPattern patterns

/-- The filters of class name patterns, up to the first that is not read. -/
def patternFilters (mode : FilterMode) (patterns : List String) : List Filter :=
  (patterns.takeWhile fun p => (ClassNameFilter.ofPattern mode p).isOk).flatMap fun p =>
    ((ClassNameFilter.ofPattern mode p).toOption.map fun f => .discovery (.className f)).toList

end Arguments

namespace Launch

theorem adds_selectAll (a : Arguments) :
    Adds (selectAll a) a.methodFaults (fun _ => ())
      ((Additions.ofSelectors a.selectors).barring a.methodFaults) := by
  have read : a.methods.mapM MethodSelector.parse = firstFault a.methodFaults
      (a.methods.filterMap fun t => (MethodSelector.parse t).toOption) :=
    mapM_eq_firstFault (fun _ _ => MethodSelector.eq_of_parse_eq_error) a.methods
  have selected : ∀ methods : List MethodSelector, Adds
      (do
        select (a.packages.map .package)
        select (a.classes.map .className)
        select (methods.map .method)
        select (a.paths.map .path)
        select (a.uniqueIds.map .uniqueId) : Building RequestFault Unit)
      [] (fun _ => ())
      (.ofSelectors (a.packages.map .package ++ (a.classes.map .className ++
        (methods.map .method ++ (a.paths.map .path ++ a.uniqueIds.map .uniqueId))))) := by
    intro methods
    exact (adds_select _).seq ((adds_select _).seq ((adds_select _).seq
      ((adds_select _).seq (adds_select _))))
  have all : Adds (selectAll a) (a.methodFaults ++ []) (fun _ => ())
      (.nothing ++ (Additions.ofSelectors a.selectors).barring a.methodFaults) := by
    rw [selectAll, read]
    exact (adds_ofExcept_firstFault _ _).bind selected
  rwa [List.append_nil, Additions.nothing_append] at all

theorem adds_filterClassName_forM (mode : FilterMode) (patterns : List String) :
    Adds (patterns.forM (filterClassName mode)) (Arguments.patternFaults mode patterns)
      (fun _ => ()) (.ofFilters (Arguments.patternFilters mode patterns)) := by
  unfold Arguments.patternFilters
  rw [← total_ofFilters]
  refine adds_forM (fun p accepted => ?_) (fun p refused => ?_) patterns
  · cases made : ClassNameFilter.ofPattern mode p with
    | error e =>
        rw [made] at accepted
        cases accepted
    | ok f =>
        rw [filterClassName, made]
        exact adds_store _
  · cases made : ClassNameFilter.ofPattern mode p with
    | error e =>
        rw [filterClassName, made, ClassNameFilter.eq_of_ofPattern_eq_error made]
        exact (finds_ofExcept _).refused _ _
    | ok f =>
        rw [made] at refused
        cases refused

theorem adds_filterClassNames (a : Arguments) :
    Adds (filterClassNames a)
      (Arguments.patternFaults .include a.includeClassNames ++
        Arguments.patternFaults .exclude a.excludeClassNames) (fun _ => ())
      (.ofFilters (Arguments.patternFilters .include a.includeClassNames) ++
        (Additions.ofFilters (Arguments.patternFilters .exclude a.excludeClassNames)).barring
          (Arguments.patternFaults .include a.includeClassNames)) :=
  (adds_filterClassName_forM .include a.includeClassNames).seq
    (adds_filterClassName_forM .exclude a.excludeClassNames)

end Launch

/-! ## Parameters -/

namespace Arguments

theorem isOk_parameter (raw : String) : (parameter raw).isOk = raw.toList.contains '=' := by
  unfold parameter
  cases h : cutAt '=' raw.toList with
  | none =>
      have free : '=' ∉ raw.toList := (cutAt_eq_none_iff '=' raw.toList).1 h
      simpa [Except.isOk, Except.toBool] using free
  | some parts =>
      obtain ⟨key, value⟩ := parts
      have cut := (eq_append_of_cutAt h).1
      have here : '=' ∈ raw.toList := by rw [cut]; simp
      simpa [Except.isOk, Except.toBool] using here

/-- The faults of the texts of parameters: those without an equals sign. -/
def parameterFaults (a : Arguments) : List LaunchFault :=
  refusals (fun raw => raw.toList.contains '=') .malformedParameter a.config

/-- The parameters of the texts with an equals sign. -/
def pairs (a : Arguments) : List (String × String) :=
  a.config.filterMap fun raw => (parameter raw).toOption

theorem parameters_eq (a : Arguments) : a.parameters = firstFault a.parameterFaults a.pairs := by
  unfold parameterFaults
  rw [← funext isOk_parameter]
  exact mapM_eq_firstFault (fun _ _ => eq_of_parameter_eq_error) a.config

end Arguments

end TestDiscovery
