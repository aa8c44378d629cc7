/-
# TestDiscovery.Proofs.Config.Endings -- how far a configuration is applied

Applying a configuration goes through its engines, its tags to include, its tags to
exclude and its parameters, and stops at the first fault.  `Config.Ends` lists the ways in
which this can end, each with what has been gained by then; the parameters come in the
order of their keys, so those gained are the ones with a key before the least blank key.

`Ends.faults_and_additions` ties each ending to the faults and additions of the
configuration, `exists_ends` says that one of them comes about, and `Gains.Gained` says
what is gained and that all else stays as it was.
-/
import TestDiscovery.Proofs.Config.Applied
import TestDiscovery.Proofs.Text.ByteOrder

namespace TestDiscovery

set_option autoImplicit false

open TestDiscovery.Text Building

/-! ## What a request gains -/

/-- Engine filters, tag filters, and values under keys. -/
structure Gains where
  engines : List EngineFilter
  tags : List PostDiscoveryFilter
  values : String → Option String

/-- The filters were appended to their buckets and the values were laid over the parameters;
everything else is as it was. -/
structure Gains.Gained (g : Gains) (before after : Request) : Prop where
  selectors : after.selectors = before.selectors
  engineFilters : after.engineFilters = before.engineFilters ++ g.engines
  discoveryFilters : after.discoveryFilters = before.discoveryFilters
  postDiscoveryFilters : after.postDiscoveryFilters = before.postDiscoveryFilters ++ g.tags
  parameters : ∀ key, after.parameters.get? key = (g.values key).or (before.parameters.get? key)

/-- The additions amount to the gains. -/
structure Gains.AddedBy (g : Gains) (a : Additions) : Prop where
  filters : a.filters = g.engines.map .engine ++ g.tags.map .postDiscovery
  values : ∀ key, lastWrite a.writes key = g.values key

theorem Gains.AddedBy.gained {g : Gains} {a : Additions} (h : g.AddedBy a)
    (selectors : a.selectors = []) (filled : ∀ w ∈ a.writes, isBlank w.1 = false) (r : Request) :
    g.Gained r (r.extended a) := by
  have kinds := Filter.filterMap_kinds g.engines g.tags []
  simp only [List.map_nil, List.append_nil, ← h.filters] at kinds
  obtain ⟨engines, tags, discoveries⟩ := kinds
  constructor
  case selectors => rw [Request.extended, selectors, List.append_nil]
  case engineFilters => rw [Request.extended, engines]
  case discoveryFilters => rw [Request.extended, discoveries, List.append_nil]
  case postDiscoveryFilters => rw [Request.extended, tags]
  case parameters =>
    intro key
    rw [Request.extended, Parameters.get?_writeAll r.parameters filled, h.values]

/-! ## Blank keys of a dictionary -/

namespace Dictionary

variable {d : Dictionary}

/-- The least of the blank keys, by bytes. -/
structure LeastBlank (d : Dictionary) (least : String) : Prop where
  among : least ∈ d.keys
  blank : isBlank least = true
  first : ∀ key ∈ d.keys, isBlank key = true → ¬ Utf8.encode key < Utf8.encode least

/-- The first blank key is the least, and before it stand the entries with smaller keys. -/
theorem leastBlank_of_split {front rest : List (String × String)} {w : String × String}
    (split : d.toList = front ++ w :: rest) (filled : ∀ v ∈ front, isBlank v.1 = false)
    (blank : isBlank w.1 = true) : d.LeastBlank w.1 ∧
      ∀ key, front.lookup key =
        if Utf8.encode key < Utf8.encode w.1 then d.get? key else none := by
  have keys : d.keys = (front ++ w :: rest).map Prod.fst := by rw [← split]; rfl
  have ascending : (front ++ w :: rest).Pairwise fun v u => v.1 < u.1 := split ▸ d.ascending
  obtain ⟨-, behind, across⟩ := List.pairwise_append.1 ascending
  obtain ⟨greater, -⟩ := List.pairwise_cons.1 behind
  refine ⟨⟨by rw [keys]; simp, blank, fun key hk empty => ?_⟩, fun key => ?_⟩
  · rw [Utf8.encode_lt_encode_iff]
    rw [keys] at hk
    obtain ⟨v, hv, rfl⟩ := List.mem_map.1 hk
    rcases List.mem_append.1 hv with inFront | later
    · rw [filled v inFront] at empty
      cases empty
    · rcases List.mem_cons.1 later with rfl | later
      · exact String.lt_irrefl _
      · exact String.lt_asymm (greater v later)
  · have found : d.get? key = (front.lookup key).or ((w :: rest).lookup key) := by
      rw [get?, ← List.lookup_append, ← split]
      rfl
    simp only [Utf8.encode_lt_encode_iff, found]
    split
    · rename_i less
      have absent : (w :: rest).lookup key = none := lookup_of_forall_lt fun v hv => by
        rcases List.mem_cons.1 hv with rfl | later
        · exact less
        · exact String.lt_trans less (greater v later)
      rw [absent, Option.or_none]
    · rename_i notLess
      rw [lookup_eq_none_iff_not_mem]
      rintro inFront
      obtain ⟨v, hv, rfl⟩ := List.mem_map.1 inFront
      exact notLess (across v hv w List.mem_cons_self)

theorem LeastBlank.eq {least other : String} (h : d.LeastBlank least) (k : d.LeastBlank other) :
    least = other := by
  have notLess := h.first other k.among k.blank
  have notGreater := k.first least h.among h.blank
  rw [Utf8.encode_lt_encode_iff] at notLess notGreater
  exact String.le_antisymm (String.not_lt.1 notLess) (String.not_lt.1 notGreater)

theorem filled_or_leastBlank (d : Dictionary) :
    (∀ key ∈ d.keys, isBlank key = false) ∨ ∃ least, d.LeastBlank least := by
  rcases accepted_or_split (fun w => !isBlank w.1) d.toList with filled | ⟨front, w, rest, split,
    before, blank⟩
  · refine .inl fun key hk => ?_
    obtain ⟨w, hw, rfl⟩ := List.mem_map.1 hk
    simpa using filled w hw
  · exact .inr ⟨w.1, (leastBlank_of_split split (by simpa using before) (by simpa using blank)).1⟩

/-- **Writing the entries in order stops at the least blank key.** -/
theorem LeastBlank.writes {least : String} (h : d.LeastBlank least) :
    (∃ others, writeFaults d.toList = .blankParameterKey :: others) ∧
    ∀ key, lastWrite (accepted d.toList) key =
      if Utf8.encode key < Utf8.encode least then d.get? key else none := by
  rcases accepted_or_split (fun w => !isBlank w.1) d.toList with filled | ⟨front, w, rest, split,
    before, blank⟩
  · obtain ⟨w, hw, rfl⟩ := List.mem_map.1 h.among
    have sound := filled w hw
    rw [h.blank] at sound
    cases sound
  · obtain ⟨other, values⟩ :=
      leastBlank_of_split split (by simpa using before) (by simpa using blank)
    rw [h.eq other, split]
    refine ⟨⟨_, refusals_split before blank _ rest⟩, fun key => ?_⟩
    have ascending : front.Pairwise fun v u => v.1 < u.1 := by
      have all : (front ++ w :: rest).Pairwise fun v u => v.1 < u.1 := split ▸ d.ascending
      exact (List.pairwise_append.1 all).1
    rw [accepted, takeWhile_split before blank, lastWrite_of_ascending ascending, values]

end Dictionary

namespace Config

/-! ## Lists of tags -/

/-- An empty list of tags gives nothing; any other gives the filter of its tags that are not blank,
trimmed. -/
inductive GivesTags (mode : FilterMode) : List String → List PostDiscoveryFilter → Prop where
  | absent : GivesTags mode [] []
  | filter {tags : List String} (some_ : ∃ tag ∈ tags, isBlank tag = false) :
    GivesTags mode tags [.tags ⟨(tags.filter fun tag => !isBlank tag).map trim, mode⟩]

theorem tagFaults_eq_nil_iff {tags : List String} :
    tagFaults tags = [] ↔ tags = [] ∨ ∃ tag ∈ tags, isBlank tag = false := by
  rw [tagFaults]
  split
  · rename_i hollow
    obtain ⟨some_, blank⟩ := hollow
    simpa [some_] using blank
  · rename_i sound
    simpa [or_iff_not_imp_left] using sound

variable {mode : FilterMode} {tags : List String} {filters : List PostDiscoveryFilter}

theorem GivesTags.tagFaults_eq (h : GivesTags mode tags filters) : tagFaults tags = [] := by
  cases h with
  | absent => rfl
  | filter some_ => exact tagFaults_eq_nil_iff.2 (.inr some_)

theorem givesTags_tagFilters (mode : FilterMode) (h : tagFaults tags = []) :
    GivesTags mode tags (tagFilters mode tags) := by
  rw [tagFilters_of_tagFaults h]
  rcases tagFaults_eq_nil_iff.1 h with rfl | some_
  · exact .absent
  · obtain ⟨tag, given, filled⟩ := some_
    have listed : tags.isEmpty = false := by
      simpa using List.ne_nil_of_mem given
    rw [listed, TagFilter.cleaned_eq]
    exact .filter ⟨tag, given, filled⟩

theorem GivesTags.eq (h : GivesTags mode tags filters) : tagFilters mode tags = filters := by
  have given := givesTags_tagFilters mode h.tagFaults_eq
  generalize tagFilters mode tags = made at given
  cases h with
  | absent =>
      cases given with
      | absent => rfl
      | filter some_ => simp at some_
  | filter some_ =>
      cases given with
      | absent => simp at some_
      | filter _ => rfl

/-- The list holds tags and all of them are blank. -/
structure Hollow (tags : List String) : Prop where
  listed : tags ≠ []
  blank : ∀ tag ∈ tags, isBlank tag = true

theorem Hollow.tagFaults_eq (h : Hollow tags) : tagFaults tags = [.emptyTagList] :=
  if_pos ⟨h.listed, h.blank⟩

theorem Hollow.tagFilters_eq (h : Hollow tags) (mode : FilterMode) : tagFilters mode tags = [] :=
  if_pos ((TagFilter.cleaned_eq_nil_iff tags).2 h.blank)

theorem gives_or_hollow (mode : FilterMode) (tags : List String) :
    (∃ filters, GivesTags mode tags filters) ∨ Hollow tags := by
  by_cases sound : tagFaults tags = []
  · exact .inl ⟨_, givesTags_tagFilters mode sound⟩
  · rw [tagFaults_eq_nil_iff, not_or] at sound
    exact .inr ⟨sound.1, by simpa using sound.2⟩

/-! ## The ways to end -/

/-- How applying the configuration ends, and what has been gained by then. -/
inductive Ends (c : Config) : Except RequestFault Unit → Gains → Prop where
  | engine {front rest : List String} {id : String} (split : c.engines = front ++ id :: rest)
    (filled : ∀ e ∈ front, isBlank e = false) (blank : isBlank id = true) :
    Ends c (.error .blankEngineId) ⟨front.map .mk, [], fun _ => none⟩
  | includeTags (engines : ∀ id ∈ c.engines, isBlank id = false) (hollow : Hollow c.includeTags) :
    Ends c (.error .emptyTagList) ⟨c.engines.map .mk, [], fun _ => none⟩
  | excludeTags (engines : ∀ id ∈ c.engines, isBlank id = false)
    {includes : List PostDiscoveryFilter} (included : GivesTags .include c.includeTags includes)
    (hollow : Hollow c.excludeTags) :
    Ends c (.error .emptyTagList) ⟨c.engines.map .mk, includes, fun _ => none⟩
  | parameter (engines : ∀ id ∈ c.engines, isBlank id = false)
    {includes excludes : List PostDiscoveryFilter}
    (included : GivesTags .include c.includeTags includes)
    (excluded : GivesTags .exclude c.excludeTags excludes)
    {least : String} (key : c.parameters.LeastBlank least) :
    Ends c (.error .blankParameterKey) ⟨c.engines.map .mk, includes ++ excludes, fun key =>
      if Utf8.encode key < Utf8.encode least then c.parameters.get? key else none⟩
  | complete (engines : ∀ id ∈ c.engines, isBlank id = false)
    {includes excludes : List PostDiscoveryFilter}
    (included : GivesTags .include c.includeTags includes)
    (excluded : GivesTags .exclude c.excludeTags excludes)
    (keys : ∀ key ∈ c.parameters.keys, isBlank key = false) :
    Ends c (.ok ()) ⟨c.engines.map .mk, includes ++ excludes, c.parameters.get?⟩

theorem engineFaults_eq_nil_iff {engines : List String} :
    engineFaults engines = [] ↔ ∀ id ∈ engines, isBlank id = false := by
  simp [engineFaults, refusals_eq_nil_iff]

theorem writeFaults_parameters_eq_nil_iff {d : Dictionary} :
    writeFaults d.toList = [] ↔ ∀ key ∈ d.keys, isBlank key = false := by
  rw [writeFaults_eq_nil_iff, Dictionary.keys, List.forall_mem_map]
  rfl

variable {c : Config} {outcome : Except RequestFault Unit} {g : Gains}

/-- **Each way to end is that of the first fault, with what was added before it.** -/
theorem Ends.faults_and_additions (h : c.Ends outcome g) :
    firstFault c.faults () = outcome ∧ g.AddedBy c.additions := by
  cases h with
  | @engine front rest id split filled blank =>
      have good : ∀ e ∈ front, (!isBlank e) = true := fun e he => by rw [filled e he]; rfl
      have bad : (!isBlank id) = false := by rw [blank]; rfl
      rw [Config.faults, additions, engineFaults, engineFilters, split,
        refusals_split good bad, takeWhile_split good bad]
      refine ⟨rfl, ?_, fun key => rfl⟩
      simp [Additions.barring, Additions.ofFilters]
  | includeTags engines hollow =>
      have none_ := engineFaults_eq_nil_iff.2 engines
      rw [Config.faults, additions, none_, hollow.tagFaults_eq, hollow.tagFilters_eq,
        engineFilters_of_engineFaults none_]
      refine ⟨rfl, ?_, fun key => rfl⟩
      simp [Additions.barring, Additions.ofFilters, Additions.nothing]
  | excludeTags engines included hollow =>
      have none_ := engineFaults_eq_nil_iff.2 engines
      rw [Config.faults, additions, none_, included.tagFaults_eq, included.eq, hollow.tagFaults_eq,
        hollow.tagFilters_eq, engineFilters_of_engineFaults none_]
      refine ⟨rfl, ?_, fun key => rfl⟩
      simp [Additions.barring, Additions.ofFilters, Additions.nothing]
  | parameter engines included excluded key =>
      have none_ := engineFaults_eq_nil_iff.2 engines
      obtain ⟨⟨others, blank⟩, values⟩ := key.writes
      rw [Config.faults, additions, none_, included.tagFaults_eq, included.eq,
        excluded.tagFaults_eq, excluded.eq, engineFilters_of_engineFaults none_, blank]
      refine ⟨rfl, ?_, values⟩
      simp [Additions.barring, Additions.ofFilters, Additions.ofWrites]
  | complete engines included excluded keys =>
      have sound : c.faults = [] := by
        rw [Config.faults, engineFaults_eq_nil_iff.2 engines, included.tagFaults_eq,
          excluded.tagFaults_eq, writeFaults_parameters_eq_nil_iff.2 keys]
        rfl
      obtain ⟨filters, writes⟩ := additions_of_faults_eq_nil sound
      rw [sound]
      refine ⟨rfl, ?_, fun key => ?_⟩
      · rw [filters, included.eq, excluded.eq]
      · rw [writes]
        exact c.parameters.lastWrite_toList key

/-- One of the ways to end comes about. -/
theorem exists_ends (c : Config) : ∃ outcome g, c.Ends outcome g := by
  rcases accepted_or_split (fun id => !isBlank id) c.engines with engines | ⟨front, id, rest,
    split, before, blank⟩
  · replace engines : ∀ id ∈ c.engines, isBlank id = false := by simpa using engines
    rcases gives_or_hollow .include c.includeTags with ⟨includes, included⟩ | hollow
    · rcases gives_or_hollow .exclude c.excludeTags with ⟨excludes, excluded⟩ | hollow
      · rcases c.parameters.filled_or_leastBlank with keys | ⟨least, key⟩
        · exact ⟨_, _, .complete engines included excluded keys⟩
        · exact ⟨_, _, .parameter engines included excluded key⟩
      · exact ⟨_, _, .excludeTags engines included hollow⟩
    · exact ⟨_, _, .includeTags engines hollow⟩
  · exact ⟨_, _, .engine split (by simpa using before) (by simpa using blank)⟩

theorem faults_eq_nil_iff (c : Config) : c.faults = [] ↔
    (∀ id ∈ c.engines, isBlank id = false) ∧
    (c.includeTags = [] ∨ ∃ tag ∈ c.includeTags, isBlank tag = false) ∧
    (c.excludeTags = [] ∨ ∃ tag ∈ c.excludeTags, isBlank tag = false) ∧
    ∀ key ∈ c.parameters.keys, isBlank key = false := by
  rw [faults, List.append_eq_nil_iff, List.append_eq_nil_iff, List.append_eq_nil_iff,
    engineFaults_eq_nil_iff, tagFaults_eq_nil_iff, tagFaults_eq_nil_iff,
    writeFaults_parameters_eq_nil_iff]

/-- **A configuration is applied up to its first fault, and no further.**
It is applied in full just if it has none.  In any case one of the ways to end comes about: the
builder has gained what comes before the fault, and is otherwise as it was. -/
theorem applied_up_to_first_fault (c : Config) (b : Builder) :
    ((c.apply.run b).1 = .ok () ↔
      (∀ id ∈ c.engines, isBlank id = false) ∧
      (c.includeTags = [] ∨ ∃ tag ∈ c.includeTags, isBlank tag = false) ∧
      (c.excludeTags = [] ∨ ∃ tag ∈ c.excludeTags, isBlank tag = false) ∧
      ∀ key ∈ c.parameters.keys, isBlank key = false) ∧
    ∃ outcome g, c.Ends outcome g ∧ (c.apply.run b).1 = outcome.mapError .request ∧
      g.Gained b.contents (c.apply.run b).2.contents := by
  have answers := c.adds_apply.answers b
  have leaves := c.adds_apply.leaves b
  constructor
  · rw [answers, firstFault_eq_ok_iff, List.map_eq_nil_iff, ← c.faults_eq_nil_iff]
    simp
  · obtain ⟨outcome, g, ending⟩ := c.exists_ends
    obtain ⟨first, added⟩ := ending.faults_and_additions
    refine ⟨outcome, g, ending, ?_, ?_⟩
    · rw [answers, ← mapError_firstFault, first]
    · have filled : ∀ w ∈ c.additions.writes, isBlank w.1 = false := fun w hw =>
        not_isBlank_of_mem_accepted (mem_accepted_of_mem_writes hw)
      rw [leaves]
      exact added.gained c.selectors_additions filled b.contents

/-- A key of white space can come after other keys. -/
example :
    let c : Config := ⟨[], [], [], .ofList [("\uFF42", "2"), ("\u3000", "x"), ("a", "1")], []⟩
    (c.apply.run .empty).2.contents.parameters.toList = [("a", "1")] := by
  decide

end Config

end TestDiscovery
