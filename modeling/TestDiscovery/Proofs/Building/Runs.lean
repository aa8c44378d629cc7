/-
# TestDiscovery.Proofs.Building.Runs -- requests after any run of steps

A run takes a fresh builder through steps of every kind in any order, and goes on
after a step that fails.  `BuilderRun.step` is one step: it replaces the builder
and keeps the reply, so a run is its builder and all replies so far.

What one step adds is `BuilderStep.additions`, written down apart from the steps
themselves; `contents_perform` says that the steps do just that, and
`contents_ofSteps` carries it to whole runs.  `Accumulated` reads off what this means for a request
that is taken at some point of a run: it is made of what came before, and nothing
that follows reaches it.
-/
import TestDiscovery.Proofs.Config.Applied
import Mathlib.Data.List.Induction

namespace TestDiscovery

set_option autoImplicit false

open TestDiscovery.Text Building

variable {α : Type}

/-! ## Steps and runs -/

/-- The steps of a run; `α` holds the answers to questions. -/
inductive BuilderStep (α : Type) where
  | select (selectors : List Selector)
  | filter (filters : List Filter)
  | filterObjects (objects : List FilterObject)
  | setParameter (key value : String)
  | setParameters (pairs : List (String × String))
  | applyConfig (c : Config)
  /-- Take the request so far and record it. -/
  | build
  /-- Ask the recorded request of a number, or else the request so far. -/
  | query (number : Option Nat) (ask : Request → α)
  /-- Leave the builder and go on with a copy. -/
  | clone

/-- What a step hands back. -/
inductive Reply (α : Type) where
  | done
  | built (r : Request)
  | answered (answer : α)
  | left (original : Builder)

/-- The request that the reply records. -/
def Reply.built? : Reply α → Option Request
  | .built r => some r
  | _ => none

/-- Perform a step, with the requests that were recorded before. -/
def BuilderStep.perform (recorded : List Request) : BuilderStep α → Building LaunchFault (Reply α)
  | .select selectors => do Building.select selectors; return .done
  | .filter filters => do Building.filter filters; return .done
  | .filterObjects objects => do
    Building.widen .request (Building.filterObjects objects); return .done
  | .setParameter key value => do
    Building.widen .request (Building.setParameter key value); return .done
  | .setParameters pairs => do
    Building.widen .request (Building.setParameters pairs); return .done
  | .applyConfig c => do Building.widen .config c.apply; return .done
  | .build => return .built (← Building.build)
  | .query none ask => return .answered (ask (← Building.build))
  | .query (some i) ask =>
    match recorded[i]? with
    | some r => return .answered (ask r)
    | none => return .done
  | .clone => return .left (← get)

/-- A run so far. -/
structure BuilderRun (α : Type) where
  builder : Builder
  replies : List (Except LaunchFault (Reply α))

namespace BuilderRun

/-- The recorded requests in order. -/
def requests (run : BuilderRun α) : List Request :=
  run.replies.filterMap fun reply => reply.toOption.bind Reply.built?

/-- The run after one more step. -/
def step (run : BuilderRun α) (s : BuilderStep α) : BuilderRun α :=
  let done := (s.perform run.requests).run run.builder
  ⟨done.2, run.replies ++ [done.1]⟩

/-- The run that has not begun. -/
def start : BuilderRun α := ⟨.empty, []⟩

/-- The run through some steps. -/
def ofSteps (steps : List (BuilderStep α)) : BuilderRun α := steps.foldl step start

theorem ofSteps_append (before after : List (BuilderStep α)) :
    ofSteps (before ++ after) = after.foldl step (ofSteps before) :=
  List.foldl_append

/-! ## Replies are kept -/

theorem replies_foldl_step (run : BuilderRun α) (steps : List (BuilderStep α)) :
    run.replies <+: (steps.foldl step run).replies := by
  induction steps generalizing run with
  | nil => exact List.prefix_rfl
  | cons s steps ih => exact (List.prefix_append run.replies _).trans (ih (run.step s))

theorem length_replies (steps : List (BuilderStep α)) :
    (ofSteps steps).replies.length = steps.length := by
  induction steps using List.reverseRecOn with
  | nil => rfl
  | append_singleton steps s ih =>
      rw [ofSteps_append]
      simp [step, ih]

/-- The reply to a step in the middle of a run. -/
def replyTo (before : List (BuilderStep α)) (s : BuilderStep α) (after : List (BuilderStep α)) :
    Option (Except LaunchFault (Reply α)) :=
  (ofSteps (before ++ s :: after)).replies[before.length]?

/-- The reply to a step depends on what came before it only. -/
theorem replyTo_eq (before : List (BuilderStep α)) (s : BuilderStep α)
    (after : List (BuilderStep α)) :
    replyTo before s after =
      some ((s.perform (ofSteps before).requests).run (ofSteps before).builder).1 := by
  rw [replyTo, ofSteps_append, List.foldl_cons]
  obtain ⟨more, kept⟩ := replies_foldl_step ((ofSteps before).step s) after
  rw [← kept, ← length_replies before]
  simp [step]

theorem requests_step (run : BuilderRun α) (s : BuilderStep α) :
    (run.step s).requests = run.requests ++
      (((s.perform run.requests).run run.builder).1.toOption.bind Reply.built?).toList := by
  rw [requests, step, List.filterMap_append, ← requests, List.filterMap_eq_flatMap_toList,
    List.flatMap_singleton]

theorem requests_foldl_step (run : BuilderRun α) (steps : List (BuilderStep α)) :
    run.requests <+: (steps.foldl step run).requests :=
  (replies_foldl_step run steps).filterMap _

end BuilderRun

/-! ## Which steps record, and which change nothing -/

theorem built?_done (step : Building LaunchFault Unit) (b : Builder) :
    ((do step; return .done : Building LaunchFault (Reply α)).run b).1.toOption.bind Reply.built? =
      none := by
  rw [run_map step (fun _ => (Reply.done : Reply α))]
  rcases (step.run b).1 with _ | _ <;> rfl

/-- Only taking the request records one, and it is the one so far. -/
theorem BuilderStep.eq_build_of_built? {s : BuilderStep α} {recorded : List Request} {b : Builder}
    {r : Request}
    (h : ((s.perform recorded).run b).1.toOption.bind Reply.built? = some r) :
    s = .build ∧ r = b.contents := by
  cases s with
  | build =>
      cases h
      exact ⟨rfl, rfl⟩
  | query number ask =>
      cases number with
      | none => cases h
      | some i =>
          simp only [perform] at h
          split at h <;> cases h
  | clone => cases h
  | _ =>
      simp only [perform, built?_done] at h
      cases h

/-- The step takes, asks or copies, and no more. -/
def BuilderStep.observes : BuilderStep α → Bool
  | .build | .query _ _ | .clone => true
  | _ => false

/-! ## What a step adds -/

/-- What the step adds to the request: all of it, or what comes before its first fault. -/
def BuilderStep.additions : BuilderStep α → Additions
  | .select selectors => .ofSelectors selectors
  | .filter filters => .ofFilters filters
  | .filterObjects objects => .ofFilters (classified objects)
  | .setParameter key value => .ofWrites (accepted [(key, value)])
  | .setParameters pairs => .ofWrites (accepted pairs)
  | .applyConfig c => c.additions
  | .build | .query _ _ | .clone => .nothing

/-- The selectors that the step names. -/
def BuilderStep.selected : BuilderStep α → List Selector
  | .select selectors => selectors
  | _ => []

theorem BuilderStep.selectors_additions (s : BuilderStep α) :
    s.additions.selectors = s.selected := by
  cases s with
  | applyConfig c => exact c.selectors_additions
  | _ => rfl

theorem BuilderStep.not_isBlank_of_mem_writes {s : BuilderStep α} {w : String × String}
    (h : w ∈ s.additions.writes) : isBlank w.1 = false := by
  cases s with
  | setParameter key value => exact not_isBlank_of_mem_accepted h
  | setParameters pairs => exact not_isBlank_of_mem_accepted h
  | applyConfig c => exact not_isBlank_of_mem_accepted (Config.mem_accepted_of_mem_writes h)
  | _ => cases h

/-! ## What a run adds up to -/

theorem contents_done {step : Building LaunchFault Unit} {faults : List LaunchFault}
    {answer : Request → Unit} {a : Additions} (h : Adds step faults answer a) (b : Builder) :
    ((do step; return .done : Building LaunchFault (Reply α)).run b).2.contents =
      b.contents.extended a := by
  rw [run_map step (fun _ => (Reply.done : Reply α))]
  exact h.leaves b

/-- **Whatever a step answers, it leaves the request with its additions.** -/
theorem BuilderStep.contents_perform (s : BuilderStep α) (recorded : List Request) (b : Builder) :
    ((s.perform recorded).run b).2.contents = b.contents.extended s.additions := by
  cases s with
  | select selectors => exact contents_done (adds_select selectors) b
  | filter filters => exact contents_done (adds_filter filters) b
  | filterObjects objects =>
      exact contents_done ((adds_filterObjects objects).widen LaunchFault.request) b
  | setParameter key value =>
      exact contents_done ((adds_setParameter key value).widen LaunchFault.request) b
  | setParameters pairs =>
      exact contents_done ((adds_setParameters pairs).widen LaunchFault.request) b
  | applyConfig c => exact contents_done (c.adds_apply.widen LaunchFault.config) b
  | build => exact (Request.extended_nothing b.contents).symm
  | query number ask =>
      cases number with
      | none => exact (Request.extended_nothing b.contents).symm
      | some i =>
          simp only [perform]
          split
          · exact (adds_pure _).leaves b
          · exact (adds_pure _).leaves b
  | clone => exact (Request.extended_nothing b.contents).symm

namespace BuilderRun

/-- The request of a run is made of what its steps added, in order. -/
theorem contents_ofSteps (steps : List (BuilderStep α)) :
    (ofSteps steps).builder.contents =
      Request.empty.extended (.total (steps.map BuilderStep.additions)) := by
  induction steps using List.reverseRecOn with
  | nil => rfl
  | append_singleton steps s ih =>
      rw [ofSteps_append, List.map_append, Additions.total_append, List.map_singleton,
        Additions.total_singleton, Request.extended_append, ← ih]
      exact s.contents_perform _ _

/-- The filters that steps contributed, in order. -/
def contributed (steps : List (BuilderStep α)) : List Filter :=
  steps.flatMap fun s => s.additions.filters

/-- The writes to parameters that steps made, in order. -/
def written (steps : List (BuilderStep α)) : List (String × String) :=
  steps.flatMap fun s => s.additions.writes

/-- The request is made of what the steps selected, contributed and wrote. -/
structure Accumulated (steps : List (BuilderStep α)) (r : Request) : Prop where
  selectors : r.selectors = steps.flatMap BuilderStep.selected
  engineFilters : r.engineFilters = (contributed steps).filterMap Filter.asEngine?
  discoveryFilters : r.discoveryFilters = (contributed steps).filterMap Filter.asDiscovery?
  postDiscoveryFilters :
    r.postDiscoveryFilters = (contributed steps).filterMap Filter.asPostDiscovery?
  /-- No filter is lost, and none is in two buckets. -/
  buckets : (r.engineFilters.map Filter.engine ++ r.discoveryFilters.map Filter.discovery ++
    r.postDiscoveryFilters.map Filter.postDiscovery).Perm (contributed steps)
  parameters : ∀ key, r.parameters.get? key = lastWrite (written steps) key

theorem accumulated_contents (steps : List (BuilderStep α)) :
    Accumulated steps (ofSteps steps).builder.contents := by
  have selected : steps.flatMap (fun s => s.additions.selectors) =
      steps.flatMap BuilderStep.selected :=
    congrArg (List.flatMap · steps) (funext BuilderStep.selectors_additions)
  have filled : ∀ w ∈ written steps, isBlank w.1 = false := by
    intro w hw
    obtain ⟨s, _, hs⟩ := List.mem_flatMap.1 hw
    exact BuilderStep.not_isBlank_of_mem_writes hs
  rw [contents_ofSteps, Additions.total_eq]
  simp only [List.flatMap_map, Request.extended, Request.empty, List.nil_append]
  exact
    { selectors := selected
      engineFilters := rfl
      discoveryFilters := rfl
      postDiscoveryFilters := rfl
      buckets := Filter.buckets_perm (contributed steps)
      parameters := fun key => (Parameters.get?_writeAll .empty filled key).trans Option.or_none }

/-- A request that is recorded stays where and what it is. -/
theorem requests_build (before after : List (BuilderStep α)) :
    (ofSteps (before ++ .build :: after)).requests[(ofSteps before).requests.length]? =
      some (ofSteps before).builder.contents := by
  rw [ofSteps_append, List.foldl_cons]
  -- Later steps only append, so the number of the new request is that of those before it.
  obtain ⟨more, kept⟩ := requests_foldl_step ((ofSteps before).step .build) after
  have recorded : ((ofSteps before).step .build).requests =
      (ofSteps before).requests ++ [(ofSteps before).builder.contents] :=
    requests_step _ _
  rw [← kept, recorded]
  simp

/-- Every recorded request was taken at some point, from what came before. -/
theorem accumulated_of_mem_requests (steps : List (BuilderStep α)) {r : Request}
    (h : r ∈ (ofSteps steps).requests) :
    ∃ before after, steps = before ++ .build :: after ∧ Accumulated before r := by
  -- On the last step: it either records `r` itself, or `r` was recorded before it.
  induction steps using List.reverseRecOn with
  | nil => cases h
  | append_singleton steps s ih =>
      rw [ofSteps_append, List.foldl_cons, List.foldl_nil, requests_step, List.mem_append] at h
      rcases h with earlier | now
      · obtain ⟨before, after, rfl, made⟩ := ih earlier
        exact ⟨before, after ++ [s], by simp, made⟩
      · obtain ⟨rfl, rfl⟩ := BuilderStep.eq_build_of_built? (by simpa using now)
        exact ⟨steps, [], rfl, accumulated_contents steps⟩

theorem contents_skip (before after : List (BuilderStep α)) {s : BuilderStep α}
    (h : s.observes = true) :
    (ofSteps (before ++ s :: after)).builder.contents =
      (ofSteps (before ++ after)).builder.contents := by
  have none_ : s.additions = .nothing := by
    cases s with
    | build => rfl
    | query number ask => rfl
    | clone => rfl
    | _ => cases h
  simp only [contents_ofSteps, List.map_append, List.map_cons, none_, Additions.total_eq]
  simp [Additions.nothing]

/-- **Every request that a run takes is made of what the run did before, and stays so.**
A request is recorded by taking it, and holds just what the steps before it selected, contributed
and wrote.  Later steps leave it alone: a question about it is answered from it at any time, as is
a question about the request so far when that is asked.  Taking, asking and copying add nothing
to any request, and a copy leaves the original as it was. -/
theorem recorded_requests_accumulate (steps before after : List (BuilderStep α)) :
    (∀ r ∈ (ofSteps steps).requests, ∃ earlier later,
      steps = earlier ++ .build :: later ∧ Accumulated earlier r) ∧
    (∃ r, Accumulated before r ∧
      replyTo before .build after = some (.ok (.built r)) ∧
      (∀ ask, replyTo before (.query none ask) after = some (.ok (.answered (ask r)))) ∧
      (∀ ask rest, replyTo (before ++ .build :: after)
        (.query (some (ofSteps before).requests.length) ask) rest =
          some (.ok (.answered (ask r)))) ∧
      (∃ b, b.contents = r ∧ replyTo before .clone after = some (.ok (.left b)))) ∧
    (∀ s : BuilderStep α, s.observes = true →
      (ofSteps (before ++ s :: after)).builder.contents =
        (ofSteps (before ++ after)).builder.contents) := by
  refine ⟨fun r => accumulated_of_mem_requests steps, ?_, fun s => contents_skip before after⟩
  refine ⟨(ofSteps before).builder.contents, accumulated_contents before, ?_, ?_, ?_, ?_⟩
  · rw [replyTo_eq]
    rfl
  · intro ask
    rw [replyTo_eq]
    rfl
  · intro ask rest
    rw [replyTo_eq, BuilderStep.perform, requests_build before after]
    rfl
  · refine ⟨(ofSteps before).builder, rfl, ?_⟩
    rw [replyTo_eq]
    rfl

end BuilderRun

end TestDiscovery
