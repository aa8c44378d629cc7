/-
# TestDiscovery.Request.Builder -- making a request step by step

A builder holds the request so far and the journal of what was done.  A step that
fails leaves what it had added before; nothing is ever removed but the old value
of a parameter.
-/
import TestDiscovery.Request.Basic

namespace TestDiscovery

set_option autoImplicit false

/-- The request so far, and the records so far. -/
structure Builder where
  contents : Request
  journal : List LogRecord

/-- Steps of a builder that may fail. -/
abbrev Building (ε : Type) := ExceptT ε (StateM Builder)

namespace Builder

/-- A builder without contents. -/
def empty : Builder := ⟨.empty, []⟩

/-- The builder with one more record. -/
def note (b : Builder) (r : LogRecord) : Builder := { b with journal := b.journal ++ [r] }

/-- The builder with one more filter. -/
def store (b : Builder) (f : Filter) : Builder := { b with contents := b.contents.withFilter f }

end Builder

namespace Building

variable {ε : Type}

/-- Record an event. -/
def note (r : LogRecord) : Building ε Unit := modify fun b => b.note r

/-- Give up with the cause, if there is one. -/
def ofExcept {α : Type} : Except ε α → Building ε α
  | .ok a => pure a
  | .error e => throw e

/-- Turn the causes of one step into those of a larger one. -/
def widen {δ α : Type} (f : δ → ε) (step : Building δ α) : Building ε α :=
  ExceptT.adapt f step

/-- Append selectors. -/
def select (selectors : List Selector) : Building ε Unit := do
  modify fun b => { b with contents := b.contents.withSelectors selectors }
  note (.selected selectors.length)

/-- Append a filter to the bucket of its kind. -/
def store (f : Filter) : Building ε Unit := modify fun b => b.store f

/-- Append filters, each to the bucket of its kind. -/
def filter (filters : List Filter) : Building ε Unit := filters.forM store

/-- Classify an object and append the filter that it is taken for. -/
def filterObject (o : FilterObject) : Building RequestFault Unit := do
  let f ← ofExcept o.classify
  note (.routed f.kind f.display)
  store f

/-- Append filter objects, up to the first that cannot be classified. -/
def filterObjects (objects : List FilterObject) : Building RequestFault Unit :=
  objects.forM filterObject

/-- Write a parameter. -/
def setParameter (key value : String) : Building RequestFault Unit := do
  let b ← get
  let (previous, parameters) ← ofExcept (b.contents.parameters.insert key value)
  note (.parameterWritten key value)
  modify fun b => { b with contents := b.contents.withParameters parameters }
  match previous with
  | some old => note (.parameterReplaced key old)
  | none => pure ()

/-- Write parameters in order, up to the first blank key. -/
def setParameters (pairs : List (String × String)) : Building RequestFault Unit :=
  pairs.forM fun (key, value) => setParameter key value

/-- The request so far. -/
def build : Building ε Request := do
  let b ← get
  note (.built b.contents.counts)
  return b.contents

end Building

end TestDiscovery
