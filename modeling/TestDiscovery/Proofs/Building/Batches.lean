/-
# TestDiscovery.Proofs.Building.Batches -- lists that are given at once

Filter objects and parameters may be given as a list.  The list is added element by
element up to the first faulty one, which is refused without a trace: not even a
record is left of it.  So the builder is left as the elements before it leave it, and
the elements after it can be added from there as if the faulty one had never been in
the list.

`Building.Stepwise` is the contract of one element, `Building.Batch` that of a list.
The second follows from the first (`Stepwise.batch`).  Which element is the first
faulty one (`FirstFaulty`) is said of the list alone, without a builder.
-/
import TestDiscovery.Proofs.Building.Contract

namespace TestDiscovery

set_option autoImplicit false

open TestDiscovery.Text

variable {ε β : Type}

/-! ## The first faulty element -/

/-- At the index stands an element with the fault, and no element before it is faulty. -/
structure FirstFaulty (fault? : β → Option ε) (xs : List β) (i : Nat) (e : ε) : Prop where
  faulty : xs[i]?.bind fault? = some e
  before : ∀ x ∈ xs.take i, fault? x = none

section

variable {fault? : β → Option ε} {xs : List β} {i j : Nat} {e d : ε}

theorem FirstFaulty.split (h : FirstFaulty fault? xs i e) :
    ∃ x, fault? x = some e ∧ xs = xs.take i ++ x :: xs.drop (i + 1) := by
  obtain ⟨x, here, faulty⟩ := Option.bind_eq_some_iff.1 h.faulty
  obtain ⟨bound, rfl⟩ := List.getElem?_eq_some_iff.1 here
  refine ⟨_, faulty, ?_⟩
  rw [← List.drop_eq_getElem_cons bound, List.take_append_drop]

theorem FirstFaulty.le (h : FirstFaulty fault? xs i e) (k : FirstFaulty fault? xs j d) : i ≤ j := by
  refine Nat.le_of_not_lt fun earlier => ?_
  obtain ⟨x, here, faulty⟩ := Option.bind_eq_some_iff.1 k.faulty
  have among : x ∈ xs.take i := List.mem_of_getElem? (by rwa [List.getElem?_take_of_lt earlier])
  rw [h.before x among] at faulty
  cases faulty

/-- A list has at most one first faulty element. -/
theorem FirstFaulty.iff_eq (h : FirstFaulty fault? xs i e) :
    FirstFaulty fault? xs j d ↔ j = i ∧ d = e := by
  constructor
  · intro k
    have same : j = i := Nat.le_antisymm (k.le h) (h.le k)
    subst same
    exact ⟨rfl, Option.some.inj (k.faulty.symm.trans h.faulty)⟩
  · rintro ⟨rfl, rfl⟩
    exact h

theorem sound_or_exists_firstFaulty (fault? : β → Option ε) (xs : List β) :
    (∀ x ∈ xs, fault? x = none) ∨ ∃ i e, FirstFaulty fault? xs i e := by
  induction xs with
  | nil => exact .inl nofun
  | cons x xs ih =>
      cases head : fault? x with
      | some e => exact .inr ⟨0, e, head, nofun⟩
      | none =>
          rcases ih with sound | ⟨i, e, first⟩
          · exact .inl (List.forall_mem_cons.2 ⟨head, sound⟩)
          · exact .inr ⟨i + 1, e, first.faulty, List.forall_mem_cons.2 ⟨head, first.before⟩⟩

end

namespace Building

/-! ## One element after the other -/

/-- From any builder, an element without a fault is added, and a faulty one is refused and leaves
everything as it is, the records included. -/
structure Stepwise (step : β → Building ε Unit) (fault? : β → Option ε) : Prop where
  accepts : ∀ {x}, fault? x = none → ∀ b, ((step x).run b).1 = .ok ()
  refuses : ∀ {x e}, fault? x = some e → ∀ b, (step x).run b = (.error e, b)

section

variable {step : β → Building ε Unit} {fault? : β → Option ε} {xs : List β} {i : Nat} {e : ε}

theorem forM_append (step : β → Building ε Unit) (xs ys : List β) :
    (xs ++ ys).forM step = (do xs.forM step; ys.forM step) := by
  simp only [List.forM_eq_forM, List.forM_append]

theorem Stepwise.answers_forM (h : Stepwise step fault?) (sound : ∀ x ∈ xs, fault? x = none)
    (b : Builder) : ((xs.forM step).run b).1 = .ok () := by
  induction xs generalizing b with
  | nil => rfl
  | cons x xs ih =>
      obtain ⟨head, rest⟩ := List.forall_mem_cons.1 sound
      show ((step x >>= fun _ => xs.forM step).run b).1 = _
      rw [run_bind_of_ok (h.accepts head b)]
      exact ih rest _

/-- After elements without faults the list goes on from the builder that they leave. -/
theorem Stepwise.run_forM_append (h : Stepwise step fault?) (sound : ∀ x ∈ xs, fault? x = none)
    (ys : List β) (b : Builder) :
    ((xs ++ ys).forM step).run b = (ys.forM step).run ((xs.forM step).run b).2 := by
  rw [forM_append]
  exact run_bind_of_ok (h.answers_forM sound b) _

/-- **The list stops at its first faulty element and keeps what came before it.** -/
theorem Stepwise.run_forM_of_firstFaulty (h : Stepwise step fault?)
    (first : FirstFaulty fault? xs i e) (b : Builder) :
    (xs.forM step).run b = (.error e, (((xs.take i).forM step).run b).2) := by
  obtain ⟨x, faulty, split⟩ := first.split
  calc (xs.forM step).run b
      = ((xs.take i ++ x :: xs.drop (i + 1)).forM step).run b := by rw [← split]
    _ = ((x :: xs.drop (i + 1)).forM step).run (((xs.take i).forM step).run b).2 :=
        h.run_forM_append first.before _ b
    _ = (.error e, (((xs.take i).forM step).run b).2) := by
        have refused := h.refuses faulty (((xs.take i).forM step).run b).2
        show (step x >>= fun _ => (xs.drop (i + 1)).forM step).run _ = _
        rw [run_bind_of_error (by rw [refused]), refused]

/-- **What follows the faulty element can be added as if that had never been in the list.** -/
theorem Stepwise.run_forM_eraseIdx (h : Stepwise step fault?) (first : FirstFaulty fault? xs i e)
    (b : Builder) :
    ((xs.eraseIdx i).forM step).run b =
      ((xs.drop (i + 1)).forM step).run (((xs.take i).forM step).run b).2 := by
  rw [List.eraseIdx_eq_take_drop_succ]
  exact h.run_forM_append first.before _ b

theorem Stepwise.fails_iff (h : Stepwise step fault?) (b : Builder) :
    ((xs.forM step).run b).1 = .error e ↔ ∃ i, FirstFaulty fault? xs i e := by
  constructor
  · intro failed
    rcases sound_or_exists_firstFaulty fault? xs with sound | ⟨i, d, first⟩
    · rw [h.answers_forM sound b] at failed
      cases failed
    · rw [h.run_forM_of_firstFaulty first b] at failed
      cases failed
      exact ⟨i, first⟩
  · rintro ⟨i, first⟩
    rw [h.run_forM_of_firstFaulty first b]

end

/-! ## Lists as a whole -/

/-- An operation on lists adds a list up to its first faulty element and can be resumed after it.
Nothing but the list decides whether it fails, where and with which fault. -/
structure Batch (op : List β → Building ε Unit) (fault? : β → Option ε)
    (added : List β → Additions) : Prop where
  fails_iff : ∀ xs b e, ((op xs).run b).1 = .error e ↔ ∃ i, FirstFaulty fault? xs i e
  /-- Where it stops, what it leaves, and that the rest of the list can follow. -/
  stops : ∀ xs b e after, (op xs).run b = (.error e, after) → ∃ i,
    (∀ j d, FirstFaulty fault? xs j d ↔ j = i ∧ d = e) ∧
    (op (xs.take i)).run b = (.ok (), after) ∧
    (op (xs.drop (i + 1))).run after = (op (xs.eraseIdx i)).run b
  adds : ∀ xs, (∀ x ∈ xs, fault? x = none) → ∀ b, ((op xs).run b).1 = .ok () ∧
    ((op xs).run b).2.contents = b.contents.extended (added xs)
  splits : ∀ ys zs, op (ys ++ zs) = (do op ys; op zs)

theorem Stepwise.batch {step : β → Building ε Unit} {fault? : β → Option ε}
    {added : List β → Additions} (h : Stepwise step fault?)
    (leaves : ∀ xs : List β, (∀ x ∈ xs, fault? x = none) → ∀ b : Builder,
      ((xs.forM step).run b).2.contents = b.contents.extended (added xs)) :
    Batch (fun xs => xs.forM step) fault? added := by
  constructor
  case fails_iff => exact fun xs b e => h.fails_iff b
  case stops =>
    intro xs b e after stopped
    obtain ⟨i, first⟩ := (h.fails_iff b).1 (congrArg Prod.fst stopped)
    have left : (((xs.take i).forM step).run b).2 = after := by
      rw [h.run_forM_of_firstFaulty first b] at stopped
      exact congrArg Prod.snd stopped
    refine ⟨i, fun j d => first.iff_eq, ?_, ?_⟩
    · exact Prod.ext (h.answers_forM first.before b) left
    · rw [h.run_forM_eraseIdx first b, left]
  case adds => exact fun xs sound b => ⟨h.answers_forM sound b, leaves xs sound b⟩
  case splits => exact fun ys zs => forM_append step ys zs

end Building

/-! ## Filter objects and parameters -/

/-- The fault of an object: it can act as nothing. -/
def FilterObject.fault? (o : FilterObject) : Option RequestFault :=
  if o.engine.isNone ∧ o.postDiscovery.isNone ∧ o.discovery.isNone then
    some .unclassifiableFilter
  else none

theorem FilterObject.classify_eq (o : FilterObject) :
    (∃ f, o.filter? = some f ∧ o.fault? = none ∧ o.classify = .ok f) ∨
      o.fault? = some .unclassifiableFilter ∧ o.classify = .error .unclassifiableFilter := by
  obtain ⟨engine, postDiscovery, discovery⟩ := o
  cases engine with
  | some f => exact .inl ⟨.engine f, rfl, rfl, rfl⟩
  | none =>
      cases postDiscovery with
      | some f => exact .inl ⟨.postDiscovery f, rfl, rfl, rfl⟩
      | none =>
          cases discovery with
          | some f => exact .inl ⟨.discovery f, rfl, rfl, rfl⟩
          | none => exact .inr ⟨rfl, rfl⟩

/-- The fault of a write: its key is blank. -/
def writeFault? (w : String × String) : Option RequestFault :=
  if isBlank w.1 then some .blankParameterKey else none

theorem writeFault?_eq_none_iff {w : String × String} :
    writeFault? w = none ↔ isBlank w.1 = false := by
  simp [writeFault?]

namespace Building

theorem stepwise_filterObject : Stepwise filterObject FilterObject.fault? := by
  constructor
  · intro o sound b
    rcases o.classify_eq with ⟨f, -, -, classified⟩ | ⟨faulty, -⟩
    · rw [filterObject, classified]
      rfl
    · rw [sound] at faulty
      cases faulty
  · intro o e faulty b
    rcases o.classify_eq with ⟨f, -, sound, -⟩ | ⟨same, refused⟩
    · rw [sound] at faulty
      cases faulty
    · rw [same] at faulty
      cases faulty
      rw [filterObject, refused]
      rfl

theorem stepwise_setParameter :
    Stepwise (fun w : String × String => setParameter w.1 w.2) writeFault? := by
  constructor
  · intro w sound b
    rw [run_setParameter w.2 (writeFault?_eq_none_iff.1 sound)]
  · intro w e faulty b
    obtain ⟨blank, rfl⟩ : isBlank w.1 = true ∧ .blankParameterKey = e := by
      simpa [writeFault?] using faulty
    exact run_setParameter_of_isBlank w.2 blank b

theorem classified_of_sound {objects : List FilterObject}
    (sound : ∀ o ∈ objects, o.fault? = none) :
    classified objects = objects.filterMap FilterObject.filter? := by
  have known : ∀ o ∈ objects, o.filter?.isSome = true := by
    intro o ho
    rcases o.classify_eq with ⟨f, taken, -⟩ | ⟨faulty, -⟩
    · rw [taken]
      rfl
    · rw [sound o ho] at faulty
      cases faulty
  rw [classified, List.takeWhile_eq_self_iff.2 known]

theorem accepted_of_sound {pairs : List (String × String)}
    (sound : ∀ w ∈ pairs, writeFault? w = none) : accepted pairs = pairs :=
  takeWhile_of_refusals_eq_nil
    (writeFaults_eq_nil_iff.2 fun w hw => writeFault?_eq_none_iff.1 (sound w hw))

/-- **A list that is given at once stops at its first faulty element and can be resumed.**
The faulty filter objects are those that can act as nothing, the faulty writes those to blank
keys. -/
theorem batches_stop_and_resume :
    Batch filterObjects FilterObject.fault?
      (fun objects => .ofFilters (objects.filterMap FilterObject.filter?)) ∧
    Batch setParameters writeFault? .ofWrites := by
  constructor
  · refine stepwise_filterObject.batch fun objects sound b => ?_
    rw [← classified_of_sound sound]
    exact (adds_filterObjects objects).leaves b
  · refine stepwise_setParameter.batch fun pairs sound b => ?_
    conv => rhs; rw [← accepted_of_sound sound]
    exact (adds_setParameters pairs).leaves b

end Building

end TestDiscovery
