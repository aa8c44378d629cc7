/-
# TestDiscovery.Proofs.Parameters.Runs -- parameters after any run of operations

A store of parameters is taken through writes, lists of writes and questions, in any
order and number.  What it holds then depends on nothing but the writes that were
accepted: the value of a key is that of the last accepted write to it, and all that can
be asked of the store follows (`LastWrites`).  A write to a blank key is refused and
leaves no trace, and a list of writes counts up to its first blank key.

One step is `ParameterStep.perform`; `store_perform` says which writes it amounts to, and
`ofSteps_eq` carries this to whole runs.  A list of writes given to a builder does the
same to the builder's parameters (`run_setParameters`).
-/
import TestDiscovery.Proofs.Building.Contract
import TestDiscovery.Proofs.Text.ByteOrder
import Mathlib.Data.List.Dedup
import Mathlib.Data.List.Induction

namespace TestDiscovery

set_option autoImplicit false

open TestDiscovery.Text Building

variable {α : Type}

/-! ## Truth values -/

/-- The word of a truth value. -/
def truthWord : Bool → String
  | true => "true"
  | false => "false"

/-- The text writes the truth value: white space at its ends aside it is the word, each letter
small or capital. -/
def WritesTruth (value : String) (b : Bool) : Prop :=
  (trim value).toList.Forall₂ (fun c letter => c = letter ∨ c = letter.toUpper)
    (truthWord b).toList

theorem toLower_eq_iff {c letter : Char} (small : letter.isLower = true) :
    c.toLower = letter ↔ c = letter ∨ c = letter.toUpper := by
  have bounds : 97 ≤ letter.toNat ∧ letter.toNat ≤ 122 := by
    unfold Char.isLower at small
    simpa [UInt32.le_iff_toNat_le] using small
  unfold Char.toLower Char.toUpper
  simp only [Char.ext_iff, UInt32.le_iff_toNat_le, ge_iff_le,
    ← UInt32.toNat_inj, apply_dite Char.val, apply_dite UInt32.toNat, UInt32.toNat_add,
    Char.toNat_val, Char.reduceVal, UInt32.reduceToNat, UInt32.reduceSub]
  split_ifs <;> omega

theorem map_toLower_eq_iff {cs word : List Char} (small : ∀ c ∈ word, c.isLower = true) :
    cs.map Char.toLower = word ↔
      cs.Forall₂ (fun c letter => c = letter ∨ c = letter.toUpper) word := by
  induction word generalizing cs with
  | nil => simp
  | cons letter word ih =>
      obtain ⟨first, rest⟩ := List.forall_mem_cons.1 small
      cases cs with
      | nil => simp
      | cons c cs =>
          rw [List.map_cons, List.cons.injEq, List.forall₂_cons, toLower_eq_iff first, ih rest]

namespace Parameters

theorem sameAsciiCase_truthWord_iff (value : String) (b : Bool) :
    sameAsciiCase (trim value) (truthWord b) = true ↔ WritesTruth value b := by
  have small : (truthWord b).toList.all Char.isLower = true := by
    cases b <;> decide
  have fixed : (truthWord b).toList.map Char.toLower = (truthWord b).toList := by
    cases b <;> decide
  rw [sameAsciiCase, fixed, beq_iff_eq]
  exact map_toLower_eq_iff (List.all_eq_true.1 small)

theorem truth?_eq_some_iff {value : String} {b : Bool} :
    truth? value = some b ↔ WritesTruth value b := by
  have yes := sameAsciiCase_truthWord_iff value true
  have no := sameAsciiCase_truthWord_iff value false
  -- The two words differ in length, so no text is both.
  have apart : ¬ (WritesTruth value true ∧ WritesTruth value false) := by
    rintro ⟨short, long⟩
    have same := short.length_eq.symm.trans long.length_eq
    exact absurd same (by decide)
  simp only [truthWord] at yes no
  unfold truth?
  cases b with
  | true => grind
  | false => grind

/-! ## Writes one by one and in lists -/

theorem insert_of_not_isBlank (ps : Parameters) {key : String} (value : String)
    (filled : isBlank key = false) :
    ps.insert key value = .ok (ps.get? key, ps.put key value filled) :=
  dif_pos filled

theorem insert_of_isBlank (ps : Parameters) {key : String} (value : String)
    (blank : isBlank key = true) : ps.insert key value = .error .blankParameterKey :=
  dif_neg (by simp [blank])

/-- Insert pairs in order, up to the first blank key: how it ends, and the store it leaves. -/
def insertAll (ps : Parameters) : List (String × String) → Except RequestFault Unit × Parameters
  | [] => (.ok (), ps)
  | (key, value) :: rest =>
    match ps.insert key value with
    | .ok (_, after) => after.insertAll rest
    | .error e => (.error e, ps)

theorem insertAll_eq (ps : Parameters) (pairs : List (String × String)) :
    ps.insertAll pairs = (firstFault (writeFaults pairs) (), ps.writeAll (accepted pairs)) := by
  induction pairs generalizing ps with
  | nil => rfl
  | cons w rest ih =>
      obtain ⟨key, value⟩ := w
      cases h : isBlank key with
      | true =>
          have faults : writeFaults ((key, value) :: rest) = _ :=
            refusals_cons_of_not_accepts (by simp [h]) _ rest
          rw [insertAll, insert_of_isBlank ps value h, faults, accepted,
            List.takeWhile_cons_of_neg (by simp [h])]
          rfl
      | false =>
          have faults : writeFaults ((key, value) :: rest) = writeFaults rest :=
            refusals_cons_of_accepts (by simp [h]) _ rest
          have kept : accepted ((key, value) :: rest) = (key, value) :: accepted rest :=
            List.takeWhile_cons_of_pos (by simp [h])
          rw [insertAll, insert_of_not_isBlank ps value h, faults, kept, writeAll, List.foldl_cons,
            write_of_not_isBlank ps h]
          exact ih _

/-- A builder that is given a list inserts it into its parameters and leaves the rest alone. -/
theorem run_setParameters (pairs : List (String × String)) (b : Builder) :
    ((setParameters pairs).run b).1 = (b.contents.parameters.insertAll pairs).1 ∧
    ((setParameters pairs).run b).2.contents =
      b.contents.withParameters (b.contents.parameters.insertAll pairs).2 := by
  rw [insertAll_eq]
  refine ⟨(adds_setParameters pairs).answers b, ?_⟩
  rw [(adds_setParameters pairs).leaves b]
  simp [Request.extended, Additions.ofWrites, Request.withParameters]

end Parameters

/-! ## Steps and runs -/

/-- The operations on a store; `α` holds the answers to questions. -/
inductive ParameterStep (α : Type) where
  | insert (key value : String)
  | insertAll (pairs : List (String × String))
  | query (ask : Parameters → α)

/-- What an operation hands back. -/
inductive ParameterReply (α : Type) where
  | replaced (previous : Option String)
  | done
  | answered (answer : α)

namespace ParameterStep

/-- Perform a step on a store. -/
def perform (ps : Parameters) :
    ParameterStep α → Except RequestFault (ParameterReply α) × Parameters
  | .insert key value =>
    match ps.insert key value with
    | .ok (previous, after) => (.ok (.replaced previous), after)
    | .error e => (.error e, ps)
  | .insertAll pairs =>
    let done := ps.insertAll pairs
    (done.1.map fun _ => .done, done.2)
  | .query ask => (.ok (.answered (ask ps)), ps)

/-- The writes of the step that are accepted: none to a blank key, and none after it. -/
def writes : ParameterStep α → List (String × String)
  | .insert key value => accepted [(key, value)]
  | .insertAll pairs => accepted pairs
  | .query _ => []

theorem not_isBlank_of_mem_writes {s : ParameterStep α} {w : String × String}
    (h : w ∈ s.writes) : isBlank w.1 = false := by
  cases s with
  | insert key value => exact not_isBlank_of_mem_accepted h
  | insertAll pairs => exact not_isBlank_of_mem_accepted h
  | query ask => cases h

/-- **Whatever a step answers, it leaves the store with its accepted writes.** -/
theorem store_perform (s : ParameterStep α) (ps : Parameters) :
    (s.perform ps).2 = ps.writeAll s.writes := by
  cases s with
  | insert key value =>
      have alone : (ps.insertAll [(key, value)]).2 = ps.writeAll (accepted [(key, value)]) :=
        congrArg Prod.snd (ps.insertAll_eq _)
      rw [writes, ← alone, perform, Parameters.insertAll]
      cases ps.insert key value with
      | ok done => rfl
      | error e => rfl
  | insertAll pairs => rw [perform, Parameters.insertAll_eq, writes]
  | query ask => rfl

/-- A write by itself answers with the value that it replaces, or is refused. -/
theorem reply_insert (key value : String) (ps : Parameters) :
    ((insert key value : ParameterStep α).perform ps).1 =
      if isBlank key then .error .blankParameterKey else .ok (.replaced (ps.get? key)) := by
  cases h : isBlank key with
  | true => simp [perform, ps.insert_of_isBlank value h]
  | false => simp [perform, ps.insert_of_not_isBlank value h]

/-- A list of writes succeeds when none of its keys is blank. -/
theorem reply_insertAll (pairs : List (String × String)) (ps : Parameters) :
    ((insertAll pairs : ParameterStep α).perform ps).1 =
      if ∀ w ∈ pairs, isBlank w.1 = false then .ok .done else .error .blankParameterKey := by
  rw [perform, Parameters.insertAll_eq]
  split
  · rename_i filled
    rw [writeFaults_eq_nil_iff.2 filled]
    rfl
  · rename_i blank
    obtain ⟨e, rest, faults⟩ := List.exists_cons_of_ne_nil (mt writeFaults_eq_nil_iff.1 blank)
    have cause : e ∈ writeFaults pairs := faults ▸ List.mem_cons_self
    obtain ⟨w, -, rfl⟩ := List.mem_map.1 cause
    rw [faults]
    rfl

end ParameterStep

namespace Parameters

/-- The store after a run of steps from the empty one. -/
def ofSteps (steps : List (ParameterStep α)) : Parameters :=
  steps.foldl (fun ps s => (s.perform ps).2) .empty

/-- The writes that a run accepts, in order. -/
def written (steps : List (ParameterStep α)) : List (String × String) :=
  steps.flatMap ParameterStep.writes

theorem ofSteps_append_singleton (steps : List (ParameterStep α)) (s : ParameterStep α) :
    ofSteps (steps ++ [s]) = (s.perform (ofSteps steps)).2 := by
  rw [ofSteps, List.foldl_append, ← ofSteps, List.foldl_cons, List.foldl_nil]

/-- **A run leaves the store of its accepted writes.** -/
theorem ofSteps_eq (steps : List (ParameterStep α)) :
    ofSteps steps = Parameters.empty.writeAll (written steps) := by
  induction steps using List.reverseRecOn with
  | nil => rfl
  | append_singleton steps s ih =>
      have more : written (steps ++ [s]) = written steps ++ s.writes := by
        rw [written, List.flatMap_append, List.flatMap_singleton, ← written]
      calc ofSteps (steps ++ [s])
          = (s.perform (ofSteps steps)).2 := ofSteps_append_singleton steps s
        _ = (Parameters.empty.writeAll (written steps)).writeAll s.writes := by
            rw [s.store_perform, ih]
        _ = Parameters.empty.writeAll (written steps ++ s.writes) := List.foldl_append.symm
        _ = Parameters.empty.writeAll (written (steps ++ [s])) := by rw [more]

theorem not_isBlank_of_mem_written {steps : List (ParameterStep α)} {w : String × String}
    (h : w ∈ written steps) : isBlank w.1 = false := by
  obtain ⟨s, -, hs⟩ := List.mem_flatMap.1 h
  exact ParameterStep.not_isBlank_of_mem_writes hs

theorem get?_ofSteps (steps : List (ParameterStep α)) (key : String) :
    (ofSteps steps).get? key = lastWrite (written steps) key := by
  rw [ofSteps_eq, get?_writeAll .empty fun w => not_isBlank_of_mem_written, get?_empty]
  exact Option.or_none

/-! ## What a store answers -/

theorem nodup_keys (ps : Parameters) : ps.keys.Nodup := nodup_of_ascending ps.entries.ascending

theorem mem_keys_iff (ps : Parameters) (key : String) : key ∈ ps.keys ↔ ps.get? key ≠ none :=
  not_iff_comm.1 lookup_eq_none_iff_not_mem.symm |>.symm

theorem mem_toList_iff (ps : Parameters) (key value : String) :
    (key, value) ∈ ps.toList ↔ ps.get? key = some value :=
  (lookup_eq_some_iff_mem ps.nodup_keys).symm

theorem getBool?_eq_some_iff (ps : Parameters) (key : String) (b : Bool) :
    ps.getBool? key = some b ↔ ∃ value, ps.get? key = some value ∧ WritesTruth value b := by
  rw [getBool?, Option.bind_eq_bind, Option.bind_eq_some_iff]
  simp only [truth?_eq_some_iff]

/-- The store holds the last of the writes to each key, and answers everything accordingly. -/
structure LastWrites (ws : List (String × String)) (ps : Parameters) : Prop where
  get? : ∀ key, ps.get? key = lastWrite ws key
  /-- The keys are those that were written, as they were written. -/
  mem_keys : ∀ key, key ∈ ps.keys ↔ ∃ value, (key, value) ∈ ws
  not_isBlank : ∀ key ∈ ps.keys, isBlank key = false
  ascending : ps.keys.Pairwise fun a b => Utf8.encode a < Utf8.encode b
  /-- The number of different keys that were written. -/
  size : ps.size = (ws.map Prod.fst).dedup.length
  contains : ∀ key, ps.contains key = true ↔ ∃ value, ps.get? key = some value
  isEmpty : ps.isEmpty = true ↔ ps.size = 0
  keys : ps.keys = ps.toList.map Prod.fst
  length_toList : ps.toList.length = ps.size
  mem_toList : ∀ key value, (key, value) ∈ ps.toList ↔ ps.get? key = some value
  getBool? : ∀ key b, ps.getBool? key = some b ↔
    ∃ value, ps.get? key = some value ∧ WritesTruth value b

theorem lastWrites_ofSteps (steps : List (ParameterStep α)) :
    LastWrites (written steps) (ofSteps steps) := by
  have mem_keys : ∀ key, key ∈ (ofSteps steps).keys ↔ ∃ value, (key, value) ∈ written steps := by
    intro key
    rw [mem_keys_iff, get?_ofSteps, lastWrite_ne_none_iff]
  have distinct : (ofSteps steps).keys.Perm ((written steps).map Prod.fst).dedup := by
    refine (List.perm_ext_iff_of_nodup (nodup_keys _) (List.nodup_dedup _)).2 fun key => ?_
    rw [mem_keys, List.mem_dedup]
    simp
  have length_keys : (ofSteps steps).keys.length = (ofSteps steps).size := List.length_map _
  constructor
  case get? => exact get?_ofSteps steps
  case mem_keys => exact mem_keys
  case not_isBlank =>
    intro key hk
    obtain ⟨value, hw⟩ := (mem_keys key).1 hk
    exact not_isBlank_of_mem_written hw
  case ascending =>
    have sorted := (ofSteps steps).entries.ascending
    exact List.pairwise_map.2 (sorted.imp fun lt => Utf8.encode_lt_encode lt)
  case size => rw [← length_keys, distinct.length_eq]
  case contains => exact fun key => Option.isSome_iff_exists
  case isEmpty => exact List.isEmpty_iff_length_eq_zero
  case keys => rfl
  case length_toList => rfl
  case mem_toList => exact mem_toList_iff _
  case getBool? => exact getBool?_eq_some_iff _

/-- **After any run the store holds the last accepted writes.**
A write answers with the value that it replaces, or is refused for its blank key and leaves the
store as it is; a list of writes does to a store what it does to the parameters of a builder.
Two runs leave equal stores just if their last accepted writes to each key agree. -/
theorem store_holds_last_writes (steps others : List (ParameterStep α)) :
    LastWrites (written steps) (ofSteps steps) ∧
    (∀ key value, ((ParameterStep.insert key value : ParameterStep α).perform (ofSteps steps)).1 =
      if isBlank key then .error .blankParameterKey
      else .ok (.replaced ((ofSteps steps).get? key))) ∧
    (∀ key value, isBlank key = true → ofSteps (steps ++ [.insert key value]) = ofSteps steps) ∧
    (∀ pairs, ((ParameterStep.insertAll pairs : ParameterStep α).perform (ofSteps steps)).1 =
      if ∀ w ∈ pairs, isBlank w.1 = false then .ok .done else .error .blankParameterKey) ∧
    (∀ pairs b, ((setParameters pairs).run b).1 = (b.contents.parameters.insertAll pairs).1 ∧
      ((setParameters pairs).run b).2.contents =
        b.contents.withParameters (b.contents.parameters.insertAll pairs).2) ∧
    (ofSteps steps = ofSteps others ↔
      ∀ key, lastWrite (written steps) key = lastWrite (written others) key) := by
  refine ⟨lastWrites_ofSteps steps, fun key value => ParameterStep.reply_insert key value _,
    fun key value blank => ?_, fun pairs => ParameterStep.reply_insertAll pairs _,
    run_setParameters, ?_⟩
  · rw [ofSteps_append_singleton, ParameterStep.perform, insert_of_isBlank _ value blank]
  · constructor
    · intro same key
      rw [← get?_ofSteps, ← get?_ofSteps, same]
    · intro same
      refine ext_get? fun key => ?_
      rw [get?_ofSteps, get?_ofSteps, same key]

/-- A padded key is a key of its own, and a list stops at a key of white space. -/
example :
    let steps : List (ParameterStep Unit) := [.insert " a" "1", .insert "a" "2",
      .insertAll [("a", "3"), ("\u3000", "x"), ("b", "4")]]
    (ofSteps steps).toList = [(" a", "1"), ("a", "3")] := by
  decide

end Parameters

end TestDiscovery
