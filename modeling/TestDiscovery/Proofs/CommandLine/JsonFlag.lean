/-
# TestDiscovery.Proofs.CommandLine.JsonFlag -- `--json` before other arguments

The flag `--json` changes nothing but itself: before arguments that are read without it,
the same values are read, now with the flag (`Arguments.read_json_cons`).

No reader looks at the flag but that of the flag itself, which sets it.  So a step that
ends with the flag unset also began so, and from a state with the flag it goes the same
way (`ReadState.IgnoresFlag`).  Every reader of one argument has this property, and a
run has it by induction over the arguments.
-/
import TestDiscovery.Proofs.CommandLine.Occurrences
import TestDiscovery.Proofs.Outcome

namespace TestDiscovery

set_option autoImplicit false

open TestDiscovery.Text

/-- The arguments with the flag. -/
def Arguments.flagged (a : Arguments) : Arguments := { a with json := true }

/-- The state with the flag. -/
def ReadState.flagged (st : ReadState) : ReadState := { st with arguments := st.arguments.flagged }

/-! ## Values -/

namespace Arguments

/-- A value is kept the same way with the flag, and does not touch it. -/
theorem append_flagged {a b : Arguments} {o : ListOption} {raw : RawArgument}
    (h : a.append o raw = .ok b) : a.flagged.append o raw = .ok b.flagged ∧ b.json = a.json := by
  cases o <;>
  · obtain ⟨value, read, result⟩ := bind_eq_ok_iff.1 h
    cases result
    exact ⟨bind_eq_ok_iff.2 ⟨value, read, rfl⟩, rfl⟩

theorem settle_flagged {a b : Arguments} {o : ValueOption} {values : List RawArgument}
    (h : a.settle o values = .ok b) :
    a.flagged.settle o values = .ok b.flagged ∧ b.json = a.json := by
  cases o with
  | config =>
      obtain ⟨texts, read, result⟩ := bind_eq_ok_iff.1 h
      cases result
      exact ⟨bind_eq_ok_iff.2 ⟨texts, read, rfl⟩, rfl⟩
  | list o =>
      match values with
      | [raw] => exact append_flagged h
      | [] | _ :: _ :: _ => cases h
  | configFile =>
      match values with
      | [raw] =>
          simp only [settle] at h
          split at h
          · cases h
          · rename_i free
            obtain ⟨path, read, result⟩ := bind_eq_ok_iff.1 h
            cases result
            exact ⟨(if_neg free).trans (bind_eq_ok_iff.2 ⟨path, read, rfl⟩), rfl⟩
      | [] | _ :: _ :: _ => cases h

end Arguments

/-! ## Steps -/

namespace ReadState

theorem settled_flagged {st : ReadState} {a : Arguments} (h : st.settled = .ok a) :
    st.flagged.settled = .ok a.flagged ∧ a.json = st.arguments.json := by
  obtain ⟨b, waiting⟩ := st
  cases waiting with
  | none =>
      cases h
      exact ⟨rfl, rfl⟩
  | some w => exact Arguments.settle_flagged h

/-- If the flag is unset after the step, it was unset before, and with the flag the step is the
same. -/
def IgnoresFlag (step : ReadState → Except Refusal ReadState) : Prop :=
  ∀ st after, step st = .ok after → after.arguments.json = false →
    st.arguments.json = false ∧ step st.flagged = .ok after.flagged

theorem ignoresFlag_bare (o : CommandOption) : IgnoresFlag fun st => st.bare o := by
  intro st after h unset
  obtain ⟨a, done, result⟩ := bind_eq_ok_iff.1 h
  obtain ⟨doneFlagged, kept⟩ := settled_flagged done
  cases o with
  | value o =>
      cases result
      exact ⟨kept.symm.trans unset, bind_eq_ok_iff.2 ⟨_, doneFlagged, rfl⟩⟩
  | json =>
      -- The flag itself: afterwards it is set.
      dsimp only at result
      split at result
      · cases result
      · cases result
        cases unset
  | help => cases result
  | version => cases result

theorem ignoresFlag_attached (o : CommandOption) (raw : RawArgument) :
    IgnoresFlag fun st => st.attached o raw := by
  intro st after h unset
  cases o with
  | value o =>
      obtain ⟨a, done, result⟩ := bind_eq_ok_iff.1 h
      obtain ⟨b, settles, result⟩ := bind_eq_ok_iff.1 result
      cases result
      obtain ⟨doneFlagged, kept⟩ := settled_flagged done
      obtain ⟨settlesFlagged, keptToo⟩ := Arguments.settle_flagged settles
      refine ⟨kept.symm.trans (keptToo.symm.trans unset), ?_⟩
      exact bind_eq_ok_iff.2 ⟨_, doneFlagged, bind_eq_ok_iff.2 ⟨_, settlesFlagged, rfl⟩⟩
  | json => cases h
  | help => cases h
  | version => cases h

theorem ignoresFlag_named (raw : RawArgument) : IgnoresFlag fun st => st.named raw := by
  intro st after h unset
  simp only [named] at h ⊢
  split at h
  · cases h
  · rename_i o _
    split at h
    · exact ignoresFlag_bare o st after h unset
    · exact ignoresFlag_attached o _ st after h unset

theorem ignoresFlag_letters (raw : RawArgument) : IgnoresFlag fun st => st.letters raw := by
  induction raw with
  | nil =>
      intro st after h unset
      cases h
      exact ⟨unset, rfl⟩
  | cons letter rest ih =>
      intro st after h unset
      simp only [letters] at h ⊢
      split at h
      · cases h
      · split at h
        · exact ignoresFlag_bare _ st after h unset
        · exact ignoresFlag_attached _ _ st after h unset
      · obtain ⟨next, first, others⟩ := bind_eq_ok_iff.1 h
        obtain ⟨unsetNext, othersFlagged⟩ := ih next after others unset
        obtain ⟨unsetFirst, firstFlagged⟩ := ignoresFlag_bare _ st next first unsetNext
        exact ⟨unsetFirst, bind_eq_ok_iff.2 ⟨_, firstFlagged, othersFlagged⟩⟩

theorem ignoresFlag_plain (raw : RawArgument) : IgnoresFlag fun st => st.plain raw := by
  intro st after h unset
  obtain ⟨a, waiting⟩ := st
  cases waiting with
  | none => cases h
  | some w =>
      simp only [plain, flagged] at h ⊢
      split at h
      · rename_i more
        cases h
        exact ⟨unset, if_pos more⟩
      · cases h

theorem ignoresFlag_ite {c : Prop} [Decidable c] {f g : ReadState → Except Refusal ReadState}
    (left : IgnoresFlag f) (right : IgnoresFlag g) :
    IgnoresFlag fun st => if c then f st else g st := by
  split
  · exact left
  · exact right

theorem ignoresFlag_argument (raw : RawArgument) : IgnoresFlag fun st => st.argument raw := by
  match raw with
  | first :: second :: rest =>
      exact ignoresFlag_ite (ignoresFlag_ite (ignoresFlag_named rest)
        (ignoresFlag_letters (second :: rest))) (ignoresFlag_plain (first :: second :: rest))
  | [] => exact ignoresFlag_plain []
  | [first] => exact ignoresFlag_plain [first]

/-! ## Runs -/

/-- Arguments that do not set the flag are read with it as they are without. -/
theorem read_flagged {raw : List RawArgument} {st : ReadState} {a : Arguments}
    (h : st.read raw = .ok a) (unset : a.json = false) :
    st.arguments.json = false ∧ st.flagged.read raw = .ok a.flagged := by
  induction raw generalizing st with
  | nil =>
      obtain ⟨doneFlagged, kept⟩ := settled_flagged h
      exact ⟨kept.symm.trans unset, doneFlagged⟩
  | cons first rest ih =>
      rw [read] at h ⊢
      split at h
      · rename_i ends
        split at h
        · rename_i last
          obtain ⟨doneFlagged, kept⟩ := settled_flagged h
          refine ⟨kept.symm.trans unset, ?_⟩
          rw [if_pos ends, if_pos last]
          exact doneFlagged
        · cases h
      · rename_i goesOn
        obtain ⟨after, next, others⟩ := bind_eq_ok_iff.1 h
        obtain ⟨unsetAfter, othersFlagged⟩ := ih others
        obtain ⟨unsetFirst, nextFlagged⟩ := ignoresFlag_argument first st after next unsetAfter
        rw [if_neg goesOn]
        exact ⟨unsetFirst, bind_eq_ok_iff.2 ⟨_, nextFlagged, othersFlagged⟩⟩

end ReadState

/-- The argument that sets the flag. -/
def jsonArgument : RawArgument := Utf8.encode "--json"

/-- **`--json` before arguments without it sets the flag and changes nothing else.** -/
theorem Arguments.read_json_cons {raw : List RawArgument} {a : Arguments}
    (h : Arguments.read raw = .ok a) (unset : a.json = false) :
    Arguments.read (jsonArgument :: raw) = .ok { a with json := true } := by
  have flag : Occurrence.json.render = [jsonArgument] := by decide +kernel
  have spelled : Occurrence.json.WellSpelled := trivial
  have first : ReadState.start.read (Occurrence.json.render ++ raw) =
      ReadState.start.flagged.read raw := ReadState.read_render_append spelled _ raw
  rw [flag, List.singleton_append] at first
  exact first.trans (ReadState.read_flagged h unset).2

end TestDiscovery
