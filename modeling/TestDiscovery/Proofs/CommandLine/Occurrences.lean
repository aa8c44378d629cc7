/-
# TestDiscovery.Proofs.CommandLine.Occurrences -- options as they are written

An option is used with its value beside it, `--name=value`, or with its values in the
arguments after its name.  `Occurrence` is one such use and `Occurrence.render` the
arguments that write it.

A reader keeps the values of the last option until the next one settles them.  All the
same, reading written options is settling one use after the other
(`ReadState.read_render`): the state before a use matters only by what it settles to,
and the values after a name are read up to the next option, so that no use takes a
value of its neighbours or loses one to them.  This holds of uses that are refused too.
-/
import TestDiscovery.CommandLine.Reader
import Mathlib.Data.List.TakeWhile

namespace TestDiscovery

set_option autoImplicit false

open TestDiscovery.Text

/-! ## Uses of options -/

/-- One use of an option. -/
inductive Occurrence where
  /-- `--name=value`. -/
  | joined (o : ValueOption) (value : RawArgument)
  /-- `--name` and its values, each an argument of its own. -/
  | apart (o : ValueOption) (values : List RawArgument)
  /-- `-c` and its values, each an argument of its own. -/
  | letter (values : List RawArgument)
  /-- `--json`. -/
  | json
  deriving DecidableEq, Repr

/-- The argument that names an option. -/
def CommandOption.argument (o : CommandOption) : RawArgument :=
  '-'.toUInt8 :: '-'.toUInt8 :: Utf8.encode o.name

/-- A value that can be an argument of its own: it does not start with a hyphen, unless it is a
hyphen alone. -/
def StandsAlone (value : RawArgument) : Prop :=
  value = ['-'.toUInt8] ∨ value.head? ≠ some '-'.toUInt8

instance (value : RawArgument) : Decidable (StandsAlone value) :=
  inferInstanceAs (Decidable (_ ∨ _))

namespace Occurrence

/-- The arguments that write the use. -/
def render : Occurrence → List RawArgument
  | .joined o value => [(CommandOption.value o).argument ++ '='.toUInt8 :: value]
  | .apart o values => (CommandOption.value o).argument :: values
  | .letter values => ['-'.toUInt8, 'c'.toUInt8] :: values
  | .json => [CommandOption.json.argument]

/-- Values stand apart only if they can, and except for `--config` there is one of them. -/
def WellSpelled : Occurrence → Prop
  | .joined _ _ => True
  | .apart o values => (o = .config ∨ ∃ value, values = [value]) ∧ ∀ v ∈ values, StandsAlone v
  | .letter values => ∀ v ∈ values, StandsAlone v
  | .json => True

end Occurrence

/-- The arguments after one more use of an option. -/
def Arguments.use (a : Arguments) : Occurrence → Except Refusal Arguments
  | .joined o value => a.settle o [value]
  | .apart o values => a.settle o values
  | .letter values => a.settle .config values
  | .json => if a.json then .error .argumentConflict else .ok { a with json := true }

/-! ## Names -/

namespace CommandOption

theorem mem_all (o : CommandOption) : o ∈ all := by
  cases o with
  | value o =>
      cases o with
      | list o => cases o <;> decide
      | config => decide
      | configFile => decide
  | json => decide
  | help => decide
  | version => decide

theorem ofName?_encode_name (o : CommandOption) : ofName? (Utf8.encode o.name) = some o := by
  have known : ∀ o ∈ all, ofName? (Utf8.encode o.name) = some o := by decide +kernel
  exact known o o.mem_all

theorem not_mem_encode_name (o : CommandOption) : '='.toUInt8 ∉ Utf8.encode o.name := by
  have known : ∀ o ∈ all, '='.toUInt8 ∉ Utf8.encode o.name := by decide +kernel
  exact known o o.mem_all

theorem encode_name_ne_nil (o : CommandOption) : Utf8.encode o.name ≠ [] := by
  have known : ∀ o ∈ all, Utf8.encode o.name ≠ [] := by decide +kernel
  exact known o o.mem_all

theorem takeWhile_encode_name (o : CommandOption) :
    (Utf8.encode o.name).takeWhile (· != '='.toUInt8) = Utf8.encode o.name := by
  rw [List.takeWhile_eq_self_iff]
  intro byte hb
  have other : byte ≠ '='.toUInt8 := fun same => o.not_mem_encode_name (same ▸ hb)
  simpa using other

end CommandOption

namespace ReadState

variable (st : ReadState)

theorem named_name (o : CommandOption) : st.named (Utf8.encode o.name) = st.bare o := by
  simp only [named, o.takeWhile_encode_name, o.ofName?_encode_name, List.drop_length]

theorem named_name_append (o : CommandOption) (value : RawArgument) :
    st.named (Utf8.encode o.name ++ '='.toUInt8 :: value) = st.attached o value := by
  have name : (Utf8.encode o.name ++ '='.toUInt8 :: value).takeWhile (· != '='.toUInt8) =
      Utf8.encode o.name := by
    rw [List.takeWhile_append, o.takeWhile_encode_name, if_pos rfl]
    simp
  simp only [named, name, o.ofName?_encode_name, List.drop_left]

/-! ## One argument -/

theorem read_cons {raw : RawArgument} (h : raw ≠ ['-'.toUInt8, '-'.toUInt8])
    (rest : List RawArgument) :
    st.read (raw :: rest) = (do (← st.argument raw).read rest) := by
  rw [read, if_neg h]

theorem read_named {name : RawArgument} (h : name ≠ []) (rest : List RawArgument) :
    st.read (('-'.toUInt8 :: '-'.toUInt8 :: name) :: rest) =
      (do (← st.named name).read rest) := by
  rw [read_cons st (by simpa using h)]
  simp only [argument, if_true]

theorem argument_of_standsAlone {value : RawArgument} (h : StandsAlone value) :
    st.argument value = st.plain value := by
  unfold argument
  split
  · rename_i first second rest
    rcases h with single | other
    · cases single
    · rw [if_neg (by simpa using other)]
  · rfl

theorem ne_of_standsAlone {value : RawArgument} (h : StandsAlone value) :
    value ≠ ['-'.toUInt8, '-'.toUInt8] := by
  rintro rfl
  rcases h with single | other
  · cases single
  · exact other rfl

/-- A value that can stand alone goes to the option that waits for one. -/
theorem read_value {value : RawArgument} (h : StandsAlone value) (a : Arguments)
    (o : ValueOption) (before : List RawArgument) (rest : List RawArgument) :
    read ⟨a, some ⟨o, before, true⟩⟩ (value :: rest) =
      read ⟨a, some ⟨o, before ++ [value], o == .config⟩⟩ rest := by
  rw [read_cons _ (ne_of_standsAlone h), argument_of_standsAlone _ h]
  rfl

theorem read_values {values : List RawArgument} (h : ∀ v ∈ values, StandsAlone v) (a : Arguments)
    (before : List RawArgument) (rest : List RawArgument) :
    read ⟨a, some ⟨.config, before, true⟩⟩ (values ++ rest) =
      read ⟨a, some ⟨.config, before ++ values, true⟩⟩ rest := by
  induction values generalizing before with
  | nil => simp
  | cons value values ih =>
      obtain ⟨head, others⟩ := List.forall_mem_cons.1 h
      rw [List.cons_append, read_value head]
      exact (ih others (before ++ [value])).trans (by rw [List.append_assoc]; rfl)

end ReadState

/-! ## One use -/

/-- The state after a use of an option; values that stand apart still wait. -/
def Occurrence.leaves (a : Arguments) : Occurrence → Except Refusal ReadState
  | .joined o value => do return ⟨← a.settle o [value], none⟩
  | .apart o values => .ok ⟨a, some ⟨o, values, o == .config⟩⟩
  | .letter values => .ok ⟨a, some ⟨.config, values, true⟩⟩
  | .json => if a.json then .error .argumentConflict else .ok ⟨{ a with json := true }, none⟩

/-- Whether values wait or not, the state comes to the arguments after the use. -/
theorem Occurrence.settled_leaves (a : Arguments) (u : Occurrence) :
    (do (← u.leaves a).settled) = a.use u := by
  cases u with
  | joined o value =>
      simp only [leaves, bind_assoc, pure_bind]
      exact bind_pure (a.settle o [value])
  | apart o values => rfl
  | letter values => rfl
  | json =>
      simp only [leaves, Arguments.use]
      split <;> rfl

namespace ReadState

theorem argument_letter (st : ReadState) :
    st.argument ['-'.toUInt8, 'c'.toUInt8] = st.bare (.value .config) := rfl

theorem bare_value (st : ReadState) (o : ValueOption) :
    st.bare (.value o) = (do return ⟨← st.settled, some ⟨o, [], true⟩⟩) := rfl

theorem bare_json (st : ReadState) :
    st.bare .json = (do Occurrence.json.leaves (← st.settled)) := rfl

/-- **The arguments of a use are read from what the state before it settles to.** -/
theorem read_render_append {u : Occurrence} (h : u.WellSpelled) (st : ReadState)
    (rest : List RawArgument) :
    st.read (u.render ++ rest) = (do (← u.leaves (← st.settled)).read rest) := by
  cases u with
  | joined o value =>
      have name : Utf8.encode (CommandOption.value o).name ++ '='.toUInt8 :: value ≠ [] := by simp
      show st.read ((_ :: _ :: (Utf8.encode _ ++ _ :: value)) :: rest) = _
      rw [read_named st name, named_name_append]
      simp only [attached, Occurrence.leaves, bind_assoc]
  | apart o values =>
      obtain ⟨count, alone⟩ := h
      have waits : ∀ a, read ⟨a, some ⟨o, [], true⟩⟩ (values ++ rest) =
          read ⟨a, some ⟨o, values, o == .config⟩⟩ rest := by
        intro a
        rcases count with rfl | ⟨value, rfl⟩
        · exact read_values alone a [] rest
        · exact read_value (alone value List.mem_cons_self) a o [] rest
      show st.read ((_ :: _ :: Utf8.encode _) :: (values ++ rest)) = _
      rw [read_named st (CommandOption.encode_name_ne_nil _), named_name, bare_value]
      simp only [Occurrence.leaves, bind_assoc, pure_bind, waits]
      rfl
  | letter values =>
      have waits : ∀ a, read ⟨a, some ⟨.config, [], true⟩⟩ (values ++ rest) =
          read ⟨a, some ⟨.config, values, true⟩⟩ rest :=
        fun a => read_values h a [] rest
      show st.read (_ :: (values ++ rest)) = _
      rw [read_cons st (by decide), argument_letter, bare_value]
      simp only [Occurrence.leaves, bind_assoc, pure_bind, waits]
      rfl
  | json =>
      show st.read ((_ :: _ :: Utf8.encode _) :: rest) = _
      rw [read_named st (CommandOption.encode_name_ne_nil _), named_name, bare_json, bind_assoc]

/-! ## Many uses -/

/-- **Reading written options is settling one use after the other.** -/
theorem read_render {us : List Occurrence} (h : ∀ u ∈ us, u.WellSpelled) (st : ReadState) :
    st.read (us.flatMap Occurrence.render) = (do us.foldlM Arguments.use (← st.settled)) := by
  induction us generalizing st with
  | nil => exact (bind_pure st.settled).symm
  | cons u us ih =>
      obtain ⟨head, rest⟩ := List.forall_mem_cons.1 h
      calc st.read ((u :: us).flatMap Occurrence.render)
          = (do (← u.leaves (← st.settled)).read (us.flatMap Occurrence.render)) :=
            read_render_append head st _
        _ = (do us.foldlM Arguments.use (← (← u.leaves (← st.settled)).settled)) := by
            simp only [ih rest]
        _ = (do us.foldlM Arguments.use (← (← st.settled).use u)) := by
            simp only [← Occurrence.settled_leaves, bind_assoc]
        _ = (do (u :: us).foldlM Arguments.use (← st.settled)) := by
            simp only [List.foldlM_cons]

end ReadState

end TestDiscovery
