/-
# TestDiscovery.Proofs.Text.Parts -- trimmed texts and the pieces between separators

Trimming takes away white space at both ends and nothing else: what is left is a
piece of the text (`isInfix_trimChars`), white space put in front makes no
difference, and a trimmed text has nothing more to lose (`trimChars_trimChars`).
A name (`IsName`) is a text that a reader which trims gives back unchanged.

The pieces between separators hold characters of the text and no separator
(`mem_of_mem_splitOn`).  A list joined with a separator and a blank splits into
its first part and the other parts with the blank in front (`splitOn_joined`).
-/
import TestDiscovery.Text.Blank
import Mathlib.Data.List.DropRight

namespace TestDiscovery.Text

set_option autoImplicit false

/-! ## Characters -/

theorem trimEnd_eq_rdropWhile (cs : List Char) : trimEnd cs = cs.rdropWhile isSpace := rfl

/-- What is left is a piece of the text. -/
theorem isInfix_trimChars (cs : List Char) : trimChars cs <:+: cs := by
  rw [trimChars, trimEnd_eq_rdropWhile]
  have front : (trimStart cs).rdropWhile isSpace <+: trimStart cs := List.rdropWhile_prefix ..
  exact front.isInfix.trans (List.dropWhile_suffix isSpace).isInfix

theorem mem_of_mem_trimChars {c : Char} {cs : List Char} (h : c ∈ trimChars cs) : c ∈ cs :=
  (isInfix_trimChars cs).subset h

/-- White space in front makes no difference. -/
theorem trimChars_cons_of_isSpace {c : Char} (h : isSpace c = true) (cs : List Char) :
    trimChars (c :: cs) = trimChars cs := by
  rw [trimChars, trimChars, trimStart, trimStart, List.dropWhile_cons_of_pos h]

/-- A list that does not start with white space loses its end only. -/
theorem trimStart_trimEnd_of_trimStart {cs : List Char} (h : trimStart cs = cs) :
    trimStart (trimEnd cs) = trimEnd cs := by
  have front : trimEnd cs <+: cs := List.rdropWhile_prefix ..
  cases hend : trimEnd cs with
  | nil => rfl
  | cons c rest =>
      rw [hend] at front
      obtain ⟨more, rfl⟩ := front
      have : ¬ isSpace c = true := by
        intro space
        have shorter := congrArg List.length h
        rw [trimStart, List.cons_append, List.dropWhile_cons_of_pos space] at shorter
        have := (List.dropWhile_suffix isSpace (l := rest ++ more)).length_le
        simp only [List.length_cons] at shorter
        omega
      rw [trimStart, List.dropWhile_cons_of_neg this]

/-- **Trimming twice is trimming once.** -/
theorem trimChars_trimChars (cs : List Char) : trimChars (trimChars cs) = trimChars cs := by
  have start : trimStart (trimStart cs) = trimStart cs := List.dropWhile_idempotent ..
  have finish : trimEnd (trimEnd (trimStart cs)) = trimEnd (trimStart cs) :=
    List.rdropWhile_idempotent ..
  calc trimChars (trimChars cs) = trimEnd (trimStart (trimEnd (trimStart cs))) := rfl
    _ = trimEnd (trimEnd (trimStart cs)) := by rw [trimStart_trimEnd_of_trimStart start]
    _ = trimChars cs := finish

/-! ## Texts -/

theorem toList_trim (s : String) : (trim s).toList = trimChars s.toList := by
  rw [trim, String.toList_ofList]

/-- A text that is not empty and has no white space at its ends. -/
structure IsName (s : String) : Prop where
  filled : s ≠ ""
  trimmed : trim s = s

theorem IsName.trimChars_toList {s : String} (h : IsName s) : trimChars s.toList = s.toList := by
  rw [← toList_trim, h.trimmed]

/-- A name is not blank. -/
theorem IsName.not_isBlank {s : String} (h : IsName s) : s.toList.all isSpace ≠ true := by
  intro blank
  have := (trim_eq_empty_iff s).2 blank
  exact h.filled (h.trimmed.symm.trans this)

/-- What trimming leaves of some characters is a name, unless it is empty. -/
theorem isName_ofList_trimChars {cs : List Char} (h : String.ofList (trimChars cs) ≠ "") :
    IsName (String.ofList (trimChars cs)) := by
  refine ⟨h, ?_⟩
  rw [trim, String.toList_ofList, trimChars_trimChars]

/-! ## Pieces -/

/-- The pieces hold characters of the text, and no separator. -/
theorem mem_of_mem_splitOn {sep c : Char} {cs piece : List Char}
    (hp : piece ∈ cs.splitOn sep) (hc : c ∈ piece) : c ∈ cs ∧ c ≠ sep := by
  induction cs generalizing piece with
  | nil =>
      rw [List.splitOn_nil, List.mem_singleton] at hp
      simp [hp] at hc
  | cons x xs ih =>
      rw [List.splitOn_cons_eq_if_modifyHead] at hp
      split at hp
      · rcases List.mem_cons.1 hp with rfl | hp
        · simp at hc
        · exact (ih hp hc).imp_left (List.mem_cons_of_mem x)
      · rename_i ne
        obtain ⟨first, rest, pieces⟩ := List.exists_cons_of_ne_nil (List.splitOn_ne_nil sep xs)
        rw [pieces, List.modifyHead_cons, List.mem_cons] at hp
        rcases hp with rfl | hp
        · rcases List.mem_cons.1 hc with rfl | hc
          · exact ⟨List.mem_cons_self, by simpa using ne⟩
          · exact (ih (pieces ▸ List.mem_cons_self) hc).imp_left (List.mem_cons_of_mem x)
        · exact (ih (pieces ▸ List.mem_cons_of_mem first hp) hc).imp_left (List.mem_cons_of_mem x)

theorem mem_of_mem_intercalate {α : Type} {sep : List α} {parts : List (List α)} {c : α}
    (h : c ∈ sep.intercalate parts) : c ∈ sep ∨ ∃ part ∈ parts, c ∈ part := by
  induction parts with
  | nil => simp at h
  | cons part parts ih =>
      cases parts with
      | nil => exact Or.inr ⟨part, List.mem_cons_self, by simpa using h⟩
      | cons next rest =>
          rw [List.intercalate_cons_cons, List.append_assoc, List.mem_append, List.mem_append] at h
          rcases h with h | h | h
          · exact Or.inr ⟨part, List.mem_cons_self, h⟩
          · exact Or.inl h
          · obtain hsep | ⟨other, ho, hc⟩ := ih h
            · exact Or.inl hsep
            · exact Or.inr ⟨other, List.mem_cons_of_mem part ho, hc⟩

theorem intercalate_cons_eq_append {α : Type} (sep part : List α) (parts : List (List α)) :
    ∃ more, sep.intercalate (part :: parts) = part ++ more := by
  cases parts with
  | nil => exact ⟨[], by simp⟩
  | cons next rest =>
      exact ⟨sep ++ sep.intercalate (next :: rest), by
        rw [List.intercalate_cons_cons, List.append_assoc]⟩

/-- The blank after a separator may as well be counted to the part that follows. -/
theorem intercalate_blank (sep : Char) (part : List Char) (parts : List (List Char)) :
    [sep, ' '].intercalate (part :: parts) =
      [sep].intercalate (part :: parts.map (' ' :: ·)) := by
  induction parts generalizing part with
  | nil => simp
  | cons next rest ih =>
      rw [List.intercalate_cons_cons, List.map_cons, List.intercalate_cons_cons, ih]
      cases rest <;> simp [List.intercalate_cons_cons]

theorem splitOn_joined {sep : Char} (hsep : sep ≠ ' ') {part : List Char}
    {parts : List (List Char)} (h : ∀ p ∈ part :: parts, sep ∉ p) :
    ([sep, ' '].intercalate (part :: parts)).splitOn sep = part :: parts.map (' ' :: ·) := by
  rw [intercalate_blank]
  refine List.splitOn_intercalate sep ?_ (List.cons_ne_nil _ _)
  intro piece hp
  rcases List.mem_cons.1 hp with rfl | hp
  · exact h piece List.mem_cons_self
  · obtain ⟨p, inner, rfl⟩ := List.mem_map.1 hp
    simpa [hsep] using h p (List.mem_cons_of_mem part inner)

/-- Reading every element succeeds with the readings of the elements, in order. -/
theorem mapM_eq_some_iff {α β : Type} {read : α → Option β} {xs : List α} {ys : List β} :
    xs.mapM read = some ys ↔ xs.map read = ys.map some := by
  induction xs generalizing ys with
  | nil => cases ys <;> simp
  | cons x xs ih =>
      simp only [List.mapM_cons, Option.pure_def, Option.bind_eq_bind, Option.bind_eq_some_iff,
        Option.some.injEq, ih]
      constructor
      · rintro ⟨y, hx, ys, hxs, rfl⟩
        rw [List.map_cons, List.map_cons, hx, hxs]
      · intro h
        cases ys with
        | nil => simp at h
        | cons y ys =>
            obtain ⟨hx, hxs⟩ := List.cons.inj h
            exact ⟨y, hx, ys, hxs, rfl⟩

/-- When every element has one spelling, so has a list. -/
theorem mapM_eq_some_iff_eq_map {α β : Type} {read : α → Option β} {write : β → α}
    (spells : ∀ x y, read x = some y ↔ x = write y) {xs : List α} {ys : List β} :
    xs.mapM read = some ys ↔ xs = ys.map write := by
  rw [mapM_eq_some_iff]
  induction xs generalizing ys with
  | nil => cases ys <;> simp
  | cons x xs ih =>
      cases ys with
      | nil => simp
      | cons y ys => simp only [List.map_cons, List.cons.injEq, spells, ih]

end TestDiscovery.Text
