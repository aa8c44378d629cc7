/-
# TestDiscovery.Text.Cut -- cutting a text at its first separator

`cutAt` divides a list of characters at the first occurrence of a separator.
`cutAt_eq_some_iff` says that the two parts, with the separator between them, are
the text and that the first part is free of the separator, so nothing is lost.
-/

namespace TestDiscovery.Text

set_option autoImplicit false

/-- The parts before and after the first `sep`, or `none` where there is none. -/
def cutAt (sep : Char) : List Char → Option (List Char × List Char)
  | [] => none
  | c :: cs =>
    if c = sep then some ([], cs)
    else (cutAt sep cs).map fun (before, after) => (c :: before, after)

theorem cutAt_eq_none_iff (sep : Char) (cs : List Char) :
    cutAt sep cs = none ↔ sep ∉ cs := by
  induction cs with
  | nil => simp [cutAt]
  | cons c cs ih =>
    by_cases h : c = sep
    · simp [cutAt, h]
    · simp [cutAt, h, ih, Ne.symm h]

theorem cutAt_append (sep : Char) (before after : List Char) (h : sep ∉ before) :
    cutAt sep (before ++ sep :: after) = some (before, after) := by
  induction before with
  | nil => simp [cutAt]
  | cons c cs ih =>
    have hc : c ≠ sep := fun e => h (by simp [e])
    have hs : sep ∉ cs := fun e => h (by simp [e])
    simp [cutAt, hc, ih hs]

theorem eq_append_of_cutAt {sep : Char} {cs before after : List Char}
    (h : cutAt sep cs = some (before, after)) :
    cs = before ++ sep :: after ∧ sep ∉ before := by
  induction cs generalizing before with
  | nil => simp [cutAt] at h
  | cons c cs ih =>
    by_cases hc : c = sep
    · simp only [cutAt, hc, if_true, Option.some.injEq, Prod.mk.injEq] at h
      obtain ⟨rfl, rfl⟩ := h
      simp [hc]
    · simp only [cutAt, hc, if_false, Option.map_eq_some_iff] at h
      obtain ⟨⟨b, a⟩, hcut, hba⟩ := h
      simp only [Prod.mk.injEq] at hba
      obtain ⟨rfl, rfl⟩ := hba
      obtain ⟨rfl, hn⟩ := ih hcut
      exact ⟨by simp, by simp [Ne.symm hc, hn]⟩

theorem cutAt_eq_some_iff {sep : Char} {cs before after : List Char} :
    cutAt sep cs = some (before, after) ↔ cs = before ++ sep :: after ∧ sep ∉ before :=
  ⟨eq_append_of_cutAt, fun ⟨e, h⟩ => e ▸ cutAt_append sep before after h⟩

end TestDiscovery.Text
