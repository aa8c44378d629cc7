/-
# TestDiscovery.Proofs.Json.ReadBack -- documents are read back

Reading gives back the value of every document, whatever its white space and its
escapes (`read?_of_isWrittenBy`), so a text is a document of one value at most.  There
are two steps: a text that spells tokens is cut into these tokens
(`tokensFrom?_of_spells`), and the tokens of a value lead from the place where a value
may stand to the place after it, whatever is open around it (`foldlM_tokens`).

The printed form of a value is a document of it (`isWrittenBy_pretty`).
-/
import TestDiscovery.Json.Reader

namespace TestDiscovery.Json

set_option autoImplicit false

open TestDiscovery.Text (Reading)

/-! ## One character -/

theorem unit?_append {ds : List Char} (four : ds.length = 4) (rest : List Char) :
    unit? (ds ++ rest) = unit? ds := by
  match ds, four with
  | [_, _, _, _], _ => rfl

theorem char?_toNat (c : Char) : char? c.toNat = some c := by
  have valid : c.toNat.isValidChar := c.valid
  rw [char?, dif_pos valid]
  exact congrArg some (Char.ext (UInt32.toNat_inj.1 rfl))

/-- The code point of a character is no surrogate. -/
theorem not_isHigh_toNat (c : Char) : ¬ IsHigh c.toNat := by
  intro surrogate
  have valid : c.toNat < 0xD800 ∨ 0xDFFF < c.toNat ∧ c.toNat < 0x110000 := c.valid
  obtain ⟨low, high⟩ := surrogate
  omega

theorem unitEscape?_unit {c : Char} {ds : List Char} (h : unit? ds = some c.toNat)
    (four : ds.length = 4) (rest : List Char) : unitEscape? (ds ++ rest) = some ⟨c, 4⟩ := by
  simp [unitEscape?, unit?_append four, h, not_isHigh_toNat, char?_toNat]

theorem unitEscape?_pair {c : Char} {ds es : List Char} {high low : Nat}
    (first : unit? ds = some high) (second : unit? es = some low) (isHigh : IsHigh high)
    (isLow : IsLow low) (code : c.toNat = pairCode high low) (four : ds.length = 4)
    (fourMore : es.length = 4) (rest : List Char) :
    unitEscape? (ds ++ '\\' :: 'u' :: (es ++ rest)) = some ⟨c, 10⟩ := by
  have after : (ds ++ '\\' :: 'u' :: (es ++ rest)).drop 4 = '\\' :: 'u' :: (es ++ rest) :=
    List.drop_left' four
  simp [unitEscape?, unit?_append four, first, isHigh, after, unit?_append fourMore, second, isLow,
    ← code, char?_toNat]

/-- An escape is read from what follows its backslash. -/
theorem escape?_of_spellsChar {c : Char} {tail : List Char} (h : SpellsChar c ('\\' :: tail))
    (rest : List Char) : escape? (tail ++ rest) = some ⟨c, tail.length⟩ := by
  cases h with
  | plain _ _ backslash => exact absurd rfl backslash
  | letter known =>
      rename_i e
      have other : e ≠ 'u' := by
        rintro rfl
        cases known
      simp [escape?, other, known]
  | unit known four => simp [escape?, unitEscape?_unit known four, Reading.after, four, Nat.add_comm]
  | pair first second isHigh isLow code four fourMore =>
      simp [escape?, unitEscape?_pair first second isHigh isLow code four fourMore, Reading.after,
        four, fourMore]

/-! ## Texts in quotes -/

theorem textBody?_eq_drop (n : Nat) (cs : List Char) : textBody? n cs = textBody? 0 (cs.drop n) := by
  induction cs generalizing n with
  | nil => cases n <;> rfl
  | cons c cs ih =>
      cases n with
      | zero => rfl
      | succ n => exact ih n

/-- However a character is spelled, it is read and its spelling is passed over. -/
theorem textBody?_of_spellsChar {c : Char} {spelled : List Char} (h : SpellsChar c spelled)
    (rest : List Char) : textBody? 0 (spelled ++ rest) =
      (textBody? 0 rest).map fun r => ⟨c :: r.value, spelled.length + r.length⟩ := by
  have escaped : ∀ tail, spelled = '\\' :: tail → textBody? 0 (spelled ++ rest) =
      (textBody? 0 rest).map fun r => ⟨c :: r.value, spelled.length + r.length⟩ := by
    rintro tail rfl
    have read := escape?_of_spellsChar h rest
    simp only [List.cons_append, textBody?, Char.reduceEq, if_false, if_true, read,
      Option.bind_eq_bind, Option.bind_some, textBody?_eq_drop tail.length, List.drop_left]
    cases textBody? 0 rest with
    | none => rfl
    | some r => simp [Nat.add_comm]
  cases h with
  | plain visible quote backslash =>
      simp only [List.singleton_append, textBody?, quote, backslash, visible, if_false, if_true]
      cases textBody? 0 rest with
      | none => rfl
      | some r => rfl
  | letter known => exact escaped _ rfl
  | unit known four => exact escaped _ rfl
  | pair first second isHigh isLow code four fourMore => exact escaped _ rfl

theorem textBody?_of_spellsText {cs spelled : List Char} (h : SpellsText cs spelled)
    (rest : List Char) : textBody? 0 (spelled ++ '"' :: rest) = some ⟨cs, spelled.length + 1⟩ := by
  induction h with
  | nil => rfl
  | @cons c cs spelled more head tail ih =>
      rw [List.append_assoc, textBody?_of_spellsChar head, ih]
      simp [Nat.add_assoc]

/-! ## Tokens -/

theorem tokensFrom?_eq_drop (n : Nat) (cs : List Char) :
    tokensFrom? n cs = tokensFrom? 0 (cs.drop n) := by
  induction cs generalizing n with
  | nil => cases n <;> rfl
  | cons c cs ih =>
      cases n with
      | zero => rfl
      | succ n => exact ih n

/-- A mark starts neither white space nor a text, and it is known by its character. -/
theorem Mark.reads (m : Mark) :
    isSpace m.char = false ∧ m.char ≠ '"' ∧ Mark.ofChar? m.char = some m := by
  cases m <;> decide

theorem tokensFrom?_of_spells {ts : List Token} {cs : List Char} (h : Spells ts cs) :
    tokensFrom? 0 cs = some ts := by
  induction h with
  | nil => rfl
  | space blank rest ih => simp only [tokensFrom?, blank, if_true, ih]
  | mark m rest ih =>
      obtain ⟨noSpace, noQuote, known⟩ := m.reads
      simp [tokensFrom?, noSpace, noQuote, known, ih]
  | @text s spelled ts cs inside rest ih =>
      have read := textBody?_of_spellsText inside cs
      have after : (spelled ++ '"' :: cs).drop (spelled.length + 1) = cs := by
        rw [List.append_cons]
        exact List.drop_left' (by simp)
      have noSpace : isSpace '"' = false := by decide
      simp [tokensFrom?, noSpace, read, tokensFrom?_eq_drop (spelled.length + 1), after, ih]

/-! ## Values -/

/-- The first token of a value does not end an array, so a first item is read like any other. -/
theorem tokens_eq_cons (j : Json) : ∃ t ts, j.tokens = t :: ts ∧ t ≠ .mark .closeArray := by
  match j with
  | .text s => exact ⟨_, _, rfl, nofun⟩
  | .array [] | .array (_ :: _) => exact ⟨_, _, rfl, nofun⟩
  | .object [] | .object (_ :: _) => exact ⟨_, _, rfl, nofun⟩

namespace Place

theorem foldlM_firstItem (j : Json) (outer : List Frame) (more : List Token) :
    (j.tokens ++ more).foldlM next? (.firstItem outer) =
      (j.tokens ++ more).foldlM next? (.value (.array [] :: outer)) := by
  obtain ⟨t, ts, first, open_⟩ := j.tokens_eq_cons
  have same : next? (.firstItem outer) t = next? (.value (.array [] :: outer)) t := if_neg open_
  simp only [first, List.cons_append, List.foldlM_cons, same]

mutual

/-- **The tokens of a value lead to the place after it**, whatever is open around it. -/
theorem foldlM_tokens (j : Json) (outer : List Frame) (more : List Token) :
    (j.tokens ++ more).foldlM next? (.value outer) = more.foldlM next? (.complete j outer) := by
  match j with
  | .text s => rfl
  | .array [] => rfl
  | .array (item :: rest) =>
      have first : (item.tokens ++ (itemTokens rest ++ .mark .closeArray :: more)).foldlM next?
          (.firstItem outer) = more.foldlM next? (.complete (.array (item :: rest)) outer) := by
        rw [foldlM_firstItem, foldlM_tokens item, foldlM_itemTokens rest, List.nil_append]
      rw [← first]
      simp only [tokens, List.cons_append, List.append_assoc, List.foldlM_cons]
      rfl
  | .object [] => rfl
  | .object ((key, v) :: rest) =>
      have first : (v.tokens ++ (fieldTokens rest ++ .mark .closeObject :: more)).foldlM next?
          (.value (.object [] key :: outer)) =
            more.foldlM next? (.complete (.object ((key, v) :: rest)) outer) := by
        rw [foldlM_tokens v, foldlM_fieldTokens rest, List.nil_append]
      rw [← first]
      simp only [tokens, List.cons_append, List.append_assoc, List.foldlM_cons]
      rfl

/-- The items after a complete one, up to the end of the array. -/
theorem foldlM_itemTokens (rest items : List Json) (j : Json) (outer : List Frame)
    (more : List Token) :
    (itemTokens rest ++ .mark .closeArray :: more).foldlM next?
        (.complete j (.array items :: outer)) =
      more.foldlM next? (.complete (.array (items ++ j :: rest)) outer) := by
  match rest with
  | [] => rfl
  | item :: rest =>
      have next : (item.tokens ++ (itemTokens rest ++ .mark .closeArray :: more)).foldlM next?
          (.value (.array (items ++ [j]) :: outer)) =
            more.foldlM next? (.complete (.array (items ++ j :: item :: rest)) outer) := by
        rw [foldlM_tokens item, foldlM_itemTokens rest, List.append_assoc, List.singleton_append]
      rw [← next]
      simp only [itemTokens, List.cons_append, List.append_assoc, List.foldlM_cons]
      rfl

/-- The fields after a complete one, up to the end of the object. -/
theorem foldlM_fieldTokens (rest fields : List (String × Json)) (key : String) (j : Json)
    (outer : List Frame) (more : List Token) :
    (fieldTokens rest ++ .mark .closeObject :: more).foldlM next?
        (.complete j (.object fields key :: outer)) =
      more.foldlM next? (.complete (.object (fields ++ (key, j) :: rest)) outer) := by
  match rest with
  | [] => rfl
  | (other, v) :: rest =>
      have next : (v.tokens ++ (fieldTokens rest ++ .mark .closeObject :: more)).foldlM next?
          (.value (.object (fields ++ [(key, j)]) other :: outer)) =
            more.foldlM next?
              (.complete (.object (fields ++ (key, j) :: (other, v) :: rest)) outer) := by
        rw [foldlM_tokens v, foldlM_fieldTokens rest, List.append_assoc, List.singleton_append]
      rw [← next]
      simp only [fieldTokens, List.cons_append, List.append_assoc, List.foldlM_cons]
      rfl

end

end Place

theorem ofTokens?_tokens (j : Json) : ofTokens? j.tokens = some j := by
  have read := Place.foldlM_tokens j [] []
  rw [List.append_nil] at read
  rw [ofTokens?, read]
  rfl

/-- **The value of a document is read back**, however the document is laid out. -/
theorem read?_of_isWrittenBy {j : Json} {s : String} (h : j.IsWrittenBy s) : read? s = some j := by
  rw [read?, tokensFrom?_of_spells h]
  exact ofTokens?_tokens j

/-- A text is a document of one value at most. -/
theorem eq_of_isWrittenBy {j k : Json} {s : String} (hj : j.IsWrittenBy s) (hk : k.IsWrittenBy s) :
    j = k := by
  have read := (read?_of_isWrittenBy hj).symm.trans (read?_of_isWrittenBy hk)
  exact Option.some.inj read

/-! ## The printed form -/

theorem unit?_control : ∀ n < 0x20,
    unit? ['0', '0', hexDigit (n / 16), hexDigit (n % 16)] = some n := by
  decide

theorem spellsChar_escaped (c : Char) : SpellsChar c (escaped c) := by
  unfold escaped
  split
  case h_8 quote backslash _ _ _ _ _ =>
    split
    · rename_i control
      exact .unit (unit?_control c.toNat control) rfl
    · rename_i visible
      exact .plain (by omega) quote backslash
  all_goals exact .letter rfl

theorem spellsText_escaped (cs : List Char) : SpellsText cs (cs.flatMap escaped) := by
  induction cs with
  | nil => exact .nil
  | cons c cs ih => exact .cons (spellsChar_escaped c) ih

variable {ts : List Token} {cs : List Char}

theorem spells_quoted (h : Spells ts cs) (s : String) :
    Spells (.text s :: ts) (quoted s ++ cs) := by
  have spelled := Spells.text (spellsText_escaped s.toList) h
  simpa [quoted] using spelled

theorem spells_newline (h : Spells ts cs) (level : Nat) : Spells ts (newline level ++ cs) := by
  refine .space (by decide) ?_
  induction 2 * level with
  | zero => exact h
  | succ n ih => exact .space (by decide) ih

/-- A key with its colon, before what spells the value. -/
theorem spells_key (h : Spells ts cs) (key : String) :
    Spells (.text key :: .mark .colon :: ts) (quoted key ++ ':' :: ' ' :: cs) :=
  spells_quoted (.mark .colon (.space (by decide) h)) key

mutual

/-- The printed form spells the tokens, at every level and before every rest. -/
theorem spells_print (level : Nat) (j : Json) {ts : List Token} {cs : List Char}
    (h : Spells ts cs) : Spells (j.tokens ++ ts) (j.print level ++ cs) := by
  match j with
  | .text s => exact spells_quoted h s
  | .array [] => exact .mark .openArray (.mark .closeArray h)
  | .array (item :: rest) =>
      have inside := spells_newline (spells_print (level + 1) item
        (spells_printItems (level + 1) rest (spells_newline (.mark .closeArray h) level)))
          (level + 1)
      simpa [tokens, print, Mark.char] using Spells.mark .openArray inside
  | .object [] => exact .mark .openObject (.mark .closeObject h)
  | .object ((key, value) :: rest) =>
      have inside := spells_newline (spells_key (spells_print (level + 1) value
        (spells_printFields (level + 1) rest (spells_newline (.mark .closeObject h) level))) key)
          (level + 1)
      simpa [tokens, print, Mark.char] using Spells.mark .openObject inside

theorem spells_printItems (level : Nat) (items : List Json) {ts : List Token} {cs : List Char}
    (h : Spells ts cs) : Spells (itemTokens items ++ ts) (printItems level items ++ cs) := by
  match items with
  | [] => exact h
  | item :: rest =>
      have next := spells_newline (spells_print level item (spells_printItems level rest h)) level
      simpa [itemTokens, printItems, Mark.char] using Spells.mark .comma next

theorem spells_printFields (level : Nat) (fields : List (String × Json)) {ts : List Token}
    {cs : List Char} (h : Spells ts cs) :
    Spells (fieldTokens fields ++ ts) (printFields level fields ++ cs) := by
  match fields with
  | [] => exact h
  | (key, value) :: rest =>
      have next := spells_newline
        (spells_key (spells_print level value (spells_printFields level rest h)) key) level
      simpa [fieldTokens, printFields, Mark.char] using Spells.mark .comma next

end

/-- **The printed form of a value, with white space after it, is a document of the value.** -/
theorem isWrittenBy_pretty (j : Json) : j.IsWrittenBy (j.pretty ++ "\n") := by
  have ending : Spells [] ['\n'] := .space (by decide) .nil
  have printed := spells_print 0 j ending
  simpa [IsWrittenBy, pretty] using printed

end TestDiscovery.Json
