/-
# TestDiscovery.Text.Utf8 -- bytes as text

Paths, file contents and command-line arguments are bytes.  `decode?` reads them
as text when they are valid UTF-8; `lossy` always gives a text, with U+FFFD for
each maximal part that no valid sequence can begin with or go on from.  The two
agree on valid bytes (`lossy_of_decode?`), and what a text encodes to is read back
as the text (`decode?_encode`).
-/

namespace TestDiscovery.Text.Utf8

set_option autoImplicit false

/-- The UTF-8 bytes of a text. -/
def encode (s : String) : List UInt8 := s.toByteArray.data.toList

/-- The text that the bytes encode, or `none` when they are not valid UTF-8. -/
def decode? (bytes : List UInt8) : Option String := String.fromUTF8? ⟨bytes.toArray⟩

theorem decode?_encode (s : String) : decode? (encode s) = some s := by
  have bytes : (⟨(encode s).toArray⟩ : ByteArray) = s.toByteArray := by
    rw [encode, Array.toArray_toList]
  rw [decode?, bytes, String.fromUTF8?, dif_pos s.isValidUTF8]
  rfl

theorem eq_of_encode_eq {s t : String} (h : encode s = encode t) : s = t := by
  have read := congrArg decode? h
  rw [decode?_encode, decode?_encode] at read
  exact Option.some.inj read

/-! ## Damaged bytes -/

/-- What stands at the front of some bytes: a character, or a damaged part, with its length. -/
inductive Front where
  | char (c : Char) (length : Nat)
  | damaged (length : Nat)

/-- The length of the unit. -/
def Front.length : Front → Nat
  | .char _ n => n
  | .damaged n => n

/-- The character shown for the unit. -/
def Front.shown : Front → Char
  | .char c _ => c
  | .damaged _ => '\uFFFD'

/-- Continuation bytes are `10xxxxxx`. -/
def isContinuation (b : UInt8) : Bool := 0x80 ≤ b && b ≤ 0xBF

/-- The second bytes that may follow a first byte of a three- or four-byte sequence: overlong
forms, surrogates and code points past U+10FFFF are left out. -/
def isSecond (first second : UInt8) : Bool :=
  if first == 0xE0 then 0xA0 ≤ second && second ≤ 0xBF
  else if first == 0xED then 0x80 ≤ second && second ≤ 0x9F
  else if first == 0xF0 then 0x90 ≤ second && second ≤ 0xBF
  else if first == 0xF4 then 0x80 ≤ second && second ≤ 0x8F
  else isContinuation second

/-- The payload bits of a continuation byte. -/
def payload (b : UInt8) : Nat := b.toNat % 64

/-- The sequence that starts with `first` and goes on in `rest`. -/
def front (first : UInt8) (rest : List UInt8) : Front :=
  if first < 0x80 then .char (Char.ofNat first.toNat) 1
  else if 0xC2 ≤ first && first ≤ 0xDF then
    match rest with
    | b :: _ =>
      if isContinuation b then .char (Char.ofNat (first.toNat % 32 * 64 + payload b)) 2
      else .damaged 1
    | [] => .damaged 1
  else if 0xE0 ≤ first && first ≤ 0xEF then
    match rest with
    | b :: c :: _ =>
      if !isSecond first b then .damaged 1
      else if !isContinuation c then .damaged 2
      else .char (Char.ofNat (first.toNat % 16 * 4096 + payload b * 64 + payload c)) 3
    | [b] => if isSecond first b then .damaged 2 else .damaged 1
    | [] => .damaged 1
  else if 0xF0 ≤ first && first ≤ 0xF4 then
    match rest with
    | b :: c :: d :: _ =>
      if !isSecond first b then .damaged 1
      else if !isContinuation c then .damaged 2
      else if !isContinuation d then .damaged 3
      else .char (Char.ofNat
        (first.toNat % 8 * 262144 + payload b * 4096 + payload c * 64 + payload d)) 4
    | [b, c] =>
      if !isSecond first b then .damaged 1
      else if !isContinuation c then .damaged 2
      else .damaged 3
    | [b] => if isSecond first b then .damaged 2 else .damaged 1
    | [] => .damaged 1
  else .damaged 1

/-- Read unit after unit; `skip` bytes belong to the unit read last. -/
def repaired (skip : Nat) : List UInt8 → List Char
  | [] => []
  | b :: rest =>
    match skip with
    | skip + 1 => repaired skip rest
    | 0 =>
      let unit := front b rest
      unit.shown :: repaired (unit.length - 1) rest

/-- The text of the bytes, with U+FFFD for every damaged part. -/
def lossy (bytes : List UInt8) : String :=
  (decode? bytes).getD (String.ofList (repaired 0 bytes))

theorem lossy_of_decode? {bytes : List UInt8} {s : String} (h : decode? bytes = some s) :
    lossy bytes = s := by
  simp [lossy, h]

end TestDiscovery.Text.Utf8
