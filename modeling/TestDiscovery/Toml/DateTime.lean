/-
# TestDiscovery.Toml.DateTime -- dates and times

A date-time has a date, a time of day or both; with both it may have an offset from
UTC.  `read?` takes the whole of a text; `text` writes the one form that every
date-time has.
-/

namespace TestDiscovery.Toml

set_option autoImplicit false

/-- A day of the calendar. -/
structure Date where
  year : Nat
  month : Nat
  day : Nat
  deriving DecidableEq, Repr

/-- A time of day. -/
structure Time where
  hour : Nat
  minute : Nat
  second : Nat
  nanosecond : Nat
  deriving DecidableEq, Repr

/-- The distance from UTC. -/
inductive Offset where
  | utc
  | minutes (n : Int)
  deriving DecidableEq, Repr

/-- A date, a time or both. -/
structure DateTime where
  date : Option Date
  time : Option Time
  offset : Option Offset
  deriving DecidableEq, Repr

/-! ## Reading -/

/-- What a reader of date-times lets through. -/
structure DateTimeFormat where
  maxHour : Nat
  maxOffsetHour : Nat
  maxOffsetMinute : Nat

/-- Date-times in the text of a document. -/
def DateTimeFormat.document : DateTimeFormat := ⟨23, 23, 59⟩

/-- Date-times that were written as a text. -/
def DateTimeFormat.embedded : DateTimeFormat := ⟨24, 99, 99⟩

/-- The number of two digits. -/
def twoDigits? : List Char → Option (Nat × List Char)
  | a :: b :: rest =>
    if a.isDigit && b.isDigit then some ((a.toNat - 48) * 10 + (b.toNat - 48), rest) else none
  | _ => none

/-- The rest after a character. -/
def expect? (c : Char) : List Char → Option (List Char)
  | d :: rest => if d = c then some rest else none
  | [] => none

/-- The leap years of the Gregorian calendar. -/
def isLeapYear (year : Nat) : Bool := year % 4 == 0 && (year % 100 != 0 || year % 400 == 0)

/-- The length of a month. -/
def daysIn (year month : Nat) : Nat :=
  if month = 2 then if isLeapYear year then 29 else 28
  else if month = 4 ∨ month = 6 ∨ month = 9 ∨ month = 11 then 30
  else 31

/-- A date, with what follows it. -/
def date? (cs : List Char) : Option (Date × List Char) := do
  let (century, cs) ← twoDigits? cs
  let (year, cs) ← twoDigits? cs
  let (month, cs) ← twoDigits? (← expect? '-' cs)
  let (day, cs) ← twoDigits? (← expect? '-' cs)
  let date : Date := ⟨century * 100 + year, month, day⟩
  if 1 ≤ month ∧ month ≤ 12 ∧ 1 ≤ day ∧ day ≤ daysIn date.year month then some (date, cs)
  else none

/-- The nanoseconds of the digits after the point; digits past the ninth are ignored. -/
def nanoseconds (digits : List Char) : Nat :=
  (digits ++ List.replicate 9 '0').take 9 |>.foldl (fun n c => n * 10 + (c.toNat - 48)) 0

/-- The fraction of a second, if there is one. -/
def fraction? : List Char → Option (Nat × List Char)
  | '.' :: cs =>
    let digits := cs.takeWhile Char.isDigit
    if digits.isEmpty then none else some (nanoseconds digits, cs.drop digits.length)
  | cs => some (0, cs)

/-- A time of day, with what follows it. -/
def time? (format : DateTimeFormat) (cs : List Char) : Option (Time × List Char) := do
  let (hour, cs) ← twoDigits? cs
  let (minute, cs) ← twoDigits? (← expect? ':' cs)
  let (second, cs) ← twoDigits? (← expect? ':' cs)
  let (nanosecond, cs) ← fraction? cs
  if hour ≤ format.maxHour ∧ minute ≤ 59 ∧ second ≤ 60 then
    some (⟨hour, minute, second, nanosecond⟩, cs)
  else none

/-- The hours and minutes of an offset, which is at most a day. -/
def offsetMinutes? (format : DateTimeFormat) (cs : List Char) : Option Nat := do
  let (hours, cs) ← twoDigits? cs
  let (minutes, cs) ← twoDigits? (← expect? ':' cs)
  let total := hours * 60 + minutes
  if cs.isEmpty ∧ hours ≤ format.maxOffsetHour ∧ minutes ≤ format.maxOffsetMinute ∧
      total ≤ 24 * 60 then some total
  else none

/-- The offset that the whole of a text writes, or its absence. -/
def offset? (format : DateTimeFormat) : List Char → Option (Option Offset)
  | [] => some none
  | ['Z'] => some (some .utc)
  | ['z'] => some (some .utc)
  | '+' :: cs => (offsetMinutes? format cs).map fun n => some (.minutes n)
  | '-' :: cs => (offsetMinutes? format cs).map fun n => some (.minutes (-n))
  | _ => none

/-- What may stand between a date and a time. -/
def isDateTimeSeparator (c : Char) : Bool := c == 'T' || c == 't' || c == ' '

/-- What follows a date: a time with its offset, or nothing. -/
def afterDate? (format : DateTimeFormat) (date : Date) : List Char → Option DateTime
  | [] => some ⟨some date, none, none⟩
  | c :: cs =>
    if isDateTimeSeparator c then do
      let (time, cs) ← time? format cs
      return ⟨some date, some time, ← offset? format cs⟩
    else none

/-- The date-time that the whole of a text writes. -/
def DateTime.read? (format : DateTimeFormat) (cs : List Char) : Option DateTime :=
  if cs[2]? = some ':' then
    match time? format cs with
    | some (time, []) => some ⟨none, some time, none⟩
    | _ => none
  else
    match date? cs with
    | some (date, rest) => afterDate? format date rest
    | none => none

/-! ## Writing -/

/-- A number with leading zeros. -/
def padded (width n : Nat) : String :=
  let digits := Nat.toDigits 10 n
  String.ofList (List.replicate (width - digits.length) '0' ++ digits)

/-- A date in its written form. -/
def Date.text (d : Date) : String :=
  padded 4 d.year ++ "-" ++ padded 2 d.month ++ "-" ++ padded 2 d.day

/-- The digits after the point, without zeros at the end. -/
def fractionText (nanosecond : Nat) : String :=
  if nanosecond = 0 then ""
  else "." ++ String.ofList
    ((padded 9 nanosecond).toList.reverse.dropWhile (· == '0')).reverse

/-- A time in its written form. -/
def Time.text (t : Time) : String :=
  padded 2 t.hour ++ ":" ++ padded 2 t.minute ++ ":" ++ padded 2 t.second ++
    fractionText t.nanosecond

/-- An offset in its written form. -/
def Offset.text : Offset → String
  | .utc => "Z"
  | .minutes n =>
    (if n < 0 then "-" else "+") ++ padded 2 (n.natAbs / 60) ++ ":" ++ padded 2 (n.natAbs % 60)

/-- A date-time in its written form. -/
def DateTime.text (d : DateTime) : String :=
  let date := (d.date.map Date.text).getD ""
  let between := if d.date.isSome && d.time.isSome then "T" else ""
  date ++ between ++ (d.time.map Time.text).getD "" ++ (d.offset.map Offset.text).getD ""

end TestDiscovery.Toml
