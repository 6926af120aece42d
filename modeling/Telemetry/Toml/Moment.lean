import Telemetry.Decimal.Style
import Telemetry.Decimal.Read

/-!
# Dates and times of TOML

`Toml.Moment`: a date, a time of day, or both with or without an offset. `Moment.ofChars?` reads one
and checks its ranges, `Moment.render` writes it in the normal form.
-/

namespace Telemetry.Toml

/-- A day of the calendar. -/
structure Date where
  year : Nat
  month : Nat
  day : Nat
  deriving DecidableEq

/-- A time of day. Seconds and their fraction, which may be left out, are zero then. -/
structure TimeOfDay where
  hour : Nat
  minute : Nat
  second : Nat
  nanosecond : Nat
  deriving DecidableEq

/-- The distance from universal time. -/
inductive Offset where
  | universal
  | minutes (m : Int)
  deriving DecidableEq

/-- A date, a time, or both. -/
structure Moment where
  date : Option Date
  time : Option TimeOfDay
  offset : Option Offset
  deriving DecidableEq

/-- The number of days of a month. -/
def daysIn (year month : Nat) : Nat :=
  if month = 2 then
    if year % 4 = 0 ∧ (year % 100 ≠ 0 ∨ year % 400 = 0) then 29 else 28
  else if month = 4 ∨ month = 6 ∨ month = 9 ∨ month = 11 then 30
  else 31

/-- Takes exactly `n` digits. -/
def takeDigits (n : Nat) (cs : List Char) : Option (Nat × List Char) :=
  let digits := cs.take n
  if digits.length = n ∧ digits.all isDigit then some (decimalValue digits, cs.drop n) else none

/-- Takes a character. -/
def takeChar (c : Char) : List Char → Option (List Char)
  | d :: rest => if d = c then some rest else none
  | [] => none

/-- Takes a date. -/
def Date.take (cs : List Char) : Option (Date × List Char) := do
  let (year, cs) ← takeDigits 4 cs
  let (month, cs) ← takeDigits 2 (← takeChar '-' cs)
  let (day, cs) ← takeDigits 2 (← takeChar '-' cs)
  if 1 ≤ month ∧ month ≤ 12 ∧ 1 ≤ day ∧ day ≤ daysIn year month then pure (⟨year, month, day⟩, cs)
  else none

/-- Takes a fraction of a second, in nanoseconds. Digits after the ninth are dropped. -/
def takeFraction (cs : List Char) : Option (Nat × List Char) :=
  match cs with
  | '.' :: rest =>
    let digits := rest.takeWhile isDigit
    if digits.isEmpty then none
    else
      let kept := digits.take 9
      some (decimalValue (kept ++ List.replicate (9 - kept.length) '0'), rest.dropWhile isDigit)
  | cs => some (0, cs)

/-- Takes a time of day. -/
def TimeOfDay.take (cs : List Char) : Option (TimeOfDay × List Char) := do
  let (hour, cs) ← takeDigits 2 cs
  let (minute, cs) ← takeDigits 2 (← takeChar ':' cs)
  if 23 < hour ∨ 59 < minute then none
  else match cs with
    | ':' :: rest => do
      let (second, cs) ← takeDigits 2 rest
      let (nanosecond, cs) ← takeFraction cs
      if 60 < second then none else pure (⟨hour, minute, second, nanosecond⟩, cs)
    | cs => pure (⟨hour, minute, 0, 0⟩, cs)

/-- Takes an offset, if there is one. -/
def Offset.take (cs : List Char) : Option (Option Offset × List Char) :=
  let distance (negative : Bool) (rest : List Char) : Option (Option Offset × List Char) := do
    let (hour, cs) ← takeDigits 2 rest
    let (minute, cs) ← takeDigits 2 (← takeChar ':' cs)
    if 23 < hour ∨ 59 < minute then none
    else
      let m : Int := hour * 60 + minute
      pure (some (.minutes (if negative then -m else m)), cs)
  match cs with
  | 'Z' :: rest => some (some .universal, rest)
  | 'z' :: rest => some (some .universal, rest)
  | '+' :: rest => distance false rest
  | '-' :: rest => distance true rest
  | cs => some (none, cs)

namespace Moment

/-- Reads a moment; a letter or a space parts date and time. -/
def ofChars? (cs : List Char) : Option Moment := do
  match cs with
  | _ :: _ :: ':' :: _ =>
    let (time, rest) ← TimeOfDay.take cs
    if rest.isEmpty then pure ⟨none, some time, none⟩ else none
  | _ =>
    let (date, rest) ← Date.take cs
    match rest with
    | [] => pure ⟨some date, none, none⟩
    | c :: rest =>
      if c = 'T' ∨ c = 't' ∨ c = ' ' then
        let (time, rest) ← TimeOfDay.take rest
        let (offset, rest) ← Offset.take rest
        if rest.isEmpty then pure ⟨some date, some time, offset⟩ else none
      else none

/-- A number with leading zeros. -/
def padded (width n : Nat) : List Char :=
  let digits := digitChars n
  List.replicate (width - digits.length) '0' ++ digits

/-- A point and the digits of a fraction without trailing zeros; nothing for a zero. -/
def fractionChars (nanosecond : Nat) : List Char :=
  if nanosecond = 0 then []
  else '.' :: ((padded 9 nanosecond).reverse.dropWhile (· == '0')).reverse

/-- The text of an offset. -/
def offsetChars : Offset → List Char
  | .universal => ['Z']
  | .minutes m =>
    (if m < 0 then '-' else '+') :: padded 2 (m.natAbs / 60) ++ ':' :: padded 2 (m.natAbs % 60)

/-- The text of a time of day. -/
def timeChars (t : TimeOfDay) : List Char :=
  padded 2 t.hour ++ ':' :: padded 2 t.minute ++ ':' :: padded 2 t.second ++
    fractionChars t.nanosecond

/-- The text of a moment, with `T` between date and time. -/
def render (m : Moment) : String :=
  let date := match m.date with
    | some d => padded 4 d.year ++ '-' :: padded 2 d.month ++ '-' :: padded 2 d.day
    | none => []
  let time := match m.time with
    | some t => (if m.date.isSome then ['T'] else []) ++ timeChars t
    | none => []
  String.ofList (date ++ time ++ (m.offset.map offsetChars).getD [])

end Moment

end Telemetry.Toml
