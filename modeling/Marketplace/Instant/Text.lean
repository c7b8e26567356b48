import Marketplace.Text.Integer
import Marketplace.Text.Blank
import Marketplace.Instant.Basic
import Marketplace.Instant.Calendar

/-!
# Instants in text

* `Instant.stamp` writes `2024-01-08T00:00:00.250Z`, `Instant.plainText` writes
  `2024-01-08 00:00:00.250 UTC`. The fraction has three, six or nine digits, the fewest that are
  exact, and is left out when it is zero. A leap second is second 60.
* `Instant.ofText?` reads a date, a time and a zone, with fields of fewer digits and blanks between
  them allowed, and takes the zone's offset off.
-/

namespace Marketplace.Instant

open Text

/-! ## Writing -/

/-- A year, with a sign when it is outside 0 to 9999. -/
def yearText (year : Int) : List Char :=
  if 0 ≤ year ∧ year ≤ 9999 then padded 4 year.toNat
  else (if year < 0 then '-' else '+') :: padded 4 year.natAbs

def dateText (d : Date) : List Char :=
  yearText d.year ++ '-' :: padded 2 d.month ++ '-' :: padded 2 d.day

/-- The fraction of a second, with its point. -/
def fractionText (nanos : Nat) : List Char :=
  if nanos = 0 then []
  else if nanos % 1000000 = 0 then '.' :: padded 3 (nanos / 1000000)
  else if nanos % 1000 = 0 then '.' :: padded 6 (nanos / 1000)
  else '.' :: padded 9 nanos

/-- The day of an instant. -/
def date (t : Instant) : Date := Date.ofDayNumber (t.seconds / 86400)

/-- The seconds since midnight. -/
def secondOfDay (t : Instant) : Nat := (t.seconds % 86400).toNat

def timeText (t : Instant) : List Char :=
  let s := t.secondOfDay
  let second := if t.isLeap then s % 60 + 1 else s % 60
  padded 2 (s / 3600) ++ ':' :: padded 2 (s / 60 % 60) ++ ':' :: padded 2 second
    ++ fractionText t.subsecond

/-- The instant as date, `T`, time and `Z`. -/
def stamp (t : Instant) : List Char := dateText t.date ++ 'T' :: timeText t ++ ['Z']

/-- The instant as it stands in messages. -/
def plainText (t : Instant) : List Char :=
  dateText t.date ++ ' ' :: timeText t ++ [' ', 'U', 'T', 'C']

/-! ## Reading -/

/-- A reader of the front of a text. -/
abbrev Scanner := StateT (List Char) Option

namespace Scanner

def blanks : Scanner Unit := modify skipBlanks

/-- This character, blanks before it allowed. -/
def mark (c : Char) : Scanner Unit := do
  blanks
  match ← get with
  | d :: s => if c = d then set s else failure
  | [] => failure

/-- One or more digits, as many as there are. -/
def digits : Scanner (List Char) := do
  let ds := (← get).takeWhile Char.isDigit
  if ds = [] then failure
  modify (·.drop ds.length)
  return ds

/-- One digit up to `most`, blanks before it allowed. -/
def field (most : Nat) : Scanner Nat := do
  blanks
  let ds := ((← get).takeWhile Char.isDigit).take most
  if ds = [] then failure
  modify (·.drop ds.length)
  return digitsValue ds

/-- A year: up to four digits, or a sign and any number of them. -/
def year : Scanner Int := do
  blanks
  match ← get with
  | '-' :: s => do
    set s
    return -(digitsValue (← digits) : Int)
  | '+' :: s => do
    set s
    return digitsValue (← digits)
  | _ => return (← field 4)

/-- The character between date and time. -/
def separator : Scanner Unit := do
  match ← get with
  | c :: s => if c = 'T' ∨ c = 't' ∨ c = ' ' then set s else failure
  | [] => failure

/-- The nanoseconds of an optional fraction; digits behind the ninth are dropped. -/
def fraction : Scanner Nat := do
  match ← get with
  | '.' :: s => do
    set s
    let ds := (← digits).take 9
    return digitsValue (ds.rightpad 9 '0')
  | _ => return 0

/-- The sign of an offset. -/
def offsetSign : Scanner Int := do
  match ← get with
  | '+' :: s => do set s; return 1
  | '-' :: s => do set s; return -1
  | '−' :: s => do set s; return -1
  | _ => failure

/-- Two digits. -/
def twoDigits : Scanner Nat := do
  match ← get with
  | a :: b :: s => if a.isDigit ∧ b.isDigit then do set s; return digitsValue [a, b] else failure
  | _ => failure

/-- The seconds that local time is ahead: `Z`, `UTC` or a signed offset below one day. -/
def zone : Scanner Int := do
  let s ← get
  if (s.take 3).map Char.toUpper = ['U', 'T', 'C'] then
    set (s.drop 3)
    return 0
  else if (s.take 1).map Char.toUpper = ['Z'] then
    set (s.drop 1)
    return 0
  else do
    let sign ← offsetSign
    let hours ← twoDigits
    modify (·.dropWhile fun c => c = ':' ∨ isBlank c)
    let minutes ← twoDigits
    if hours < 24 ∧ minutes < 60 then return sign * (hours * 3600 + minutes * 60) else failure

end Scanner

/-- The instant of a local date and time that is `ahead` seconds ahead of Coordinated Universal
Time. Second 60 is the leap second behind second 59. -/
def ofLocal? (d : Date) (hour minute second nanos : Nat) (ahead : Int) : Option Instant :=
  if d.IsValid ∧ -262143 ≤ d.year ∧ d.year ≤ 262142 ∧ hour < 24 ∧ minute < 60 ∧ second ≤ 60 then
    let seconds : Int := d.dayNumber * 86400 + hour * 3600 + minute * 60 + min second 59 - ahead
    ofParts? seconds (if second = 60 then 1000000000 + nanos else nanos)
  else none

/-- An instant and what follows it. -/
def scan : Scanner Instant := do
  let year ← Scanner.year
  Scanner.mark '-'
  let month ← Scanner.field 2
  Scanner.mark '-'
  let day ← Scanner.field 2
  Scanner.separator
  let hour ← Scanner.field 2
  Scanner.mark ':'
  let minute ← Scanner.field 2
  Scanner.mark ':'
  let second ← Scanner.field 2
  let nanos ← Scanner.fraction
  Scanner.blanks
  let ahead ← Scanner.zone
  ofLocal? ⟨year, month, day⟩ hour minute second nanos ahead

/-- The instant that a whole text names, blanks at its ends allowed. -/
def ofText? (s : List Char) : Option Instant :=
  match scan s with
  | some (t, rest) => if skipBlanks rest = [] then some t else none
  | none => none

end Marketplace.Instant
