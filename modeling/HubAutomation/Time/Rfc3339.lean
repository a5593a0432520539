import HubAutomation.Text.Blank
import HubAutomation.Text.Digits
import HubAutomation.Time.Instant

/-!
# RFC 3339 texts of instants

Reading is lenient: parts of the date and the time may have fewer digits than
usual, blanks may stand between them, a year may have a sign, the date ends
with `T`, `t` or a blank, and the offset is `Z`, `z`, `UTC` or a sign with hours
and minutes. Seconds and the offset are required. Writing is strict: UTC with
`Z`, and 0, 3, 6 or 9 digits after the second, the fewest that hold the value.

- `Instant.ofText?`: the instant of a text.
- `Instant.text`: the text of an instant.
-/

namespace HubAutomation

namespace Instant

/-! ### Reading -/

/-- What was read, and the text after it. -/
abbrev Read (α : Type) := Option (α × List Char)

/-- At least one digit and at most `most` digits. -/
def readNumber (most : Nat) (cs : List Char) : Read Nat :=
  let ds := (cs.take most).takeWhile Char.isDigit
  if ds.isEmpty then none else some (Text.digitsValue ds, cs.drop ds.length)

/-- A number after blanks. -/
def readPart (most : Nat) (cs : List Char) : Read Nat := readNumber most (Text.trimStart cs)

/-- A character after blanks. -/
def readMark (mark : Char) (cs : List Char) : Option (List Char) :=
  match Text.trimStart cs with
  | c :: rest => if c = mark then some rest else none
  | [] => none

/-- Four digits at most, or a sign and any number of digits. -/
def readYear (cs : List Char) : Read Int :=
  match Text.trimStart cs with
  | '-' :: rest => (readNumber rest.length rest).map fun r => (-(r.1 : Int), r.2)
  | '+' :: rest => (readNumber rest.length rest).map fun r => ((r.1 : Int), r.2)
  | cs => (readNumber 4 cs).map fun r => ((r.1 : Int), r.2)

def readDate (cs : List Char) : Option (Date × List Char) := do
  let (year, cs) ← readYear cs
  let cs ← readMark '-' cs
  let (month, cs) ← readPart 2 cs
  let cs ← readMark '-' cs
  let (day, cs) ← readPart 2 cs
  pure (⟨year, month, day⟩, cs)

/-- The fraction of a second, if a point follows. Digits after the ninth are
cut off. -/
def readFraction (cs : List Char) : Read Nat :=
  match cs with
  | '.' :: rest =>
    let ds := rest.takeWhile Char.isDigit
    if ds.isEmpty then none
    else
      let kept := ds.take 9
      some (Text.digitsValue kept * Nat.pow 10 (9 - kept.length), rest.drop ds.length)
  | cs => some (0, cs)

/-- Two digits, the first of which is at most `first`. -/
def readPair (first : Char) (cs : List Char) : Read Nat :=
  match cs with
  | a :: b :: rest =>
    if a.isDigit ∧ a ≤ first ∧ b.isDigit then some (Text.digitsValue [a, b], rest) else none
  | _ => none

/-- Hours and minutes of an offset, colons and blanks between them skipped. -/
def readOffsetParts (cs : List Char) : Option (Nat × List Char) := do
  let (hours, cs) ← readPair '9' cs
  let (minutes, cs) ← readPair '5' (cs.dropWhile fun c => c == ':' || Text.isBlank c)
  pure (hours * 60 + minutes, cs)

/-- The offset from UTC in minutes. U+2212 is a minus sign too. -/
def readOffset (cs : List Char) : Read Int :=
  match cs with
  | 'Z' :: rest => some (0, rest)
  | 'z' :: rest => some (0, rest)
  | '+' :: rest => (readOffsetParts rest).map fun r => ((r.1 : Int), r.2)
  | '-' :: rest => (readOffsetParts rest).map fun r => (-(r.1 : Int), r.2)
  | '\u2212' :: rest => (readOffsetParts rest).map fun r => (-(r.1 : Int), r.2)
  | a :: b :: c :: rest =>
    if [a.toLower, b.toLower, c.toLower] = ['u', 't', 'c'] then some (0, rest) else none
  | _ => none

/-- The character between date and time. -/
def readSeparator (cs : List Char) : Option (List Char) :=
  match cs with
  | 'T' :: rest => some rest
  | 't' :: rest => some rest
  | ' ' :: rest => some rest
  | _ => none

/-- The instant of a text. -/
def ofText? (s : String) : Option Instant := do
  let (date, cs) ← readDate s.toList
  let cs ← readSeparator cs
  let (hour, cs) ← readPart 2 cs
  let cs ← readMark ':' cs
  let (minute, cs) ← readPart 2 cs
  let cs ← readMark ':' cs
  let (second, cs) ← readPart 2 cs
  let (nano, cs) ← readFraction cs
  let (offset, cs) ← readOffset (Text.trimStart cs)
  if (Text.trimStart cs).isEmpty then ofLocal? ⟨date, hour, minute, second, nano⟩ offset else none

/-! ### Writing -/

/-- A number with at least `width` digits. -/
def padded (width n : Nat) : List Char :=
  let ds := Nat.toDigits 10 n
  List.replicate (width - ds.length) '0' ++ ds

/-- Four digits, and a sign where they do not suffice. -/
def yearChars (year : Int) : List Char :=
  if 0 ≤ year ∧ year ≤ 9999 then padded 4 year.toNat
  else (if year < 0 then '-' else '+') :: padded 4 year.natAbs

/-- The point and the fewest of 3, 6 or 9 digits; nothing for a whole second. -/
def fractionChars (nano : Nat) : List Char :=
  if nano = 0 then []
  else if nano % 1000000 = 0 then '.' :: padded 3 (nano / 1000000)
  else if nano % 1000 = 0 then '.' :: padded 6 (nano / 1000)
  else '.' :: padded 9 nano

def dateChars (d : Date) : List Char :=
  yearChars d.year ++ '-' :: (padded 2 d.month ++ '-' :: padded 2 d.day)

def chars (t : Instant) : List Char :=
  dateChars t.date ++ 'T' :: (padded 2 t.hour ++ ':' :: (padded 2 t.minute ++
    ':' :: (padded 2 t.second ++ (fractionChars t.nano ++ ['Z']))))

/-- The text of an instant. -/
def text (t : Instant) : String := String.ofList t.chars

end Instant

end HubAutomation
