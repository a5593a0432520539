import HubAutomation.Json.Printer
import HubAutomation.Text.Digits

/-!
# Reading JSON text

A recursive reader over characters: each function takes the text from where it
stands and gives what it read together with the rest. `none` means that the
text is not JSON; nesting deeper than `deepest`, numbers too large for a double
and escapes of single surrogates count as that.

- `Json.readValue`: a value at the start of a text.
- `Json.read?`: a whole text, members as written.
- `Json.ofText?`: a whole text as a canonical document.
-/

namespace HubAutomation

namespace Json

/-- What was read, and the text after it. -/
abbrev Read (α : Type) := Option (α × List Char)

/-- Arrays and objects may stand this deep in one another. -/
def deepest : Nat := 127

def isBlank (c : Char) : Bool := c == ' ' || c == '\n' || c == '\t' || c == '\r'

/-- Skip blanks. -/
def skipBlanks (cs : List Char) : List Char := cs.dropWhile isBlank

/-! ### Strings -/

/-- The value of a hexadecimal digit of either case. -/
def hexValue? (c : Char) : Option Nat :=
  if '0' ≤ c ∧ c ≤ '9' then some (c.toNat - 48)
  else if 'a' ≤ c ∧ c ≤ 'f' then some (c.toNat - 87)
  else if 'A' ≤ c ∧ c ≤ 'F' then some (c.toNat - 55)
  else none

/-- The value of four hexadecimal digits. -/
def hexValues? (a b c d : Char) : Option Nat := do
  let a ← hexValue? a
  let b ← hexValue? b
  let c ← hexValue? c
  let d ← hexValue? d
  pure (((a * 16 + b) * 16 + c) * 16 + d)

/-- The character of an escape of one letter. -/
def plainEscape? (c : Char) : Option Char :=
  match c with
  | '"' => some '"'
  | '\\' => some '\\'
  | '/' => some '/'
  | 'b' => some (Char.ofNat 8)
  | 'f' => some (Char.ofNat 12)
  | 'n' => some '\n'
  | 'r' => some '\r'
  | 't' => some '\t'
  | _ => none

def isHighSurrogate (n : Nat) : Bool := 0xD800 ≤ n && n < 0xDC00

def isLowSurrogate (n : Nat) : Bool := 0xDC00 ≤ n && n < 0xE000

/-- The character of a surrogate pair. -/
def joinSurrogates (high low : Nat) : Char :=
  Char.ofNat (0x10000 + (high - 0xD800) * 0x400 + (low - 0xDC00))

/-- Put a character before what is read next. -/
def prepend (c : Char) : Read (List Char) → Read (List Char)
  | some (cs, rest) => some (c :: cs, rest)
  | none => none

/-- The characters of a string up to its closing quote; the text starts after
the opening one. -/
def readChars : List Char → Read (List Char)
  | [] => none
  | '"' :: rest => some ([], rest)
  | '\\' :: 'u' :: a :: b :: c :: d :: rest =>
    match hexValues? a b c d with
    | none => none
    | some n =>
      if isLowSurrogate n then none
      else if isHighSurrogate n then
        match rest with
        | '\\' :: 'u' :: e :: f :: g :: h :: rest =>
          match hexValues? e f g h with
          | none => none
          | some low =>
            if isLowSurrogate low then prepend (joinSurrogates n low) (readChars rest) else none
        | _ => none
      else prepend (Char.ofNat n) (readChars rest)
  | '\\' :: c :: rest =>
    match plainEscape? c with
    | some c => prepend c (readChars rest)
    | none => none
  | c :: rest => if c.toNat < 32 then none else prepend c (readChars rest)

/-- A string; the text starts after the opening quote. -/
def readString (cs : List Char) : Read String :=
  match readChars cs with
  | some (s, rest) => some (String.ofList s, rest)
  | none => none

/-! ### Numbers -/

/-- The largest integer. -/
def largestInt : Nat := UInt64.size - 1

/-- Append digits to a significand as long as it stays an integer of 64 bits;
also counts the digits that were left out. -/
def accumulate (n : Nat) : List Char → Nat × Nat
  | [] => (n, 0)
  | d :: rest =>
    if largestInt < n * 10 + Text.digitValue d then (n, rest.length + 1)
    else accumulate (n * 10 + Text.digitValue d) rest

/-- The double of `significand · 10 ^ exponent`. -/
def floatOf? (negative : Bool) (significand : Nat) (exponent : Int) : Option Number :=
  ((Binary64.ofNat? significand).bind (·.timesPowerOfTen? exponent)).map fun x =>
    .float { x with negative }

/-- An exponent must stay below this. -/
def exponentLimit : Nat := Nat.pow 2 31

/-- The exponent after its letter, and the number that it completes. -/
def readExponent (negative : Bool) (significand : Nat) (exponent : Int) (cs : List Char) :
    Read Number :=
  let (down, cs) :=
    match cs with
    | '+' :: rest => (false, rest)
    | '-' :: rest => (true, rest)
    | cs => (false, cs)
  let (ds, rest) := Text.takeDigits cs
  if ds.isEmpty then none
  else if Text.digitsValue ds < exponentLimit then
    let e : Int := if down then exponent - Text.digitsValue ds else exponent + Text.digitsValue ds
    (floatOf? negative significand e).map (·, rest)
  else if significand = 0 ∨ down then some (.float (.zero negative), rest)
  else none

/-- A fraction and an exponent, either of which may be absent, after the digits
before the point. -/
def readTail (negative : Bool) (significand left : Nat) (cs : List Char) : Read Number :=
  match cs with
  | '.' :: rest =>
    let (ds, rest) := Text.takeDigits rest
    if ds.isEmpty then none
    else
      let (significand, unread) := accumulate significand ds
      let exponent : Int := left - ((ds.length - unread : Nat) : Int)
      match rest with
      | 'e' :: rest => readExponent negative significand exponent rest
      | 'E' :: rest => readExponent negative significand exponent rest
      | rest => (floatOf? negative significand exponent).map (·, rest)
  | 'e' :: rest => readExponent negative significand left rest
  | 'E' :: rest => readExponent negative significand left rest
  | rest =>
    if left = 0 ∧ ¬ negative then some (.int significand, rest)
    else if left = 0 ∧ 0 < significand ∧ significand ≤ Nat.pow 2 63 then
      some (.int (-significand), rest)
    else (floatOf? negative significand left).map (·, rest)

/-- A number. Its digits must not start with a zero unless that is the only
one before the point. -/
def readNumber (cs : List Char) : Read Number :=
  let (negative, cs) :=
    match cs with
    | '-' :: rest => (true, rest)
    | cs => (false, cs)
  match Text.takeDigits cs with
  | ([], _) => none
  | ('0' :: _ :: _, _) => none
  | (ds, rest) =>
    let (significand, left) := accumulate 0 ds
    readTail negative significand left rest

/-! ### Documents -/

/-- Drop a word from the start of a text. -/
def dropWord? : List Char → List Char → Option (List Char)
  | [], cs => some cs
  | w :: ws, c :: cs => if w = c then dropWord? ws cs else none
  | _ :: _, [] => none

/-- Go on after an item: `true` if another one follows. -/
def readComma (close : Char) (cs : List Char) : Read Bool :=
  match skipBlanks cs with
  | ',' :: rest => some (true, rest)
  | c :: rest => if c = close then some (false, rest) else none
  | [] => none

/-- A key, blanks before it skipped. -/
def readName (cs : List Char) : Read String :=
  match skipBlanks cs with
  | '"' :: rest => readString rest
  | _ => none

/-- The colon after a key. -/
def readColon (cs : List Char) : Option (List Char) :=
  match skipBlanks cs with
  | ':' :: rest => some rest
  | _ => none

/-- A key and the colon after it. -/
def readKey (cs : List Char) : Read String :=
  match readName cs with
  | some (key, rest) => (readColon rest).map (key, ·)
  | none => none

mutual

/-- A value, blanks before it skipped. `depth` more arrays and objects may be
opened. -/
def readValue : (fuel depth : Nat) → List Char → Read Json
  | 0, _, _ => none
  | fuel + 1, depth, cs =>
    match skipBlanks cs with
    | 'n' :: rest => (dropWord? ['u', 'l', 'l'] rest).map (.null, ·)
    | 't' :: rest => (dropWord? ['r', 'u', 'e'] rest).map (.bool true, ·)
    | 'f' :: rest => (dropWord? ['a', 'l', 's', 'e'] rest).map (.bool false, ·)
    | '"' :: rest => (readString rest).map fun r => (.string r.1, r.2)
    | '[' :: rest =>
      match depth with
      | 0 => none
      | depth + 1 =>
        match skipBlanks rest with
        | ']' :: rest => some (.array [], rest)
        | rest => (readItems fuel depth rest).map fun r => (.array r.1, r.2)
    | '\x7b' :: rest =>
      match depth with
      | 0 => none
      | depth + 1 =>
        match skipBlanks rest with
        | '\x7d' :: rest => some (.object [], rest)
        | rest => (readMembers fuel depth rest).map fun r => (.object r.1, r.2)
    | cs => (readNumber cs).map fun r => (.number r.1, r.2)

/-- The items of an array up to its end; there is at least one. -/
def readItems : (fuel depth : Nat) → List Char → Read (List Json)
  | 0, _, _ => none
  | fuel + 1, depth, cs =>
    match readValue fuel depth cs with
    | none => none
    | some (j, rest) =>
      match readComma ']' rest with
      | none => none
      | some (false, rest) => some ([j], rest)
      | some (true, rest) => (readItems fuel depth rest).map fun r => (j :: r.1, r.2)

/-- The members of an object up to its end; there is at least one. -/
def readMembers : (fuel depth : Nat) → List Char → Read (List (String × Json))
  | 0, _, _ => none
  | fuel + 1, depth, cs =>
    match readKey cs with
    | none => none
    | some (key, rest) =>
      match readValue fuel depth rest with
      | none => none
      | some (j, rest) =>
        match readComma '\x7d' rest with
        | none => none
        | some (false, rest) => some ([(key, j)], rest)
        | some (true, rest) => (readMembers fuel depth rest).map fun r => ((key, j) :: r.1, r.2)

end

/-- Enough fuel for a text: a value and the items around it take two steps, and
at least one of its characters. -/
def fuelFor (cs : List Char) : Nat := 2 * cs.length + 2

/-- Whether only blanks are left. -/
def atEnd (cs : List Char) : Bool := (skipBlanks cs).isEmpty

/-- A whole text, members as written. -/
def read? (cs : List Char) : Option Json :=
  match readValue (fuelFor cs) deepest cs with
  | some (j, rest) => if atEnd rest then some j else none
  | none => none

/-- A whole text as a canonical document. -/
def ofText? (s : String) : Option Json := (read? s.toList).map canonical

end Json

end HubAutomation
