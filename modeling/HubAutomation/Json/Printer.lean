import HubAutomation.Json.Basic
import HubAutomation.Json.Decimal

/-!
# The compact text of a document

No blanks; members in the order in which they stand; a quote, a backslash and
control characters escaped, every other character as it is.

- `Json.chars`: the text as a list of characters.
- `Json.text`: the text.
-/

namespace HubAutomation

/-- A hexadecimal digit in lower case. -/
def hexDigit (n : Nat) : Char := Nat.digitChar (n % 16)

namespace Json

/-- One character inside a string. -/
def escaped (c : Char) : List Char :=
  if c = '"' then ['\\', '"']
  else if c = '\\' then ['\\', '\\']
  else if c = '\n' then ['\\', 'n']
  else if c = '\r' then ['\\', 'r']
  else if c = '\t' then ['\\', 't']
  else if c.toNat = 8 then ['\\', 'b']
  else if c.toNat = 12 then ['\\', 'f']
  else if c.toNat < 32 then ['\\', 'u', '0', '0', hexDigit (c.toNat / 16), hexDigit c.toNat]
  else [c]

/-- A string between quotes. -/
def quoted (s : String) : List Char := '"' :: (s.toList.flatMap escaped ++ ['"'])

/-- An integer in decimal. -/
def intChars (n : Int) : List Char :=
  if n < 0 then '-' :: Nat.toDigits 10 n.natAbs else Nat.toDigits 10 n.natAbs

def numberChars : Number → List Char
  | .int n => intChars n
  | .float x => x.chars

mutual

/-- The compact text of a document. -/
def chars : Json → List Char
  | .null => ['n', 'u', 'l', 'l']
  | .bool true => ['t', 'r', 'u', 'e']
  | .bool false => ['f', 'a', 'l', 's', 'e']
  | .number n => numberChars n
  | .string s => quoted s
  | .array [] => ['[', ']']
  | .array (j :: rest) => '[' :: (chars j ++ itemsChars rest)
  | .object [] => ['\x7b', '\x7d']
  | .object ((k, j) :: rest) => '\x7b' :: (quoted k ++ ':' :: (chars j ++ membersChars rest))

/-- The items after the first one and the closing bracket. -/
def itemsChars : List Json → List Char
  | [] => [']']
  | j :: rest => ',' :: (chars j ++ itemsChars rest)

/-- The members after the first one and the closing brace. -/
def membersChars : List (String × Json) → List Char
  | [] => ['\x7d']
  | (k, j) :: rest => ',' :: (quoted k ++ ':' :: (chars j ++ membersChars rest))

end

/-- The compact text of a document. -/
def text (j : Json) : String := String.ofList j.chars

end Json

end HubAutomation
