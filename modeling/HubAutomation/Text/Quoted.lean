import HubAutomation.Text.Hidden

/-!
# Quoted text in messages

A text between quotes as error messages show it: quotes and backslashes are
escaped, and characters that do not show are spelled out.

- `Text.quoted`: the quoted text.
-/

namespace HubAutomation

namespace Text

/-- One character inside the quotes. -/
def shown (c : Char) : String :=
  if c = '"' then "\\\""
  else if c = '\\' then "\\\\"
  else if c = '\n' then "\\n"
  else if c = '\r' then "\\r"
  else if c = '\t' then "\\t"
  else if c.toNat = 0 then "\\0"
  else if isHidden c then "\\u\x7b" ++ String.ofList (Nat.toDigits 16 c.toNat) ++ "\x7d"
  else c.toString

/-- A text between quotes. -/
def quoted (s : String) : String := "\"" ++ String.join (s.toList.map shown) ++ "\""

end Text

end HubAutomation
