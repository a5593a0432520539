/-!
# Time units

- `TimeUnit`: the units in which windows are given.
- `TimeUnit.milliseconds`: a number of units, at most 64 bits of milliseconds.
- `Span.text`: a number of milliseconds as text.
-/

namespace HubAutomation

/-- The units in which windows are given. -/
inductive TimeUnit where
  | millisecond
  | second
  | minute
  | hour
deriving DecidableEq

namespace TimeUnit

/-- The unit of a name: a letter, or the word in singular or plural. -/
def ofName? : String → Option TimeUnit
  | "ms" | "millisecond" | "milliseconds" => some .millisecond
  | "s" | "second" | "seconds" => some .second
  | "m" | "minute" | "minutes" => some .minute
  | "h" | "hour" | "hours" => some .hour
  | _ => none

/-- Milliseconds in a unit. -/
def factor : TimeUnit → Nat
  | .millisecond => 1
  | .second => 1000
  | .minute => 60000
  | .hour => 3600000

/-- The largest number of milliseconds. -/
def longest : Nat := UInt64.size - 1

/-- A number of units in milliseconds. What does not fit into 64 bits becomes
the largest number that does. -/
def milliseconds (unit : TimeUnit) (n : Nat) : Nat := min (n * unit.factor) longest

end TimeUnit

namespace Span

/-- Seconds with as many places as needed; less than a second in milliseconds,
and nothing in nanoseconds. -/
def text (ms : Nat) : String :=
  if ms = 0 then "0ns"
  else if ms < 1000 then toString ms ++ "ms"
  else
    let places := Nat.toDigits 10 (1000 + ms % 1000)
    let kept := ((places.drop 1).reverse.dropWhile (· = '0')).reverse
    toString (ms / 1000) ++ (if kept.isEmpty then "" else "." ++ String.ofList kept) ++ "s"

end Span

end HubAutomation
