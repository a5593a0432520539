import HubAutomation.Time.Instant

/-!
# Stamps

What a program takes from its surroundings when it makes something new: the
current instant and a source of ids. Stamps fork, so that two things made side
by side get different ids.

- `Stamp`: an instant and a source of ids.
- `Stamp.fork`: the stamp for a part.
- `Stamp.id`: the id that a stamp gives, 26 characters long.
-/

namespace HubAutomation

/-- The current instant and a source of ids. -/
structure Stamp where
  now : Instant
  entropy : Nat

namespace Stamp

/-- The number of days from the year 0 to a date. -/
def dayNumber (d : Date) : Int :=
  let y := d.year - 1
  365 * y + y / 4 - y / 100 + y / 400 +
    ((List.range (d.month - 1)).foldl (fun n m => n + Date.daysIn d.year (m + 1)) 0 + d.day : Nat)

/-- Milliseconds since the start of 1970. -/
def milliseconds (t : Instant) : Int :=
  (((dayNumber t.date - dayNumber ⟨1970, 1, 1⟩) * 24 + t.hour) * 60 + t.minute) * 60000 +
    t.second * 1000 + t.nano / 1000000

/-- The digits of base 32, without letters that look like others. -/
def alphabet : List Char := "0123456789ABCDEFGHJKMNPQRSTVWXYZ".toList

/-- The last `count` digits of a number in base 32, most significant first. -/
def base32 : (count : Nat) → Nat → List Char
  | 0, _ => []
  | count + 1, n => base32 count (n / 32) ++ [alphabet.getD (n % 32) '0']

/-- The stamp for the part with the given number, which is below 4. -/
def fork (s : Stamp) (part : Nat) : Stamp := { s with entropy := 4 * s.entropy + part + 1 }

/-- The digits of the instant, the same for all ids of one instant. -/
def idStart (s : Stamp) : List Char := base32 10 (milliseconds s.now).toNat

/-- An id: ten digits of the instant and sixteen of the source. -/
def id (s : Stamp) : String := String.ofList (s.idStart ++ base32 16 s.entropy)

end Stamp

end HubAutomation
