import HubAutomation.Json.Binary64

/-!
# The shortest decimal text of a double

A double prints as the fewest decimal digits that lie in the interval of
numbers which round to it; among those of that length the digits nearest to
the double are taken, and of two equally near ones the even ones.

- `Binary64.Digits`: a whole number and a power of ten.
- `Binary64.shortest`: the digits of a double that is not zero.
- `Binary64.chars`: the text. It is positional where the first digit stands for
  `10 ^ -5` up to `10 ^ 15`, and scientific elsewhere.
-/

namespace HubAutomation

namespace Binary64

/-- The decimal number `digits · 10 ^ power`. -/
structure Digits where
  digits : Nat
  power : Int

/-- The numbers that round to one double, in quarters of its last binary place:
`low` and `high` belong to it exactly if `closed`. -/
structure Interval where
  low : Nat
  value : Nat
  high : Nat
  closed : Bool
  /-- One quarter of the last place is `2 ^ exponent`. -/
  exponent : Int

/-- The interval around a double. Below the first double of a binade the grid
is twice as fine. -/
def interval (x : Binary64) : Interval :=
  let m := x.significand
  let finer := x.pattern % binade = 0 ∧ binade < x.pattern
  { low := if finer then 4 * m - 1 else 4 * m - 2
    value := 4 * m
    high := 4 * m + 2
    closed := m % 2 = 0
    exponent := x.exponent - 2 }

/-- Multiply out `n · 2 ^ e / 10 ^ k`. -/
def onGrid (n : Nat) (e k : Int) : Ratio :=
  let r := Ratio.scaled n e
  if 0 ≤ k then ⟨r.num, r.den * Nat.pow 10 k.toNat⟩ else ⟨r.num * Nat.pow 10 (-k).toNat, r.den⟩

/-- Whether `c · 10 ^ k` lies in the interval. -/
def Interval.contains (i : Interval) (c : Nat) (k : Int) : Bool :=
  let low := onGrid i.low i.exponent k
  let high := onGrid i.high i.exponent k
  if i.closed then low.num ≤ c * low.den && c * high.den ≤ high.num
  else low.num < c * low.den && c * high.den < high.num

/-- The neighbour of the value on the grid of multiples of `10 ^ k` that lies
in the interval, the nearer one if both do. -/
def Interval.pick? (i : Interval) (k : Int) : Option Nat :=
  let v := onGrid i.value i.exponent k
  let below := v.num / v.den
  let twice := 2 * (v.num % v.den)
  match i.contains below k, i.contains (below + 1) k with
  | true, false => some below
  | false, true => some (below + 1)
  | true, true =>
    some (if twice < v.den ∨ (twice = v.den ∧ below % 2 = 0) then below else below + 1)
  | false, false => none

/-- Try the grid of `10 ^ k` and then finer ones. -/
def Interval.search (i : Interval) : Nat → Int → Digits
  | 0, k => ⟨(onGrid i.value i.exponent k).num / (onGrid i.value i.exponent k).den, k⟩
  | fuel + 1, k =>
    match i.pick? k with
    | some c => ⟨c, k⟩
    | none => i.search fuel (k - 1)

def decimalLength (n : Nat) : Nat := (Nat.toDigits 10 n).length

/-- The power of ten of the first digit of a ratio that is not zero. -/
def Ratio.leadingPower (r : Ratio) : Int :=
  let guess : Int := (decimalLength r.num : Int) - decimalLength r.den
  let reaches :=
    if 0 ≤ guess then r.den * Nat.pow 10 guess.toNat ≤ r.num
    else r.den ≤ r.num * Nat.pow 10 (-guess).toNat
  if reaches then guess else guess - 1

/-- Drop the zeros at the end of the digits. -/
def Digits.trim (d : Digits) : Digits :=
  go (decimalLength d.digits) d
where
  go : Nat → Digits → Digits
    | 0, d => d
    | fuel + 1, d => if d.digits % 10 = 0 then go fuel ⟨d.digits / 10, d.power + 1⟩ else d

/-- The shortest digits of a double that is not zero. Seventeen digits always
tell two doubles apart. -/
def shortest (x : Binary64) : Digits :=
  (x.interval.search 17 x.ratio.leadingPower).trim

/-- Digits with a point after the first `n`. -/
def placePoint (n : Nat) (ds : List Char) : List Char :=
  match ds.drop n with
  | [] => ds.take n
  | rest => ds.take n ++ '.' :: rest

/-- The layout of digits whose first one stands for `10 ^ lead`. -/
def layout (ds : List Char) (lead : Int) : List Char :=
  if -5 ≤ lead ∧ lead ≤ 15 then
    if lead < 0 then '0' :: '.' :: (List.replicate (-lead - 1).toNat '0' ++ ds)
    else if ds.length ≤ lead.toNat + 1 then
      ds ++ List.replicate (lead.toNat + 1 - ds.length) '0' ++ ['.', '0']
    else placePoint (lead.toNat + 1) ds
  else
    placePoint 1 ds ++ 'e' :: (if lead < 0 then '-' else '+') :: Nat.toDigits 10 lead.natAbs

/-- The text of a magnitude. -/
def magnitudeChars (x : Binary64) : List Char :=
  if x.isZero then ['0', '.', '0']
  else
    let d := x.shortest
    let ds := Nat.toDigits 10 d.digits
    layout ds (d.power + ds.length - 1)

/-- The text of a double. -/
def chars (x : Binary64) : List Char :=
  if x.negative then '-' :: x.magnitudeChars else x.magnitudeChars

end Binary64

end HubAutomation
