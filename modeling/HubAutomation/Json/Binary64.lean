/-!
# Double precision numbers, exactly

A finite double is a sign and the rest of its bit pattern read as a natural
number. Every pattern below `patternLimit` is one magnitude, patterns are
ordered like the magnitudes they stand for, and zero is pattern `0`. Rounding
and arithmetic are done on ratios of natural numbers, so nothing here depends
on machine floats.

- `Binary64`: a finite double.
- `Binary64.nearestPattern`: rounding of a ratio to the nearest double, a half
  going to the even neighbour.
- `Binary64.mul?`, `Binary64.div?`: the exact product and quotient, rounded
  once; `none` where the result is too large to be finite.
-/

namespace HubAutomation

/-- The first pattern that no longer stands for a finite number. -/
def patternLimit : Nat := 0x7ff0000000000000

/-- A finite double precision number: its sign and its bit pattern without the
sign. -/
structure Binary64 where
  negative : Bool
  pattern : Nat
  finite : pattern < patternLimit
deriving DecidableEq

namespace Binary64

/-- The number of magnitudes that share one exponent. -/
def binade : Nat := Nat.pow 2 52

/-- The whole number `m` of the magnitude `m · 2 ^ e`. -/
def significand (x : Binary64) : Nat :=
  if x.pattern < binade then x.pattern else binade + x.pattern % binade

/-- The exponent `e` of the magnitude `m · 2 ^ e`. -/
def exponent (x : Binary64) : Int :=
  if x.pattern < binade then -1074 else (x.pattern / binade : Nat) - 1075

/-- A ratio of natural numbers, the denominator not zero. -/
structure Ratio where
  num : Nat
  den : Nat

/-- The ratio `m · 2 ^ e`. -/
def Ratio.scaled (m : Nat) (e : Int) : Ratio :=
  if 0 ≤ e then ⟨m * Nat.pow 2 e.toNat, 1⟩ else ⟨m, Nat.pow 2 (-e).toNat⟩

/-- The magnitude as a ratio. -/
def ratio (x : Binary64) : Ratio := .scaled x.significand x.exponent

def Ratio.mul (a b : Ratio) : Ratio := ⟨a.num * b.num, a.den * b.den⟩

def Ratio.div (a b : Ratio) : Ratio := ⟨a.num * b.den, a.den * b.num⟩

/-- The ratio divided by `2 ^ e`. -/
def Ratio.shiftDown (r : Ratio) (e : Int) : Ratio :=
  if 0 ≤ e then ⟨r.num, r.den * Nat.pow 2 e.toNat⟩ else ⟨r.num * Nat.pow 2 (-e).toNat, r.den⟩

/-- The whole number nearest to a ratio; a half goes to the even neighbour. -/
def Ratio.roundEven (r : Ratio) : Nat :=
  let q := r.num / r.den
  let twice := 2 * (r.num % r.den)
  if twice > r.den ∨ (twice = r.den ∧ q % 2 = 1) then q + 1 else q

/-- The exponent of the grid of doubles around a ratio: the one that gives 53
binary digits, and `-1074` where there are fewer. -/
def Ratio.gridExponent (r : Ratio) : Int :=
  let guess : Int := (r.num.log2 : Int) - r.den.log2 - 52
  let scaled := r.shiftDown guess
  max (if scaled.num / scaled.den < binade then guess - 1 else guess) (-1074)

/-- The pattern of the double nearest to a ratio. A carry out of the 53 digits
runs into the exponent, which is the pattern of the next power of two. -/
def nearestPattern (r : Ratio) : Nat :=
  if r.num = 0 then 0
  else
    let e := r.gridExponent
    (e + 1074).toNat * binade + (r.shiftDown e).roundEven

/-- The double nearest to a ratio with the given sign, if it is finite. -/
def ofRatio? (negative : Bool) (r : Ratio) : Option Binary64 :=
  if h : nearestPattern r < patternLimit then some ⟨negative, nearestPattern r, h⟩ else none

/-- Zero with a sign. -/
def zero (negative : Bool) : Binary64 := ⟨negative, 0, by decide⟩

def isZero (x : Binary64) : Bool := x.pattern == 0

def neg (x : Binary64) : Binary64 := { x with negative := !x.negative }

/-- The double nearest to a natural number. -/
def ofNat? (n : Nat) : Option Binary64 := ofRatio? false ⟨n, 1⟩

def mul? (x y : Binary64) : Option Binary64 :=
  ofRatio? (x.negative != y.negative) (x.ratio.mul y.ratio)

/-- The quotient; the divisor must not be zero. -/
def div? (x y : Binary64) : Option Binary64 :=
  ofRatio? (x.negative != y.negative) (x.ratio.div y.ratio)

/-- Equality of values: the two zeros are equal. -/
def same (x y : Binary64) : Bool :=
  x.pattern == y.pattern && (x.negative == y.negative || x.pattern == 0)

/-- The double nearest to `10 ^ k`. -/
def powerOfTen? (k : Nat) : Option Binary64 := ofNat? (Nat.pow 10 k)

/-- `f / 10 ^ (308 · n)`, rounded after each step; a number that has become zero
stays so. -/
def lower? (f : Binary64) : Nat → Option Binary64
  | 0 => some f
  | n + 1 =>
    if f.isZero then some f
    else (powerOfTen? 308).bind fun power => (f.div? power).bind fun g => lower? g n

/-- `f · 10 ^ exponent`, rounded after each step. Exponents below `-308` are
worked off in steps of `308`. -/
def timesPowerOfTen? (f : Binary64) (exponent : Int) : Option Binary64 :=
  if 0 ≤ exponent then
    if exponent ≤ 308 then (powerOfTen? exponent.toNat).bind f.mul?
    else if f.isZero then some f
    else none
  else
    let steps := (exponent.natAbs - 1) / 308
    (lower? f steps).bind fun g => (powerOfTen? (exponent.natAbs - 308 * steps)).bind g.div?

end Binary64

end HubAutomation
