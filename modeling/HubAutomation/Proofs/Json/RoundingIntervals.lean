import HubAutomation.Json.Decimal
import Mathlib.Algebra.Order.Field.Power
import Mathlib.Algebra.Order.Ring.Rat
import Mathlib.Tactic.FieldSimp
import Mathlib.Tactic.Linarith
import Mathlib.Tactic.NormNum
import Mathlib.Tactic.Positivity
import Mathlib.Tactic.Ring

/-!
# Rounding intervals

The numbers that round to a double form an interval. The intervals of two
neighbours meet in one number, which belongs to the one whose significand is
even, so no number belongs to two of them. The shortest digits of a double lie
in its interval: seventeen digits are enough to get there.

- `Binary64.lower`, `Binary64.upper`: the ends of the interval.
- `Binary64.Rounds`: a number lies in the interval.
- `Binary64.Rounds.unique`: in the interval of one double only.
- `Binary64.rounds_shortest`: the shortest digits lie in it.
-/

namespace HubAutomation

namespace Binary64

/-! ### Ratios as numbers -/

/-- The number that a ratio stands for. -/
def Ratio.value (r : Ratio) : ℚ := r.num / r.den

/-- The number that some digits stand for. -/
def Digits.value (d : Digits) : ℚ := d.digits * 10 ^ d.power

/-- A ratio does not divide by zero. -/
theorem den_scaled (m : Nat) (e : Int) : 0 < (Ratio.scaled m e).den := by
  unfold Ratio.scaled
  split
  · exact Nat.one_pos
  · exact Nat.pow_pos (by norm_num)

/-- What a ratio stands for. -/
theorem value_scaled (m : Nat) (e : Int) : (Ratio.scaled m e).value = m * 2 ^ e := by
  unfold Ratio.scaled Ratio.value
  split
  · rename_i up
    obtain ⟨n, rfl⟩ := Int.eq_ofNat_of_zero_le up
    simp
  · rename_i down
    have positive : 0 ≤ -e := by omega
    obtain ⟨n, hn⟩ := Int.eq_ofNat_of_zero_le positive
    obtain rfl : e = -(n : Int) := by omega
    simp [div_eq_mul_inv]

theorem den_onGrid (n : Nat) (e k : Int) : 0 < (onGrid n e k).den := by
  have den := den_scaled n e
  unfold onGrid
  dsimp only
  split
  · exact Nat.mul_pos den (Nat.pow_pos (by norm_num))
  · exact den

/-- What a number on the grid stands for. -/
theorem value_onGrid (n : Nat) (e k : Int) : (onGrid n e k).value = n * 2 ^ e / 10 ^ k := by
  have scaled := value_scaled n e
  unfold Ratio.value at scaled
  unfold onGrid Ratio.value
  dsimp only
  split
  · rename_i up
    obtain ⟨m, rfl⟩ := Int.eq_ofNat_of_zero_le up
    rw [← scaled, div_div]
    simp
  · rename_i down
    have positive : 0 ≤ -k := by omega
    obtain ⟨m, hm⟩ := Int.eq_ofNat_of_zero_le positive
    obtain rfl : k = -(m : Int) := by omega
    rw [← scaled]
    simp [div_eq_mul_inv, mul_right_comm]

/-- Ratios are compared without dividing. -/
theorem le_value_iff {r : Ratio} (den : 0 < r.den) (c : Nat) :
    r.num ≤ c * r.den ↔ r.value ≤ c := by
  have positive : (0 : ℚ) < r.den := by exact_mod_cast den
  rw [Ratio.value, div_le_iff₀ positive]
  exact_mod_cast Iff.rfl

theorem value_le_iff {r : Ratio} (den : 0 < r.den) (c : Nat) :
    c * r.den ≤ r.num ↔ (c : ℚ) ≤ r.value := by
  have positive : (0 : ℚ) < r.den := by exact_mod_cast den
  rw [Ratio.value, le_div_iff₀ positive]
  exact_mod_cast Iff.rfl

/-! ### What an interval contains -/

namespace Interval

variable {i : Interval} {c : Nat} {k : Int}

/-- The ends of an interval. -/
def bottom (i : Interval) : ℚ := i.low * 2 ^ i.exponent

def top (i : Interval) : ℚ := i.high * 2 ^ i.exponent

/-- A number lies between the ends, or on one that belongs to the interval. -/
def Holds (i : Interval) (q : ℚ) : Prop :=
  i.bottom ≤ q ∧ q ≤ i.top ∧ (i.closed = false → q ≠ i.bottom ∧ q ≠ i.top)

/-- The comparison of the program, as one of numbers. -/
theorem onGrid_le_iff (n : Nat) (e : Int) :
    (onGrid n e k).num ≤ c * (onGrid n e k).den ↔ (n : ℚ) * 2 ^ e ≤ c * 10 ^ k := by
  have positive : (0 : ℚ) < 10 ^ k := by positivity
  rw [le_value_iff (den_onGrid n e k), value_onGrid, div_le_iff₀ positive]

theorem le_onGrid_iff (n : Nat) (e : Int) :
    c * (onGrid n e k).den ≤ (onGrid n e k).num ↔ (c : ℚ) * 10 ^ k ≤ n * 2 ^ e := by
  have positive : (0 : ℚ) < 10 ^ k := by positivity
  rw [value_le_iff (den_onGrid n e k), value_onGrid, le_div_iff₀ positive]

/-- The program finds a number in the interval if it is there. -/
theorem contains_iff : i.contains c k = true ↔ i.Holds (c * 10 ^ k) := by
  have below : (onGrid i.low i.exponent k).num ≤ c * (onGrid i.low i.exponent k).den ↔
      i.bottom ≤ c * 10 ^ k := onGrid_le_iff i.low i.exponent
  have above : c * (onGrid i.high i.exponent k).den ≤ (onGrid i.high i.exponent k).num ↔
      (c : ℚ) * 10 ^ k ≤ i.top := le_onGrid_iff i.high i.exponent
  have above' : c * (onGrid i.low i.exponent k).den ≤ (onGrid i.low i.exponent k).num ↔
      (c : ℚ) * 10 ^ k ≤ i.bottom := le_onGrid_iff i.low i.exponent
  have below' : (onGrid i.high i.exponent k).num ≤ c * (onGrid i.high i.exponent k).den ↔
      i.top ≤ c * 10 ^ k := onGrid_le_iff i.high i.exponent
  unfold contains Holds
  dsimp only
  by_cases closed : i.closed = true
  · rw [if_pos closed]
    simp only [Bool.and_eq_true, decide_eq_true_eq, below, above, closed, Bool.true_eq_false,
      false_implies, and_true]
  · rw [if_neg closed]
    simp only [Bool.and_eq_true, decide_eq_true_eq, Bool.not_eq_true] at closed ⊢
    rw [← Nat.not_le, ← Nat.not_le, above', below', closed]
    constructor
    · rintro ⟨low, high⟩
      have low := lt_of_not_ge low
      have high := lt_of_not_ge high
      exact ⟨low.le, high.le, fun _ => ⟨low.ne', high.ne⟩⟩
    · rintro ⟨low, high, inside⟩
      obtain ⟨notLow, notHigh⟩ := inside rfl
      constructor
      · exact not_le.2 (lt_of_le_of_ne low (Ne.symm notLow))
      · exact not_le.2 (lt_of_le_of_ne high notHigh)

/-! ### The search for digits -/

/-- A number that is picked is in the interval. -/
theorem contains_of_pick? (h : i.pick? k = some c) : i.contains c k = true := by
  unfold pick? at h
  dsimp only at h
  split at h
  · rename_i is _
    cases h
    exact is
  · rename_i _ is
    cases h
    exact is
  · rename_i first second
    split at h
    · cases h
      exact first
    · cases h
      exact second
  · cases h

/-- What lies strictly between the ends belongs to the interval. -/
theorem holds_of_between {q : ℚ} (low : i.bottom < q) (high : q < i.top) : i.Holds q :=
  ⟨low.le, high.le, fun _ => ⟨low.ne', high.ne⟩⟩

/-- On a grid that is finer than the interval is long, one of the neighbours of
the value lies in the interval. -/
theorem pick?_isSome (low : i.low < i.value) (high : i.value < i.high)
    (fine : (10 : ℚ) ^ k < i.top - i.bottom) : (i.pick? k).isSome = true := by
  have place : (0 : ℚ) < 2 ^ i.exponent := by positivity
  have bottom : i.bottom < i.value * 2 ^ i.exponent := by
    have low : (i.low : ℚ) < i.value := by exact_mod_cast low
    exact mul_lt_mul_of_pos_right low place
  have top : i.value * 2 ^ i.exponent < i.top := by
    have high : (i.value : ℚ) < i.high := by exact_mod_cast high
    exact mul_lt_mul_of_pos_right high place
  unfold pick?
  dsimp only
  generalize hn : (onGrid i.value i.exponent k).num / (onGrid i.value i.exponent k).den = n
  -- The value lies between its neighbours on the grid.
  have left : (n : ℚ) * 10 ^ k ≤ i.value * 2 ^ i.exponent := by
    rw [← le_onGrid_iff, ← hn]
    exact Nat.div_mul_le_self _ _
  have right : (i.value : ℚ) * 2 ^ i.exponent ≤ ((n + 1 : Nat) : ℚ) * 10 ^ k := by
    rw [← onGrid_le_iff, ← hn, Nat.add_mul, Nat.one_mul]
    exact (Nat.lt_div_mul_add (den_onGrid i.value i.exponent k)).le
  have either : i.contains n k = true ∨ i.contains (n + 1) k = true := by
    rw [contains_iff, contains_iff]
    by_cases inside : i.bottom < n * 10 ^ k
    · exact .inl (holds_of_between inside (left.trans_lt top))
    · -- The lower neighbour is out, so the upper one is not far from the bottom.
      refine .inr (holds_of_between (bottom.trans_le right) ?_)
      push_cast
      linarith
  split
  · rfl
  · rfl
  · rfl
  · rename_i first second
    rw [first, second] at either
    rcases either with either | either <;> cases either

/-- A search that comes to a grid that is fine enough ends in the interval. -/
theorem contains_search {fuel : Nat} {j : Nat} (lt : j < fuel)
    (found : (i.pick? (k - j)).isSome = true) :
    i.contains (i.search fuel k).digits (i.search fuel k).power = true := by
  induction fuel generalizing k j with
  | zero => omega
  | succ fuel ih =>
    unfold search
    cases here : i.pick? k with
    | some c => exact contains_of_pick? here
    | none =>
      cases j with
      | zero => simp [here] at found
      | succ j =>
        have next : k - 1 - (j : Int) = k - (j + 1 : Nat) := by omega
        refine ih (j := j) (by omega) ?_
        rw [next]
        exact found

end Interval

/-! ### The first digit and the last ones -/

/-- How many digits a number has. -/
theorem decimalLength_bounds {n : Nat} (positive : 0 < n) :
    10 ^ (decimalLength n - 1) ≤ n ∧ n < 10 ^ decimalLength n := by
  have length : 0 < decimalLength n := Nat.length_toDigits_pos
  constructor
  · by_cases one : decimalLength n = 1
    · rw [one]
      exact positive
    · by_contra lt
      have shorter : decimalLength n ≤ decimalLength n - 1 :=
        (Nat.length_toDigits_le_iff (by norm_num) (by omega)).2 (Nat.lt_of_not_le lt)
      omega
  · exact (Nat.length_toDigits_le_iff (by norm_num) length).1 (Nat.le_refl _)

/-- The first digit of a ratio is not zero. -/
theorem pow_leadingPower_le {r : Ratio} (num : 0 < r.num) (den : 0 < r.den) :
    (10 : ℚ) ^ r.leadingPower ≤ r.value := by
  have positive : (0 : ℚ) < r.den := by exact_mod_cast den
  obtain ⟨least, -⟩ := decimalLength_bounds num
  obtain ⟨-, most⟩ := decimalLength_bounds den
  have length : 0 < decimalLength r.num := Nat.length_toDigits_pos
  unfold Ratio.leadingPower
  dsimp only
  generalize hg : (decimalLength r.num : Int) - decimalLength r.den = guess
  -- One power less is always reached.
  have less : (10 : ℚ) ^ (guess - 1) ≤ r.value := by
    have split : guess - 1 = ((decimalLength r.num - 1 : Nat) : Int) - decimalLength r.den := by
      omega
    have least : (10 : ℚ) ^ (decimalLength r.num - 1) ≤ r.num := by exact_mod_cast least
    have most : (r.den : ℚ) ≤ 10 ^ decimalLength r.den := by exact_mod_cast most.le
    rw [split, zpow_sub₀ (by norm_num), zpow_natCast, zpow_natCast, Ratio.value]
    exact div_le_div₀ (by positivity) least positive most
  split
  · rename_i up
    obtain ⟨n, rfl⟩ := Int.eq_ofNat_of_zero_le up
    split
    · rename_i reaches
      have reaches : r.den * 10 ^ n ≤ r.num := by simpa using reaches
      rw [Ratio.value, le_div_iff₀ positive, zpow_natCast, mul_comm]
      exact_mod_cast reaches
    · exact less
  · obtain ⟨n, hn⟩ := Int.eq_ofNat_of_zero_le (a := -guess) (by omega)
    obtain rfl : guess = -(n : Int) := by omega
    split
    · rename_i reaches
      have reaches : r.den ≤ r.num * 10 ^ n := by simpa using reaches
      have reaches : (r.den : ℚ) ≤ r.num * 10 ^ n := by exact_mod_cast reaches
      rw [Ratio.value, le_div_iff₀ positive, zpow_neg, zpow_natCast,
        inv_mul_le_iff₀ (by positivity)]
      linarith
    · exact less

/-- Zeros at the end make no difference. -/
theorem value_trim (d : Digits) : d.trim.value = d.value := by
  have go : ∀ (fuel : Nat) (d : Digits), (Digits.trim.go fuel d).value = d.value := by
    intro fuel
    induction fuel with
    | zero => exact fun _ => rfl
    | succ fuel ih =>
      intro d
      unfold Digits.trim.go
      split
      · rename_i zero
        rw [ih]
        -- The zero that is dropped goes into the power of ten.
        have whole : d.digits / 10 * 10 = d.digits := by omega
        have digits : ((d.digits / 10 : Nat) : ℚ) * 10 = d.digits := by exact_mod_cast whole
        unfold Digits.value
        rw [zpow_add_one₀ (by norm_num), ← digits]
        ring
      · rfl
  exact go _ d

/-! ### The interval of a double -/

variable {x y : Binary64} {q : ℚ}

/-- The ends of the interval of a double. -/
def lower (x : Binary64) : ℚ := x.interval.bottom

def upper (x : Binary64) : ℚ := x.interval.top

/-- A number rounds to the magnitude of a double. -/
def Rounds (x : Binary64) (q : ℚ) : Prop := x.interval.Holds q

theorem binade_eq : binade = 4503599627370496 := by norm_num [binade]

/-- An interval is not empty. -/
theorem lower_lt_upper (x : Binary64) : x.lower < x.upper := by
  have place : (0 : ℚ) < 2 ^ x.interval.exponent := by positivity
  have lt : x.interval.low < x.interval.high := by
    unfold interval
    dsimp only
    split <;> omega
  have lt : (x.interval.low : ℚ) < x.interval.high := by exact_mod_cast lt
  exact mul_lt_mul_of_pos_right lt place

/-- The intervals of neighbours meet. -/
theorem lower_next (next : y.pattern = x.pattern + 1) : y.lower = x.upper := by
  have hx : x.upper = ((4 * x.significand + 2 : Nat) : ℚ) * 2 ^ (x.exponent - 2) := rfl
  by_cases finer : y.pattern % binade = 0 ∧ binade < y.pattern
  · -- A new binade begins, so one place of `y` is worth two places of `x`.
    have hy : y.lower = ((4 * y.significand - 1 : Nat) : ℚ) * 2 ^ (y.exponent - 2) := by
      unfold lower interval Interval.bottom
      dsimp only
      rw [if_pos finer]
    obtain ⟨first, later⟩ := finer
    unfold significand exponent at hx hy
    rw [binade_eq] at first later hx hy
    rw [if_neg (by omega), if_neg (by omega)] at hx hy
    have places : ((y.pattern / 4503599627370496 : Nat) : Int) - 1075 - 2 =
        ((x.pattern / 4503599627370496 : Nat) : Int) - 1075 - 2 + 1 := by omega
    have quarters : 4 * (4503599627370496 + x.pattern % 4503599627370496) + 2 =
        (4 * (4503599627370496 + y.pattern % 4503599627370496) - 1) * 2 := by omega
    rw [hx, hy, places, zpow_add_one₀ (by norm_num), quarters]
    push_cast
    ring
  · have hy : y.lower = ((4 * y.significand - 2 : Nat) : ℚ) * 2 ^ (y.exponent - 2) := by
      unfold lower interval Interval.bottom
      dsimp only
      rw [if_neg finer]
    rw [binade_eq] at finer
    have exponents : y.exponent = x.exponent := by
      unfold exponent
      rw [binade_eq]
      split <;> split <;> omega
    have significands : 4 * x.significand + 2 = 4 * y.significand - 2 := by
      unfold significand
      rw [binade_eq]
      split <;> split <;> omega
    rw [hx, hy, exponents, significands]

/-- The intervals of doubles stand in the order of the doubles. -/
theorem upper_le_lower (lt : x.pattern < y.pattern) : x.upper ≤ y.lower := by
  obtain ⟨n, hn⟩ := Nat.exists_eq_add_of_lt lt
  induction n generalizing y with
  | zero => exact (lower_next (by omega)).ge
  | succ n ih =>
    have finite := y.finite
    let z : Binary64 := ⟨false, x.pattern + n + 1, by omega⟩
    have below : x.upper ≤ z.lower := ih (y := z) (by simp only [z]; omega) rfl
    have meets : y.lower = z.upper := lower_next (by simp only [z]; omega)
    rw [meets]
    exact below.trans z.lower_lt_upper.le

theorem significand_mod_two (x : Binary64) : x.significand % 2 = x.pattern % 2 := by
  unfold significand
  rw [binade_eq]
  split <;> omega

theorem closed_interval (x : Binary64) : x.interval.closed = decide (x.pattern % 2 = 0) := by
  rw [← significand_mod_two]
  rfl

/-- A number rounds to one magnitude only. -/
theorem Rounds.le (hx : x.Rounds q) (hy : y.Rounds q) : y.pattern ≤ x.pattern := by
  obtain ⟨-, top, insideX⟩ := hx
  obtain ⟨bottom, -, insideY⟩ := hy
  by_contra gt
  have lt : x.pattern < y.pattern := by omega
  have order := upper_le_lower lt
  -- The number is where the two intervals meet, and both are closed there.
  have top_eq : q = x.upper := le_antisymm top (order.trans bottom)
  have bottom_eq : q = y.lower := le_antisymm (top.trans order) bottom
  have evenX : x.pattern % 2 = 0 := by
    by_contra odd
    have open_ : x.interval.closed = false := by rw [closed_interval, decide_eq_false odd]
    exact (insideX open_).2 top_eq
  have evenY : y.pattern % 2 = 0 := by
    by_contra odd
    have open_ : y.interval.closed = false := by rw [closed_interval, decide_eq_false odd]
    exact (insideY open_).1 bottom_eq
  -- Between two even patterns there is another double, with an interval of its own.
  have finite := y.finite
  let z : Binary64 := ⟨false, x.pattern + 1, by omega⟩
  have first : x.upper = z.lower := (lower_next (y := z) rfl).symm
  have second : z.upper ≤ y.lower := upper_le_lower (by simp only [z]; omega)
  have between := z.lower_lt_upper
  rw [← first, ← top_eq] at between
  rw [← bottom_eq] at second
  exact absurd second (not_le.2 between)

/-- No number rounds to two doubles. -/
theorem Rounds.unique (hx : x.Rounds q) (hy : y.Rounds q) : x.pattern = y.pattern :=
  Nat.le_antisymm (hy.le hx) (hx.le hy)

/-! ### Seventeen digits -/

theorem significand_pos (nonzero : x.isZero = false) : 0 < x.significand := by
  have nonzero : x.pattern ≠ 0 := by simpa [isZero] using nonzero
  unfold significand
  rw [binade_eq]
  split <;> omega

theorem value_ratio (x : Binary64) : x.ratio.value = x.significand * 2 ^ x.exponent :=
  value_scaled x.significand x.exponent

theorem num_ratio (positive : 0 < x.significand) : 0 < x.ratio.num := by
  unfold ratio Ratio.scaled
  split
  · exact Nat.mul_pos positive (Nat.pow_pos (by norm_num))
  · exact positive

/-- The interval is longer than one step on the grid of seventeen digits. -/
theorem grid_lt_interval (nonzero : x.isZero = false) :
    (10 : ℚ) ^ (x.ratio.leadingPower - 16) < x.upper - x.lower := by
  have positive := significand_pos nonzero
  have place : (0 : ℚ) < 2 ^ x.exponent := by positivity
  have reaches : (10 : ℚ) ^ x.ratio.leadingPower ≤ x.significand * 2 ^ x.exponent := by
    rw [← value_ratio]
    exact pow_leadingPower_le (num_ratio positive) (den_scaled _ _)
  have grid : (10 : ℚ) ^ (x.ratio.leadingPower - 16) =
      10 ^ x.ratio.leadingPower / 10000000000000000 := by
    rw [zpow_sub₀ (by norm_num)]
    norm_num
  have length : x.upper - x.lower =
      ((x.interval.high : ℚ) - x.interval.low) * (2 ^ x.exponent / 4) := by
    have exponent : (2 : ℚ) ^ x.interval.exponent = 2 ^ x.exponent / 4 := by
      show (2 : ℚ) ^ (x.exponent - 2) = _
      rw [zpow_sub₀ (by norm_num)]
      norm_num
    unfold upper lower Interval.top Interval.bottom
    rw [exponent]
    ring
  -- Where the interval is short, the significand is small.
  have wide : x.significand * 4 < 10000000000000000 * (x.interval.high - x.interval.low) ∧
      x.interval.low ≤ x.interval.high := by
    have small : x.significand < 2 * binade := by
      have := x.pattern.mod_lt (y := binade) (by norm_num [binade])
      unfold significand
      split <;> omega
    unfold interval
    dsimp only
    split
    · rename_i finer
      obtain ⟨first, later⟩ := finer
      have whole : x.significand = binade := by
        unfold significand
        rw [if_neg (by omega), first, Nat.add_zero]
      rw [binade_eq] at whole
      omega
    · rw [binade_eq] at small
      omega
  obtain ⟨wide, order⟩ := wide
  have wide : (x.significand : ℚ) * 4 < 10000000000000000 * (x.interval.high - x.interval.low) := by
    have cast : ((x.interval.high - x.interval.low : Nat) : ℚ) =
        (x.interval.high : ℚ) - x.interval.low := Nat.cast_sub order
    rw [← cast]
    exact_mod_cast wide
  have scaled := mul_lt_mul_of_pos_right wide place
  rw [grid, length, div_lt_iff₀ (by norm_num)]
  linarith

/-- The shortest digits of a double round to it. -/
theorem rounds_shortest (nonzero : x.isZero = false) : x.Rounds x.shortest.value := by
  have positive := significand_pos nonzero
  have low : x.interval.low < x.interval.value := by
    unfold interval
    dsimp only
    split <;> omega
  have high : x.interval.value < x.interval.high := by
    unfold interval
    dsimp only
    omega
  have found : (x.interval.pick? (x.ratio.leadingPower - (16 : Nat))).isSome = true :=
    Interval.pick?_isSome low high (grid_lt_interval nonzero)
  have inside := Interval.contains_search (by omega : 16 < 17) found
  rw [Interval.contains_iff] at inside
  unfold shortest
  rw [value_trim]
  exact inside

/-- What rounds to a double that is not zero is positive. -/
theorem Rounds.positive (nonzero : x.isZero = false) (h : x.Rounds q) : 0 < q := by
  have positive := significand_pos nonzero
  have low : 0 < x.interval.low := by
    unfold interval
    dsimp only
    split <;> omega
  have low : (0 : ℚ) < x.interval.low := by exact_mod_cast low
  have bottom : 0 < x.interval.bottom := mul_pos low (by positivity)
  exact bottom.trans_le h.1

end Binary64

end HubAutomation
