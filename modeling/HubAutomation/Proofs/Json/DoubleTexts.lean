import HubAutomation.Proofs.Json.RoundingIntervals
import HubAutomation.Text.Digits
import Mathlib.Data.List.TakeWhile

/-!
# Texts of doubles

The text of a double stands for a number that rounds to that double and to no
other. So the text tells the double apart from all others, its sign from the
other sign, and from every integer by its point or its exponent.

- `Binary64.decimalValue`: the number that a decimal text stands for.
- `Binary64.decimalValue_layout`: what digits stand for, however they are laid
  out.
- `Binary64.chars_injective`: a double is known by its text.
-/

namespace HubAutomation

namespace Text

/-! ### Digits -/

/-- Digits behind a number shift it to the left. -/
theorem foldl_digits (ds : List Char) (n : Nat) :
    ds.foldl (fun n d => n * 10 + digitValue d) n = n * 10 ^ ds.length + digitsValue ds := by
  induction ds generalizing n with
  | nil => simp [digitsValue]
  | cons d ds ih =>
    have first := ih (n * 10 + digitValue d)
    have rest := ih (0 * 10 + digitValue d)
    have power : n * 10 * 10 ^ ds.length = n * 10 ^ (ds.length + 1) := by
      rw [Nat.pow_succ, Nat.mul_assoc, Nat.mul_comm 10]
    rw [digitsValue, List.foldl_cons, List.foldl_cons, List.length_cons, first, rest, ← power,
      Nat.zero_mul, Nat.zero_add, Nat.add_mul, Nat.add_assoc]

/-- More digits do not make a number smaller. -/
theorem le_foldl_digits (ds : List Char) (n : Nat) :
    n ≤ ds.foldl (fun n d => n * 10 + digitValue d) n := by
  have power : 0 < 10 ^ ds.length := Nat.pow_pos (by decide)
  have least := Nat.le_mul_of_pos_right n power
  rw [foldl_digits]
  omega

/-- Digits behind digits shift them to the left. -/
theorem digitsValue_append (as bs : List Char) :
    digitsValue (as ++ bs) = digitsValue as * 10 ^ bs.length + digitsValue bs := by
  rw [digitsValue, List.foldl_append, foldl_digits]
  rfl

theorem digitsValue_replicate_zero (n : Nat) : digitsValue (List.replicate n '0') = 0 := by
  induction n with
  | zero => rfl
  | succ n ih => rw [List.replicate_succ', digitsValue_append, ih, Nat.zero_mul]; rfl

/-- The digits of a number stand for it. -/
theorem digitsValue_toDigits (n : Nat) : digitsValue (Nat.toDigits 10 n) = n := by
  have back := Nat.ofDigitChars_toDigits (n := n) (b := 10) (by decide) (by decide)
  rw [Nat.ofDigitChars_eq_foldl] at back
  have step : (fun n d => n * 10 + digitValue d) =
      fun (n : Nat) (d : Char) => 10 * n + (d.toNat - '0'.toNat) := by
    funext n d
    rw [Nat.mul_comm]
    rfl
  rw [digitsValue, step]
  exact back

end Text

namespace Binary64

variable {ds : List Char} {lead : Int} {x y : Binary64}

/-! ### Decimal texts as numbers -/

/-- The number that digits with a point stand for. -/
def mantissaValue (cs : List Char) : ℚ :=
  let whole := cs.takeWhile (· ≠ '.')
  let fraction := (cs.dropWhile (· ≠ '.')).tail
  Text.digitsValue (whole ++ fraction) / 10 ^ fraction.length

/-- The exponent of a decimal text, its letter and its sign before it. -/
def exponentOf : List Char → Int
  | 'e' :: '-' :: ds => -(Text.digitsValue ds)
  | 'e' :: _ :: ds => Text.digitsValue ds
  | _ => 0

/-- The number that a decimal text stands for. -/
def decimalValue (cs : List Char) : ℚ :=
  mantissaValue (cs.takeWhile (· ≠ 'e')) * 10 ^ exponentOf (cs.dropWhile (· ≠ 'e'))

/-- Digits are neither points nor exponents. -/
theorem ne_of_isDigit {c d : Char} (digit : c.isDigit = true) (other : d.isDigit = false) :
    c ≠ d := by
  intro same
  rw [same, other] at digit
  cases digit

/-- The digits behind the point count for fractions. -/
theorem mantissaValue_point {whole fraction : List Char} (digits : ∀ c ∈ whole, c.isDigit = true) :
    mantissaValue (whole ++ '.' :: fraction) =
      Text.digitsValue (whole ++ fraction) / 10 ^ fraction.length := by
  have noPoint : ∀ c ∈ whole, decide (c ≠ '.') = true := by
    intro c hc
    exact decide_eq_true (ne_of_isDigit (digits c hc) (by decide))
  unfold mantissaValue
  rw [List.takeWhile_append_of_pos noPoint, List.dropWhile_append_of_pos noPoint]
  simp

/-- Where the point is placed, the digits behind it are divided away. -/
theorem mantissaValue_placePoint (digits : ∀ c ∈ ds, c.isDigit = true) (n : Nat) :
    mantissaValue (placePoint n ds) = Text.digitsValue ds / 10 ^ (ds.length - n) := by
  unfold placePoint
  split
  · rename_i none_
    have short : ds.length ≤ n := List.drop_eq_nil_iff.1 none_
    have noPoint : ∀ c ∈ ds, decide (c ≠ '.') = true := by
      intro c hc
      exact decide_eq_true (ne_of_isDigit (digits c hc) (by decide))
    have taken := List.takeWhile_eq_self_iff.2 noPoint
    have dropped := List.dropWhile_eq_nil_iff.2 noPoint
    unfold mantissaValue
    rw [List.take_of_length_le short, taken, dropped, Nat.sub_eq_zero_of_le short]
    simp
  · rw [mantissaValue_point, List.take_append_drop, List.length_drop]
    intro c hc
    exact digits c (List.mem_of_mem_take hc)

/-- A text without an exponent is its mantissa. -/
theorem decimalValue_mantissa {m : List Char} (noExponent : 'e' ∉ m) :
    decimalValue m = mantissaValue m := by
  have each : ∀ c ∈ m, decide (c ≠ 'e') = true := by
    intro c hc
    exact decide_eq_true fun same => noExponent (same ▸ hc)
  have taken := List.takeWhile_eq_self_iff.2 each
  have dropped := List.dropWhile_eq_nil_iff.2 each
  unfold decimalValue
  rw [taken, dropped]
  simp [exponentOf]

/-- An exponent shifts the point. -/
theorem decimalValue_exponent {m : List Char} (noExponent : 'e' ∉ m) (sign : Char)
    (exponent : List Char) :
    decimalValue (m ++ 'e' :: sign :: exponent) =
      mantissaValue m * 10 ^ exponentOf ('e' :: sign :: exponent) := by
  have each : ∀ c ∈ m, decide (c ≠ 'e') = true := by
    intro c hc
    exact decide_eq_true fun same => noExponent (same ▸ hc)
  unfold decimalValue
  rw [List.takeWhile_append_of_pos each, List.dropWhile_append_of_pos each]
  simp

/-! ### Layouts -/

/-- What can stand in the layout of digits. -/
def isNumberChar (c : Char) : Bool := c.isDigit || c = '.' || c = 'e' || c = '+' || c = '-'

/-- Placing a point adds nothing but the point. -/
theorem mem_placePoint {n : Nat} {c : Char} (h : c ∈ placePoint n ds) : c ∈ ds ∨ c = '.' := by
  unfold placePoint at h
  split at h
  · exact .inl (List.mem_of_mem_take h)
  · rcases List.mem_append.1 h with h | h
    · exact .inl (List.mem_of_mem_take h)
    · rcases List.mem_cons.1 h with h | h
      · exact .inr h
      · exact .inl (List.mem_of_mem_drop h)

theorem noExponent_placePoint (digits : ∀ c ∈ ds, c.isDigit = true) (n : Nat) :
    'e' ∉ placePoint n ds := by
  intro h
  rcases mem_placePoint h with h | h
  · exact ne_of_isDigit (digits _ h) (by decide) rfl
  · cases h

theorem noExponent_of_digits (digits : ∀ c ∈ ds, c.isDigit = true) : 'e' ∉ ds :=
  fun h => ne_of_isDigit (digits _ h) (by decide) rfl

/-- A layout stands for the number of its digits, the first of which stands for
`10 ^ lead`. -/
theorem decimalValue_layout (digits : ∀ c ∈ ds, c.isDigit = true) (some_ : ds ≠ []) :
    decimalValue (layout ds lead) = Text.digitsValue ds * 10 ^ (lead + 1 - ds.length) := by
  have length : 0 < ds.length := List.length_pos_iff.2 some_
  unfold layout
  split
  · split
    · -- Zeros stand before the digits.
      rename_i inside small
      obtain ⟨n, hn⟩ := Int.eq_ofNat_of_zero_le (a := -lead - 1) (by omega)
      have zeros : (-lead - 1).toNat = n := by omega
      have power : lead + 1 - (ds.length : Int) = -((n + ds.length : Nat) : Int) := by omega
      have shape : '0' :: '.' :: (List.replicate (-lead - 1).toNat '0' ++ ds) =
          ['0'] ++ '.' :: (List.replicate n '0' ++ ds) := by rw [zeros]; rfl
      rw [shape, decimalValue_mantissa, mantissaValue_point (List.all_eq_true.1 rfl), power, zpow_neg,
        zpow_natCast]
      · have one : Text.digitsValue ['0'] = 0 := by decide
        rw [Text.digitsValue_append, Text.digitsValue_append, one,
          Text.digitsValue_replicate_zero]
        simp [div_eq_mul_inv]
      · intro h
        simp at h
        exact noExponent_of_digits digits h
    · split
      · -- Zeros stand behind the digits.
        rename_i inside big few
        obtain ⟨n, hn⟩ := Int.eq_ofNat_of_zero_le (a := lead) (by omega)
        have zeros : lead.toNat + 1 - ds.length = n + 1 - ds.length := by omega
        obtain ⟨m, hm⟩ : ∃ m, n + 1 = ds.length + m := ⟨n + 1 - ds.length, by omega⟩
        have power : lead + 1 - (ds.length : Int) = (m : Int) := by omega
        have count : n + 1 - ds.length = m := by omega
        have shape : ds ++ List.replicate (lead.toNat + 1 - ds.length) '0' ++ ['.', '0'] =
            (ds ++ List.replicate m '0') ++ '.' :: ['0'] := by rw [zeros, count]
        have whole : ∀ c ∈ ds ++ List.replicate m '0', c.isDigit = true := by
          intro c hc
          rcases List.mem_append.1 hc with hc | hc
          · exact digits c hc
          · rw [List.eq_of_mem_replicate hc]
            decide
        rw [shape, decimalValue_mantissa, mantissaValue_point whole, power, zpow_natCast]
        · have one : Text.digitsValue ['0'] = 0 := by decide
          rw [Text.digitsValue_append, Text.digitsValue_append, one,
            Text.digitsValue_replicate_zero]
          simp
        · intro h
          rcases List.mem_append.1 h with h | h
          · exact noExponent_of_digits whole h
          · simp at h
      · -- The point stands among the digits.
        rename_i inside big many
        obtain ⟨n, hn⟩ := Int.eq_ofNat_of_zero_le (a := lead) (by omega)
        have place : lead.toNat = n := by omega
        have power : lead + 1 - (ds.length : Int) = -((ds.length - (n + 1) : Nat) : Int) := by omega
        rw [decimalValue_mantissa (noExponent_placePoint digits _), mantissaValue_placePoint digits,
          place, power, zpow_neg, zpow_natCast, div_eq_mul_inv]
  -- The digits are written with an exponent.
  · rw [decimalValue_exponent (noExponent_placePoint digits _), mantissaValue_placePoint digits]
    have exponent : exponentOf ('e' :: (if lead < 0 then '-' else '+') ::
        Nat.toDigits 10 lead.natAbs) = lead := by
      split
      · show -((Text.digitsValue (Nat.toDigits 10 lead.natAbs) : Nat) : Int) = lead
        rw [Text.digitsValue_toDigits]
        omega
      · show ((Text.digitsValue (Nat.toDigits 10 lead.natAbs) : Nat) : Int) = lead
        rw [Text.digitsValue_toDigits]
        omega
    have power : lead + 1 - (ds.length : Int) = lead - ((ds.length - 1 : Nat) : Int) := by omega
    rw [exponent, power, zpow_sub₀ (by norm_num), zpow_natCast]
    ring

/-! ### The characters of a text -/

theorem isDigit_toDigits (n : Nat) : ∀ c ∈ Nat.toDigits 10 n, c.isDigit = true :=
  fun _ hc => Nat.isDigit_of_mem_toDigits (by decide) (by decide) hc

theorem isNumberChar_of_isDigit {c : Char} (digit : c.isDigit = true) : isNumberChar c = true := by
  unfold isNumberChar
  rw [digit]
  rfl

theorem isNumberChar_placePoint (digits : ∀ c ∈ ds, c.isDigit = true) (n : Nat) :
    ∀ c ∈ placePoint n ds, isNumberChar c = true := by
  intro c hc
  rcases mem_placePoint hc with hc | rfl
  · exact isNumberChar_of_isDigit (digits c hc)
  · rfl

/-- Every layout is written with characters of numbers. -/
theorem isNumberChar_layout (digits : ∀ c ∈ ds, c.isDigit = true) :
    ∀ c ∈ layout ds lead, isNumberChar c = true := by
  have plain : ∀ c ∈ ds, isNumberChar c = true :=
    fun c hc => isNumberChar_of_isDigit (digits c hc)
  have zeros : ∀ n : Nat, ∀ c ∈ List.replicate n '0', isNumberChar c = true := by
    intro n c hc
    rw [List.eq_of_mem_replicate hc]
    rfl
  have ending : ∀ c ∈ ['.', '0'], isNumberChar c = true := List.all_eq_true.1 rfl
  unfold layout
  split
  · split
    · intro c hc
      rcases List.mem_cons.1 hc with rfl | hc
      · rfl
      rcases List.mem_cons.1 hc with rfl | hc
      · rfl
      rcases List.mem_append.1 hc with hc | hc
      · exact zeros _ c hc
      · exact plain c hc
    · split
      · intro c hc
        rcases List.mem_append.1 hc with hc | hc
        · rcases List.mem_append.1 hc with hc | hc
          · exact plain c hc
          · exact zeros _ c hc
        · exact ending c hc
      · exact isNumberChar_placePoint digits _
  · intro c hc
    rcases List.mem_append.1 hc with hc | hc
    · exact isNumberChar_placePoint digits _ c hc
    rcases List.mem_cons.1 hc with rfl | hc
    · rfl
    rcases List.mem_cons.1 hc with rfl | hc
    · split <;> rfl
    · exact isNumberChar_of_isDigit (isDigit_toDigits _ c hc)

/-- A layout has a point or an exponent. -/
theorem mark_mem_layout : '.' ∈ layout ds lead ∨ 'e' ∈ layout ds lead := by
  unfold layout
  split
  · left
    split
    · simp
    · split
      · simp
      · rename_i many
        unfold placePoint
        split
        · rename_i none_
          have short := List.drop_eq_nil_iff.1 none_
          omega
        · simp
  · right
    simp

/-- A layout begins with a digit. -/
theorem head_placePoint (digits : ∀ c ∈ ds, c.isDigit = true) (some_ : ds ≠ []) (n : Nat) :
    ∃ c rest, placePoint (n + 1) ds = c :: rest ∧ c.isDigit = true := by
  obtain ⟨d, rest, rfl⟩ := List.exists_cons_of_ne_nil some_
  have digit := digits d List.mem_cons_self
  unfold placePoint
  split
  · exact ⟨d, rest.take n, rfl, digit⟩
  · exact ⟨d, _, rfl, digit⟩

/-- A layout begins with a digit. -/
theorem head_layout (digits : ∀ c ∈ ds, c.isDigit = true) (some_ : ds ≠ []) :
    ∃ c rest, layout ds lead = c :: rest ∧ c.isDigit = true := by
  unfold layout
  split
  · split
    · exact ⟨'0', _, rfl, by decide⟩
    · split
      · obtain ⟨d, rest, rfl⟩ := List.exists_cons_of_ne_nil some_
        exact ⟨d, _, rfl, digits d List.mem_cons_self⟩
      · exact head_placePoint digits some_ _
  · obtain ⟨d, rest, first, digit⟩ := head_placePoint digits some_ 0
    rw [first]
    exact ⟨d, _, rfl, digit⟩

/-! ### The text of a double -/

/-- The text of a magnitude is `0.0` or lays out its shortest digits. -/
theorem magnitudeChars_cases (x : Binary64) :
    (x.isZero = true ∧ x.magnitudeChars = ['0', '.', '0']) ∨
      (x.isZero = false ∧ x.magnitudeChars = layout (Nat.toDigits 10 x.shortest.digits)
        (x.shortest.power + (Nat.toDigits 10 x.shortest.digits).length - 1)) := by
  unfold magnitudeChars
  cases zero : x.isZero with
  | true => exact .inl ⟨rfl, rfl⟩
  | false => exact .inr ⟨rfl, rfl⟩

theorem decimalValue_zero (zero : x.isZero = true) : decimalValue x.magnitudeChars = 0 := by
  rcases x.magnitudeChars_cases with ⟨-, text⟩ | ⟨nonzero, -⟩
  · have digits : Text.digitsValue ['0', '0'] = 0 := by decide
    rw [text, decimalValue_mantissa (by decide)]
    show mantissaValue (['0'] ++ '.' :: ['0']) = 0
    rw [mantissaValue_point (List.all_eq_true.1 rfl), List.singleton_append, digits]
    simp
  · rw [zero] at nonzero
    cases nonzero

/-- The text of a double stands for the shortest digits. -/
theorem decimalValue_shortest (nonzero : x.isZero = false) :
    decimalValue x.magnitudeChars = x.shortest.value := by
  rcases x.magnitudeChars_cases with ⟨zero, -⟩ | ⟨-, text⟩
  · rw [zero] at nonzero
    cases nonzero
  · rw [text, decimalValue_layout (isDigit_toDigits _) Nat.toDigits_ne_nil,
      Text.digitsValue_toDigits]
    unfold Digits.value
    congr 2
    omega

/-- Different doubles are written differently. -/
theorem pattern_eq_of_magnitudeChars (h : x.magnitudeChars = y.magnitudeChars) :
    x.pattern = y.pattern := by
  have value := congrArg decimalValue h
  have pattern_zero : ∀ {z : Binary64}, z.isZero = true → z.pattern = 0 := by
    intro z zero
    exact beq_iff_eq.1 zero
  cases hx : x.isZero with
  | true =>
    cases hy : y.isZero with
    | true => rw [pattern_zero hx, pattern_zero hy]
    | false =>
      rw [decimalValue_zero hx, decimalValue_shortest hy] at value
      exact absurd value ((rounds_shortest hy).positive hy).ne
  | false =>
    cases hy : y.isZero with
    | true =>
      rw [decimalValue_shortest hx, decimalValue_zero hy] at value
      exact absurd value ((rounds_shortest hx).positive hx).ne'
    | false =>
      rw [decimalValue_shortest hx, decimalValue_shortest hy] at value
      have rounds := rounds_shortest hy
      rw [← value] at rounds
      exact (rounds_shortest hx).unique rounds

theorem head_magnitudeChars (x : Binary64) :
    ∃ c rest, x.magnitudeChars = c :: rest ∧ c.isDigit = true := by
  rcases x.magnitudeChars_cases with ⟨-, text⟩ | ⟨-, text⟩
  · exact ⟨'0', _, text, by decide⟩
  · rw [text]
    exact head_layout (isDigit_toDigits _) Nat.toDigits_ne_nil

theorem isNumberChar_magnitudeChars (x : Binary64) :
    ∀ c ∈ x.magnitudeChars, isNumberChar c = true := by
  rcases x.magnitudeChars_cases with ⟨-, text⟩ | ⟨-, text⟩
  · rw [text]
    exact List.all_eq_true.1 rfl
  · rw [text]
    exact isNumberChar_layout (isDigit_toDigits _)

theorem isNumberChar_chars (x : Binary64) : ∀ c ∈ x.chars, isNumberChar c = true := by
  unfold chars
  split
  · intro c hc
    rcases List.mem_cons.1 hc with rfl | hc
    · rfl
    · exact x.isNumberChar_magnitudeChars c hc
  · exact x.isNumberChar_magnitudeChars

/-- The text of a double has a point or an exponent, so it is not the text of an
integer. -/
theorem mark_mem_chars (x : Binary64) : '.' ∈ x.chars ∨ 'e' ∈ x.chars := by
  have magnitude : '.' ∈ x.magnitudeChars ∨ 'e' ∈ x.magnitudeChars := by
    rcases x.magnitudeChars_cases with ⟨-, text⟩ | ⟨-, text⟩
    · rw [text]
      decide
    · rw [text]
      exact mark_mem_layout
  unfold chars
  split
  · exact magnitude.imp (List.mem_cons_of_mem _) (List.mem_cons_of_mem _)
  · exact magnitude

/-- A double begins with a digit or a minus. -/
theorem head_chars (x : Binary64) :
    ∃ c rest, x.chars = c :: rest ∧ (c.isDigit = true ∨ c = '-') := by
  unfold chars
  split
  · exact ⟨'-', _, rfl, .inr rfl⟩
  · obtain ⟨c, rest, text, digit⟩ := x.head_magnitudeChars
    exact ⟨c, rest, text, .inl digit⟩

/-- A double is known by its text. -/
theorem chars_injective (h : x.chars = y.chars) : x = y := by
  have signed : ∀ {a b : Binary64}, a.chars = b.chars → a.negative = true → b.negative = true := by
    intro a b same negative
    unfold chars at same
    rw [if_pos negative] at same
    by_contra positive
    rw [if_neg positive] at same
    obtain ⟨c, rest, text, digit⟩ := b.head_magnitudeChars
    rw [text] at same
    rw [← (List.cons.inj same).1] at digit
    exact absurd digit (by decide)
  have sign : x.negative = y.negative := Bool.eq_iff_iff.2 ⟨signed h, signed h.symm⟩
  have magnitude : x.magnitudeChars = y.magnitudeChars := by
    unfold chars at h
    rw [sign] at h
    split at h
    · exact (List.cons.inj h).2
    · exact h
  have pattern := pattern_eq_of_magnitudeChars magnitude
  cases x
  cases y
  cases sign
  cases pattern
  rfl

end Binary64

end HubAutomation
