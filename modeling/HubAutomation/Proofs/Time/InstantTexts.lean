import HubAutomation.Proofs.Json.DoubleTexts
import HubAutomation.Time.Rfc3339

/-!
# Reading instants that were written

An instant of a year with four digits is read back from its text, whatever part
of a second it has and if it is a leap second. What is read from a text is such
an instant, unless its year is another one, whatever the offset of the text.

- `Instant.isValid_of_ofText?`: what is read exists.
- `Instant.readNumber_padded`: a number is read from digits of a fixed width.
- `Instant.ofText?_text`: an instant is read from its text.
-/

namespace HubAutomation

namespace Instant

variable {t : Instant} {rest : List Char}

/-! ### What is read exists -/

theorem isValid_iff : t.isValid = true ↔ t.date.isValid = true ∧ t.hour < 24 ∧ t.minute < 60 ∧
    t.second ≤ 60 ∧ t.nano < 1000000000 := by
  unfold isValid
  simp only [Bool.and_eq_true, decide_eq_true_eq, and_assoc]

/-- The moment has the seconds of the clock, on some day and at some time of it. -/
theorem ofLocal?_eq_some {shown : Instant} {offset : Int} (h : ofLocal? shown offset = some t) :
    shown.isValid = true ∧ ∃ (date : Date) (ofDay : Nat), date.isValid = true ∧ ofDay < 1440 ∧
      t = ⟨date, ofDay / 60, ofDay % 60, shown.second, shown.nano⟩ := by
  unfold ofLocal? at h
  by_cases fits : offset.natAbs < 1440 ∧ shown.isValid = true
  · rw [if_pos fits] at h
    dsimp only at h
    generalize ((shown.hour * 60 + shown.minute : Nat) : Int) - offset = minutes at h
    have lt : (minutes % 1440).toNat < 1440 := by omega
    generalize (if minutes < 0 then shown.date.previous
      else if 1440 ≤ minutes then shown.date.next else shown.date) = date at h
    split at h
    · rename_i exists_
      cases h
      exact ⟨fits.2, date, _, exists_, lt, rfl⟩
    · cases h
  · rw [if_neg fits] at h
    cases h

/-- A local time with an offset is a time of the calendar. -/
theorem isValid_of_ofLocal? {shown : Instant} {offset : Int}
    (h : ofLocal? shown offset = some t) : t.isValid = true := by
  obtain ⟨valid, date, ofDay, exists_, lt, rfl⟩ := ofLocal?_eq_some h
  obtain ⟨-, -, -, second, nano⟩ := isValid_iff.1 valid
  refine isValid_iff.2 ⟨exists_, ?_, ?_, second, nano⟩
  · show ofDay / 60 < 24
    omega
  · show ofDay % 60 < 60
    omega

/-- A text that is read gives a time of the calendar. -/
theorem isValid_of_ofText? {s : String} (h : ofText? s = some t) : t.isValid = true := by
  unfold ofText? at h
  simp only [Option.bind_eq_bind, Option.bind_eq_some_iff] at h
  obtain ⟨date, -, _, -, hour, -, _, -, minute, -, _, -, second, -, nano, -, offset, -, h⟩ := h
  split at h
  · exact isValid_of_ofLocal? h
  · cases h

/-- Without an offset a clock shows the instant. -/
theorem ofLocal?_zero (valid : t.isValid = true) : ofLocal? t 0 = some t := by
  obtain ⟨date, hour, minute, -, -⟩ := isValid_iff.1 valid
  obtain ⟨day, hours, minutes, seconds, nanos⟩ := t
  dsimp only at date hour minute
  have ofDay : (((hours * 60 + minutes : Nat) - 0 : Int) % 1440).toNat = hours * 60 + minutes := by
    omega
  have notBefore : ¬ ((hours * 60 + minutes : Nat) - 0 : Int) < 0 := by omega
  have notAfter : ¬ 1440 ≤ ((hours * 60 + minutes : Nat) - 0 : Int) := by omega
  unfold ofLocal?
  rw [if_pos ⟨by decide, valid⟩]
  dsimp only
  rw [if_neg notBefore, if_neg notAfter, if_pos date, ofDay]
  have hour' : (hours * 60 + minutes) / 60 = hours := by omega
  have minute' : (hours * 60 + minutes) % 60 = minutes := by omega
  rw [hour', minute']

/-! ### Digits of a fixed width -/

/-- A number that fits is padded to its width. -/
theorem length_padded {width n : Nat} (positive : 0 < width) (fits : n < 10 ^ width) :
    (padded width n).length = width := by
  have le := (Nat.length_toDigits_le_iff (b := 10) (by decide) positive).2 fits
  unfold padded
  rw [List.length_append, List.length_replicate]
  omega

theorem isDigit_padded (width n : Nat) : ∀ c ∈ padded width n, c.isDigit = true := by
  unfold padded
  refine List.forall_mem_append.2 ⟨fun c mem => ?_, Binary64.isDigit_toDigits n⟩
  rw [List.eq_of_mem_replicate mem]
  rfl

/-- Padding does not change a number. -/
theorem digitsValue_padded (width n : Nat) : Text.digitsValue (padded width n) = n := by
  unfold padded
  rw [Text.digitsValue_append, Text.digitsValue_replicate_zero, Nat.zero_mul, Nat.zero_add,
    Text.digitsValue_toDigits]

/-- A number is read from as many digits as there may be. -/
theorem readNumber_padded {width n : Nat} (positive : 0 < width) (fits : n < 10 ^ width)
    (rest : List Char) : readNumber width (padded width n ++ rest) = some (n, rest) := by
  have length := length_padded positive fits
  have taken : ((padded width n ++ rest).take width).takeWhile Char.isDigit = padded width n := by
    rw [List.take_left' length]
    exact List.takeWhile_eq_self_iff.2 (isDigit_padded width n)
  have some_ : (padded width n).isEmpty = false := by
    rw [List.isEmpty_eq_false_iff, ← List.length_pos_iff, length]
    exact positive
  unfold readNumber
  rw [taken]
  dsimp only
  rw [some_, digitsValue_padded, length, List.drop_left' length]
  rfl

/-! ### Parts of a text -/

theorem padded_eq_cons (width n : Nat) : ∃ c cs, padded width n = c :: cs ∧ c.isDigit = true := by
  have some_ : padded width n ≠ [] := by
    unfold padded
    exact List.append_ne_nil_of_right_ne_nil _ Nat.toDigits_ne_nil
  obtain ⟨c, cs, isCons⟩ := List.exists_cons_of_ne_nil some_
  refine ⟨c, cs, isCons, isDigit_padded width n c ?_⟩
  rw [isCons]
  exact List.mem_cons_self

theorem isBlank_of_isDigit {c : Char} (digit : c.isDigit = true) : Text.isBlank c = false := by
  unfold Char.isDigit at digit
  rw [Bool.and_eq_true, decide_eq_true_eq, decide_eq_true_eq] at digit
  have low : 48 ≤ c.toNat := UInt32.le_iff_toNat_le.1 digit.1
  have high : c.toNat ≤ 57 := UInt32.le_iff_toNat_le.1 digit.2
  rw [Bool.eq_false_iff]
  intro blank
  simp only [Text.isBlank, Bool.or_eq_true, Bool.and_eq_true, decide_eq_true_eq, beq_iff_eq] at blank
  omega

theorem trimStart_cons {c : Char} (notBlank : Text.isBlank c = false) (cs : List Char) :
    Text.trimStart (c :: cs) = c :: cs := by
  unfold Text.trimStart
  rw [List.dropWhile_cons, notBlank]
  rfl

/-- A part of a time that was padded can be read. -/
theorem readPart_padded {n : Nat} (fits : n < 100) (rest : List Char) :
    readPart 2 (padded 2 n ++ rest) = some (n, rest) := by
  obtain ⟨c, cs, isCons, digit⟩ := padded_eq_cons 2 n
  unfold readPart
  rw [isCons, List.cons_append, trimStart_cons (isBlank_of_isDigit digit), ← List.cons_append,
    ← isCons]
  exact readNumber_padded (by decide) fits rest

theorem readMark_cons {mark : Char} (notBlank : Text.isBlank mark = false) (rest : List Char) :
    readMark mark (mark :: rest) = some rest := by
  unfold readMark
  rw [trimStart_cons notBlank]
  exact if_pos rfl

/-- A year that was padded can be read. -/
theorem readYear_padded {n : Nat} (fits : n ≤ 9999) (rest : List Char) :
    readYear (padded 4 n ++ rest) = some ((n : Int), rest) := by
  obtain ⟨c, cs, isCons, digit⟩ := padded_eq_cons 4 n
  have number := @readNumber_padded 4 n (by decide) (Nat.lt_succ_of_le fits) rest
  rw [isCons] at number ⊢
  unfold readYear
  rw [List.cons_append, trimStart_cons (isBlank_of_isDigit digit)]
  split
  · rename_i minus
    obtain ⟨rfl, -⟩ := List.cons.inj minus
    cases digit
  · rename_i plus
    obtain ⟨rfl, -⟩ := List.cons.inj plus
    cases digit
  · exact congrArg (Option.map _) number

/-- Month and day have two digits at most. -/
theorem of_isValid_date {d : Date} (valid : d.isValid = true) : d.month < 100 ∧ d.day < 100 := by
  unfold Date.isValid at valid
  simp only [Bool.and_eq_true, decide_eq_true_eq] at valid
  have days : Date.daysIn d.year d.month ≤ 31 := by
    unfold Date.daysIn
    split
    · split <;> decide
    all_goals decide
  omega

/-- A date that was written can be read. -/
theorem readDate_dateChars {d : Date} (valid : d.isValid = true) (after : 0 ≤ d.year)
    (before : d.year ≤ 9999) (rest : List Char) :
    readDate (dateChars d ++ rest) = some (d, rest) := by
  obtain ⟨month, day⟩ := of_isValid_date valid
  obtain ⟨year, isYear⟩ := Int.eq_ofNat_of_zero_le after
  have chars : dateChars d ++ rest = padded 4 year ++ ('-' :: (padded 2 d.month ++
      ('-' :: (padded 2 d.day ++ rest)))) := by
    unfold dateChars yearChars
    rw [if_pos ⟨after, before⟩, isYear]
    simp
  have dash : Text.isBlank '-' = false := by decide
  unfold readDate
  rw [chars, readYear_padded (by omega)]
  simp only [Option.bind_eq_bind, Option.bind_some, readMark_cons dash, readPart_padded month,
    readPart_padded day]
  rw [← isYear]
  rfl

/-- The digits after a point are parts of a second, however many there are. -/
theorem readFraction_padded {width n : Nat} (positive : 0 < width) (le : width ≤ 9)
    (fits : n < 10 ^ width) :
    readFraction ('.' :: padded width n ++ ['Z']) = some (n * Nat.pow 10 (9 - width), ['Z']) := by
  have length := length_padded positive fits
  have taken : (padded width n ++ ['Z']).takeWhile Char.isDigit = padded width n := by
    rw [List.takeWhile_append_of_pos (isDigit_padded width n)]
    exact List.append_nil _
  have some_ : (padded width n).isEmpty = false := by
    rw [List.isEmpty_eq_false_iff, ← List.length_pos_iff, length]
    exact positive
  have all : (padded width n).take 9 = padded width n := by
    rw [List.take_of_length_le]
    rwa [length]
  show (let ds := (padded width n ++ ['Z']).takeWhile Char.isDigit
    if ds.isEmpty then none
    else
      let kept := ds.take 9
      some (Text.digitsValue kept * Nat.pow 10 (9 - kept.length),
        (padded width n ++ ['Z']).drop ds.length)) = _
  rw [taken]
  dsimp only
  rw [some_, all, digitsValue_padded, length, List.drop_left' length]
  rfl

/-- The fraction is read up to the `Z`. -/
theorem readFraction_fractionChars {nano : Nat} (fits : nano < 1000000000) :
    readFraction (fractionChars nano ++ ['Z']) = some (nano, ['Z']) := by
  unfold fractionChars
  split
  · rename_i zero
    rw [zero]
    rfl
  · split
    · rename_i thousandth
      rw [readFraction_padded (by decide) (by decide) (by omega)]
      have value : nano / 1000000 * Nat.pow 10 (9 - 3) = nano := by
        show nano / 1000000 * 1000000 = nano
        omega
      rw [value]
    · split
      · rename_i millionth
        rw [readFraction_padded (by decide) (by decide) (by omega)]
        have value : nano / 1000 * Nat.pow 10 (9 - 6) = nano := by
          show nano / 1000 * 1000 = nano
          omega
        rw [value]
      · rw [readFraction_padded (by decide) (by decide) (by omega)]
        have value : nano * Nat.pow 10 (9 - 9) = nano := Nat.mul_one nano
        rw [value]

/-! ### The whole text -/

/-- An instant of a year with four digits is read from its text. -/
theorem ofText?_text (valid : t.isValid = true) (after : 0 ≤ t.date.year)
    (before : t.date.year ≤ 9999) : ofText? t.text = some t := by
  obtain ⟨date, hour, minute, second, nano⟩ := isValid_iff.1 valid
  have colon : Text.isBlank ':' = false := by decide
  have hour : t.hour < 100 := by omega
  have minute : t.minute < 100 := by omega
  have second : t.second < 100 := by omega
  unfold ofText? text
  rw [String.toList_ofList]
  unfold chars
  simp only [readDate_dateChars date after before, Option.bind_eq_bind, Option.bind_some,
    readSeparator, readPart_padded hour, readPart_padded minute, readPart_padded second,
    readMark_cons colon, readFraction_fractionChars nano]
  exact ofLocal?_zero valid

end Instant

end HubAutomation
