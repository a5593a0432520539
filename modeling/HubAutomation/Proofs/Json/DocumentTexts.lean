import HubAutomation.Json.Reader
import HubAutomation.Proofs.Json.DoubleTexts

/-!
# Texts of documents

The compact text of a document tells it apart from all others. A string is read
back from between its quotes. A number ends where no digit, sign, point or
exponent follows, and an integer has neither a point nor an exponent. The first
character of a value shows its kind, and a comma or a bracket ends each item.

- `Json.readChars_quoted`: reading a string gives its characters back.
- `Json.numberChars_injective`: a number is known by its text.
- `Json.eq_of_chars`: the text of a value at the start of a longer text.
- `Json.text_injective`: a document is known by its text.
- `Json.chars_not_control`: the text has no control characters.
-/

namespace HubAutomation

namespace Json

open Binary64 (isNumberChar isDigit_toDigits isNumberChar_of_isDigit)

/-! ### Strings -/

/-- The two digits of a control character stand for it. -/
theorem hexValues_control : ∀ n < 32,
    hexValues? '0' '0' (hexDigit (n / 16)) (hexDigit n) = some n := by
  decide

/-- Reading an escaped character gives it back. -/
theorem readChars_escaped (c : Char) (rest : List Char) :
    readChars (escaped c ++ rest) = prepend c (readChars rest) := by
  unfold escaped
  by_cases quote : c = '"'
  · subst quote
    rfl
  by_cases backslash : c = '\\'
  · subst backslash
    rfl
  by_cases newline : c = '\n'
  · subst newline
    rfl
  by_cases return_ : c = '\r'
  · subst return_
    rfl
  by_cases tab : c = '\t'
  · subst tab
    rfl
  rw [if_neg quote, if_neg backslash, if_neg newline, if_neg return_, if_neg tab]
  -- The two escapes that have no notation of their own in a character literal.
  by_cases backspace : c.toNat = 8
  · obtain rfl : c = Char.ofNat 8 := by rw [← backspace, Char.ofNat_toNat]
    rfl
  by_cases formFeed : c.toNat = 12
  · obtain rfl : c = Char.ofNat 12 := by rw [← formFeed, Char.ofNat_toNat]
    rfl
  rw [if_neg backspace, if_neg formFeed]
  by_cases control : c.toNat < 32
  -- Four digits; below a space no character is half of a pair.
  · have digits := hexValues_control c.toNat control
    have notLow : isLowSurrogate c.toNat = false := by
      unfold isLowSurrogate
      rw [decide_eq_false (by omega : ¬ 0xDC00 ≤ c.toNat)]
      rfl
    have notHigh : isHighSurrogate c.toNat = false := by
      unfold isHighSurrogate
      rw [decide_eq_false (by omega : ¬ 0xD800 ≤ c.toNat)]
      rfl
    rw [if_pos control]
    simp [readChars, digits, notLow, notHigh]
  · rw [if_neg control]
    simp [readChars, backslash, control]

/-- Reading a string up to its closing quote gives its characters back. -/
theorem readChars_quoted (cs rest : List Char) :
    readChars (cs.flatMap escaped ++ '"' :: rest) = some (cs, rest) := by
  induction cs with
  | nil => rfl
  | cons c cs ih =>
    rw [List.flatMap_cons, List.append_assoc, readChars_escaped, ih]
    rfl

/-- Where a text starts with a string, the string and what follows are known. -/
theorem eq_of_quoted {s t : String} {ra rb : List Char} (h : quoted s ++ ra = quoted t ++ rb) :
    s = t ∧ ra = rb := by
  have texts : s.toList.flatMap escaped ++ '"' :: ra = t.toList.flatMap escaped ++ '"' :: rb := by
    simpa [quoted] using h
  have read := readChars_quoted s.toList ra
  rw [texts, readChars_quoted] at read
  obtain ⟨chars, rest⟩ := Prod.mk.inj (Option.some.inj read)
  exact ⟨String.toList_inj.1 chars.symm, rest.symm⟩

/-! ### Numbers -/

/-- An integer is written with characters of numbers only. -/
theorem isNumberChar_intChars (n : Int) : ∀ c ∈ intChars n, isNumberChar c = true := by
  have digits : ∀ c ∈ Nat.toDigits 10 n.natAbs, isNumberChar c = true :=
    fun c hc => isNumberChar_of_isDigit (isDigit_toDigits _ c hc)
  unfold intChars
  split
  · intro c hc
    rcases List.mem_cons.1 hc with rfl | hc
    · rfl
    · exact digits c hc
  · exact digits

/-- So is any number. -/
theorem isNumberChar_numberChars : ∀ n : Number, ∀ c ∈ numberChars n, isNumberChar c = true
  | .int n => isNumberChar_intChars n
  | .float x => x.isNumberChar_chars

/-- An integer has neither a point nor an exponent. -/
theorem no_mark_intChars (n : Int) : '.' ∉ intChars n ∧ 'e' ∉ intChars n := by
  have digits : ∀ c : Char, c.isDigit = false → c ∉ Nat.toDigits 10 n.natAbs := by
    intro c other hc
    have digit := isDigit_toDigits _ c hc
    rw [other] at digit
    cases digit
  have point := digits '.' (by decide)
  have exponent := digits 'e' (by decide)
  unfold intChars
  split
  · constructor
    · intro h
      exact point ((List.mem_cons.1 h).resolve_left (by decide))
    · intro h
      exact exponent ((List.mem_cons.1 h).resolve_left (by decide))
  · exact ⟨point, exponent⟩

/-- An integer begins with a digit or a minus. -/
theorem head_intChars (n : Int) :
    ∃ c rest, intChars n = c :: rest ∧ (c.isDigit = true ∨ c = '-') := by
  unfold intChars
  split
  · exact ⟨'-', _, rfl, .inr rfl⟩
  · obtain ⟨d, rest, digits⟩ :=
      List.exists_cons_of_ne_nil (Nat.toDigits_ne_nil (b := 10) (n := n.natAbs))
    have digit := isDigit_toDigits n.natAbs d (digits ▸ List.mem_cons_self)
    exact ⟨d, rest, digits, .inl digit⟩

/-- Different integers are written differently. -/
theorem intChars_injective {m n : Int} (h : intChars m = intChars n) : m = n := by
  have magnitude : ∀ {k l : Nat}, Nat.toDigits 10 k = Nat.toDigits 10 l → k = l := by
    intro k l same
    rw [← Text.digitsValue_toDigits k, same, Text.digitsValue_toDigits]
  have noSign : ∀ (k : Nat) (cs : List Char), '-' :: cs ≠ Nat.toDigits 10 k := by
    intro k cs same
    have digit := isDigit_toDigits k '-' (same ▸ List.mem_cons_self)
    exact absurd digit (by decide)
  unfold intChars at h
  split at h
  · split at h
    · have same := magnitude (List.cons.inj h).2
      omega
    · exact absurd h (noSign _ _)
  · split at h
    · exact absurd h.symm (noSign _ _)
    · have same := magnitude h
      omega

/-- A number is known by its text. -/
theorem numberChars_injective : ∀ {m n : Number}, numberChars m = numberChars n → m = n
  | .int m, .int n, h => congrArg Number.int (intChars_injective h)
  | .float x, .float y, h => congrArg Number.float (Binary64.chars_injective h)
  | .int m, .float y, h => by
    obtain ⟨point, exponent⟩ := no_mark_intChars m
    have same : intChars m = y.chars := h
    rw [same] at point exponent
    exact absurd y.mark_mem_chars (not_or.2 ⟨point, exponent⟩)
  | .float x, .int n, h => by
    obtain ⟨point, exponent⟩ := no_mark_intChars n
    have same : x.chars = intChars n := h
    rw [← same] at point exponent
    exact absurd x.mark_mem_chars (not_or.2 ⟨point, exponent⟩)

/-- A text that does not go on with a number. -/
def EndsNumber (rest : List Char) : Prop := rest.takeWhile isNumberChar = []

/-- A character of another kind ends a number. -/
theorem endsNumber_cons {c : Char} {rest : List Char} (other : isNumberChar c = false) :
    EndsNumber (c :: rest) := by
  unfold EndsNumber
  rw [List.takeWhile_cons_of_neg (by rw [other]; exact Bool.false_ne_true)]

/-- Where a text starts with a number that ends there, the number and what
follows are known. -/
theorem eq_of_numberChars {m n : Number} {ra rb : List Char} (ha : EndsNumber ra)
    (hb : EndsNumber rb) (h : numberChars m ++ ra = numberChars n ++ rb) : m = n ∧ ra = rb := by
  have taken : ∀ (k : Number) {r : List Char}, EndsNumber r →
      (numberChars k ++ r).takeWhile isNumberChar = numberChars k := by
    intro k r ends
    rw [List.takeWhile_append_of_pos (isNumberChar_numberChars k), ends, List.append_nil]
  have text := congrArg (List.takeWhile isNumberChar) h
  rw [taken m ha, taken n hb] at text
  rw [text] at h
  exact ⟨numberChars_injective text, List.append_cancel_left h⟩

/-! ### The first character -/

/-- What the text of a value begins with, zero standing for all numbers. -/
def opening : Json → Char
  | .null => 'n'
  | .bool true => 't'
  | .bool false => 'f'
  | .number _ => '0'
  | .string _ => '"'
  | .array _ => '['
  | .object _ => '\x7b'

/-- The first character, zero standing for all that begin a number. -/
def openingOf (c : Char) : Char := if c.isDigit ∨ c = '-' then '0' else c

/-- A number begins with a digit or a minus. -/
theorem head_numberChars : ∀ n : Number,
    ∃ c rest, numberChars n = c :: rest ∧ (c.isDigit = true ∨ c = '-')
  | .int n => head_intChars n
  | .float x => x.head_chars

/-- The first character of a value tells what kind of value it is. -/
theorem head_chars (j : Json) : ∃ c rest, chars j = c :: rest ∧ openingOf c = j.opening := by
  unfold chars
  split
  · exact ⟨_, _, rfl, rfl⟩
  · exact ⟨_, _, rfl, rfl⟩
  · exact ⟨_, _, rfl, rfl⟩
  · rename_i n
    obtain ⟨c, rest, text, first⟩ := head_numberChars n
    exact ⟨c, rest, text, if_pos first⟩
  · exact ⟨_, _, rfl, rfl⟩
  · exact ⟨_, _, rfl, rfl⟩
  · exact ⟨_, _, rfl, rfl⟩
  · exact ⟨_, _, rfl, rfl⟩
  · exact ⟨_, _, rfl, rfl⟩

/-- Texts that start alike start with values of one kind. -/
theorem opening_eq {a b : Json} {ra rb : List Char} (h : chars a ++ ra = chars b ++ rb) :
    a.opening = b.opening := by
  obtain ⟨c, resta, texta, opena⟩ := a.head_chars
  obtain ⟨d, restb, textb, openb⟩ := b.head_chars
  rw [texta, textb] at h
  rw [← opena, ← openb, (List.cons.inj h).1]

/-- No value begins like the end of an array. -/
theorem opening_ne_bracket (j : Json) (close : Char) (rest tail : List Char)
    (isClose : openingOf close = ']') : close :: tail ≠ chars j ++ rest := by
  intro h
  obtain ⟨c, others, text, first⟩ := j.head_chars
  rw [text] at h
  rw [← (List.cons.inj h).1, isClose] at first
  revert first
  unfold opening
  split <;> decide

section

variable {b : Json}

/-- What begins like null is null. -/
theorem eq_null_of_opening (h : b.opening = 'n') : b = .null := by
  unfold opening at h
  split at h <;> first | rfl | exact absurd h (by decide)

/-- What begins like a boolean is that boolean. -/
theorem eq_bool_of_opening {x : Bool} (h : (bool x).opening = b.opening) : b = .bool x := by
  cases x <;> unfold opening at h <;> dsimp only at h <;> split at h <;>
    first | rfl | exact absurd h (by decide)

/-- What begins like a number is one. -/
theorem eq_number_of_opening (h : b.opening = '0') : ∃ n, b = .number n := by
  unfold opening at h
  split at h <;> first | exact ⟨_, rfl⟩ | exact absurd h (by decide)

/-- What begins like a string is one. -/
theorem eq_string_of_opening (h : b.opening = '"') : ∃ s, b = .string s := by
  unfold opening at h
  split at h <;> first | exact ⟨_, rfl⟩ | exact absurd h (by decide)

/-- What begins like an array is one. -/
theorem eq_array_of_opening (h : b.opening = '[') : ∃ items, b = .array items := by
  unfold opening at h
  split at h <;> first | exact ⟨_, rfl⟩ | exact absurd h (by decide)

/-- What begins like an object is one. -/
theorem eq_object_of_opening (h : b.opening = '\x7b') : ∃ members, b = .object members := by
  unfold opening at h
  split at h <;> first | exact ⟨_, rfl⟩ | exact absurd h (by decide)

end

/-! ### Documents -/

/-- Items go on with a comma or a bracket, so they end a number. -/
theorem endsNumber_itemsChars : ∀ (items : List Json) (rest : List Char),
    EndsNumber (itemsChars items ++ rest)
  | [], _ => endsNumber_cons rfl
  | _ :: _, _ => endsNumber_cons rfl

/-- Members go on with a comma or a brace, so they end a number. -/
theorem endsNumber_membersChars : ∀ (members : List (String × Json)) (rest : List Char),
    EndsNumber (membersChars members ++ rest)
  | [], _ => endsNumber_cons rfl
  | _ :: _, _ => endsNumber_cons rfl

mutual

/-- Where a text starts with a value and does not go on with a number, the value
and what follows are known. -/
theorem eq_of_chars : ∀ (a : Json) {b : Json} {ra rb : List Char},
    chars a ++ ra = chars b ++ rb → EndsNumber ra → EndsNumber rb → a = b ∧ ra = rb
  | .null, _, _, _, h, _, _ => by
    obtain rfl := eq_null_of_opening (opening_eq h).symm
    exact ⟨rfl, List.append_cancel_left h⟩
  | .bool _, _, _, _, h, _, _ => by
    obtain rfl := eq_bool_of_opening (opening_eq h)
    exact ⟨rfl, List.append_cancel_left h⟩
  | .number m, _, _, _, h, ha, hb => by
    obtain ⟨n, rfl⟩ := eq_number_of_opening (opening_eq h).symm
    unfold chars at h
    obtain ⟨rfl, rest⟩ := eq_of_numberChars ha hb h
    exact ⟨rfl, rest⟩
  | .string _, _, _, _, h, _, _ => by
    obtain ⟨t, rfl⟩ := eq_string_of_opening (opening_eq h).symm
    unfold chars at h
    obtain ⟨rfl, rest⟩ := eq_of_quoted h
    exact ⟨rfl, rest⟩
  | .array [], _, _, _, h, _, _ => by
    obtain ⟨items, rfl⟩ := eq_array_of_opening (opening_eq h).symm
    cases items with
    | nil => exact ⟨rfl, List.append_cancel_left h⟩
    | cons l rest' =>
      simp only [chars, List.cons_append, List.append_assoc, List.cons.injEq, true_and] at h
      exact absurd h (opening_ne_bracket l ']' _ _ rfl)
  | .array (j :: rest), _, _, _, h, _, _ => by
    obtain ⟨items, rfl⟩ := eq_array_of_opening (opening_eq h).symm
    cases items with
    | nil =>
      simp only [chars, List.cons_append, List.append_assoc, List.cons.injEq, true_and] at h
      exact absurd h.symm (opening_ne_bracket j ']' _ _ rfl)
    | cons l rest' =>
      simp only [chars, List.cons_append, List.append_assoc, List.cons.injEq, true_and] at h
      obtain ⟨rfl, tails⟩ := eq_of_chars j h (endsNumber_itemsChars rest _)
        (endsNumber_itemsChars rest' _)
      obtain ⟨rfl, rest⟩ := eq_of_itemsChars rest tails
      exact ⟨rfl, rest⟩
  | .object [], _, _, _, h, _, _ => by
    obtain ⟨members, rfl⟩ := eq_object_of_opening (opening_eq h).symm
    cases members with
    | nil => exact ⟨rfl, List.append_cancel_left h⟩
    | cons m rest' =>
      unfold chars at h
      exact absurd (List.cons.inj (List.cons.inj h).2).1 (by decide)
  | .object ((k, j) :: rest), _, _, _, h, _, _ => by
    obtain ⟨members, rfl⟩ := eq_object_of_opening (opening_eq h).symm
    cases members with
    | nil =>
      unfold chars at h
      exact absurd (List.cons.inj (List.cons.inj h).2).1 (by decide)
    | cons m rest' =>
      simp only [chars, List.cons_append, List.append_assoc, List.cons.injEq, true_and] at h
      obtain ⟨rfl, value⟩ := eq_of_quoted h
      have value := (List.cons.inj value).2
      obtain ⟨rfl, tails⟩ := eq_of_chars j value (endsNumber_membersChars rest _)
        (endsNumber_membersChars rest' _)
      obtain ⟨rfl, rest⟩ := eq_of_membersChars rest tails
      exact ⟨rfl, rest⟩

/-- The same for the items of an array. -/
theorem eq_of_itemsChars : ∀ (as : List Json) {bs : List Json} {ra rb : List Char},
    itemsChars as ++ ra = itemsChars bs ++ rb → as = bs ∧ ra = rb
  | [], [], _, _, h => ⟨rfl, (List.cons.inj h).2⟩
  | [], _ :: _, _, _, h => absurd (List.cons.inj h).1 (by decide)
  | _ :: _, [], _, _, h => absurd (List.cons.inj h).1 (by decide)
  | j :: rest, l :: rest', _, _, h => by
    simp only [itemsChars, List.cons_append, List.append_assoc, List.cons.injEq, true_and] at h
    obtain ⟨rfl, tails⟩ := eq_of_chars j h (endsNumber_itemsChars rest _)
      (endsNumber_itemsChars rest' _)
    obtain ⟨rfl, rest⟩ := eq_of_itemsChars rest tails
    exact ⟨rfl, rest⟩

/-- The same for the members of an object. -/
theorem eq_of_membersChars : ∀ (as : List (String × Json)) {bs : List (String × Json)}
    {ra rb : List Char}, membersChars as ++ ra = membersChars bs ++ rb → as = bs ∧ ra = rb
  | [], [], _, _, h => ⟨rfl, (List.cons.inj h).2⟩
  | [], _ :: _, _, _, h => absurd (List.cons.inj h).1 (by decide)
  | _ :: _, [], _, _, h => absurd (List.cons.inj h).1 (by decide)
  | (k, j) :: rest, (l, i) :: rest', _, _, h => by
    simp only [membersChars, List.cons_append, List.append_assoc, List.cons.injEq, true_and] at h
    obtain ⟨rfl, value⟩ := eq_of_quoted h
    have value := (List.cons.inj value).2
    obtain ⟨rfl, tails⟩ := eq_of_chars j value (endsNumber_membersChars rest _)
      (endsNumber_membersChars rest' _)
    obtain ⟨rfl, rest⟩ := eq_of_membersChars rest tails
    exact ⟨rfl, rest⟩

end

/-- A document is known by its text. -/
theorem text_injective {a b : Json} (h : a.text = b.text) : a = b := by
  have chars := String.ofList_injective h
  have same : a.chars ++ [] = b.chars ++ [] := by rw [chars]
  exact (eq_of_chars a same rfl rfl).1

/-! ### No control characters -/

/-- A control character. -/
def isControl (c : Char) : Bool := c.toNat < 32

/-- Of a text that is given, each character can be looked at. -/
theorem not_control_of_all {cs : List Char} (h : (cs.all fun c => !isControl c) = true) :
    ∀ c ∈ cs, isControl c = false :=
  fun c hc => by simpa using List.all_eq_true.1 h c hc

/-- A digit of an escape is no control character. -/
theorem hexDigit_not_control (n : Nat) : isControl (hexDigit n) = false := by
  have all : ∀ d < 16, isControl (Nat.digitChar d) = false := by decide
  exact all (n % 16) (Nat.mod_lt n (by decide))

/-- What is written for a character has no control characters. -/
theorem escaped_not_control (c : Char) : ∀ d ∈ escaped c, isControl d = false := by
  unfold escaped
  repeat' split
  iterate 7 exact not_control_of_all (by decide)
  · -- A control character is written in digits.
    have digits : ∀ d ∈ [hexDigit (c.toNat / 16), hexDigit c.toNat], isControl d = false := by
      intro d hd
      rcases List.mem_pair.1 hd with rfl | rfl
      · exact hexDigit_not_control _
      · exact hexDigit_not_control _
    simp only [List.forall_mem_cons] at digits ⊢
    exact ⟨by decide, by decide, by decide, by decide, digits⟩
  · rename_i plain
    intro d hd
    rw [List.mem_singleton.1 hd]
    exact decide_eq_false plain

/-- A quoted text has no control characters. -/
theorem quoted_not_control (s : String) : ∀ c ∈ quoted s, isControl c = false := by
  have quote : isControl '"' = false := by decide
  intro c hc
  unfold quoted at hc
  rcases List.mem_cons.1 hc with rfl | hc
  · exact quote
  rcases List.mem_append.1 hc with hc | hc
  · obtain ⟨d, -, hd⟩ := List.mem_flatMap.1 hc
    exact escaped_not_control d c hd
  · rw [List.mem_singleton.1 hc]
    exact quote

/-- A number has no control characters. -/
theorem numberChars_not_control (n : Number) : ∀ c ∈ numberChars n, isControl c = false := by
  intro c hc
  have char := isNumberChar_numberChars n c hc
  unfold isNumberChar at char
  simp only [Bool.or_eq_true, decide_eq_true_eq] at char
  rcases char with (((digit | rfl) | rfl) | rfl) | rfl
  · obtain ⟨low, -⟩ := Char.isDigit_iff_toNat.1 digit
    have zero : '0'.toNat = 48 := rfl
    exact decide_eq_false (by omega)
  · decide
  · decide
  · decide
  · decide

mutual

/-- The text of a document has no control characters. -/
theorem chars_not_control : ∀ (j : Json), ∀ c ∈ chars j, isControl c = false
  | .null => not_control_of_all (by decide)
  | .bool true => not_control_of_all (by decide)
  | .bool false => not_control_of_all (by decide)
  | .number n => numberChars_not_control n
  | .string s => quoted_not_control s
  | .array [] => not_control_of_all (by decide)
  | .array (j :: rest) => by
    simp only [chars, List.forall_mem_cons, List.forall_mem_append]
    exact ⟨by decide, chars_not_control j, itemsChars_not_control rest⟩
  | .object [] => not_control_of_all (by decide)
  | .object ((k, j) :: rest) => by
    simp only [chars, List.forall_mem_cons, List.forall_mem_append]
    exact ⟨by decide, quoted_not_control k, by decide, chars_not_control j,
      membersChars_not_control rest⟩

/-- The items of an array have no control characters. -/
theorem itemsChars_not_control : ∀ (items : List Json), ∀ c ∈ itemsChars items, isControl c = false
  | [] => not_control_of_all (by decide)
  | j :: rest => by
    simp only [itemsChars, List.forall_mem_cons, List.forall_mem_append]
    exact ⟨by decide, chars_not_control j, itemsChars_not_control rest⟩

/-- Nor do the members of an object. -/
theorem membersChars_not_control : ∀ (members : List (String × Json)),
    ∀ c ∈ membersChars members, isControl c = false
  | [] => not_control_of_all (by decide)
  | (k, j) :: rest => by
    simp only [membersChars, List.forall_mem_cons, List.forall_mem_append]
    exact ⟨by decide, quoted_not_control k, by decide, chars_not_control j,
      membersChars_not_control rest⟩

end

end Json

end HubAutomation
