import HubAutomation.Proofs.Json.DocumentTexts
import HubAutomation.Proofs.Json.ReaderFuel

/-!
# Reading what was written

A document whose numbers are integers of 64 bits is read back from its compact
text, wherever the text stands, as long as it is not nested too deeply. Doubles
are left out: reading one rounds more than once, so its text may be read as a
neighbour of it.

- `Json.isWhole`: all numbers are integers that 64 bits hold.
- `Json.depth`: how deep arrays and objects stand in one another.
- `Json.readValue_chars`: a value is read back from where it stands.
- `Json.read?_text`: a document is read back from its text.
-/

namespace HubAutomation

/-- An integer that 64 bits hold, with or without a sign. -/
def Number.isWhole : Number → Bool
  | .int n => -Nat.pow 2 63 ≤ n && n < UInt64.size
  | .float _ => false

namespace Json

mutual

/-- All numbers in the document are integers that 64 bits hold. -/
def isWhole : Json → Bool
  | .number n => n.isWhole
  | .array items => isWholeItems items
  | .object members => isWholeMembers members
  | _ => true

def isWholeItems : List Json → Bool
  | [] => true
  | j :: rest => isWhole j && isWholeItems rest

def isWholeMembers : List (String × Json) → Bool
  | [] => true
  | (_, j) :: rest => isWhole j && isWholeMembers rest

end

mutual

/-- How deep arrays and objects stand in one another. -/
def depth : Json → Nat
  | .array items => depthItems items + 1
  | .object members => depthMembers members + 1
  | _ => 0

def depthItems : List Json → Nat
  | [] => 0
  | j :: rest => max (depth j) (depthItems rest)

def depthMembers : List (String × Json) → Nat
  | [] => 0
  | (_, j) :: rest => max (depth j) (depthMembers rest)

end

theorem isWholeMembers_of_all {members : List (String × Json)}
    (all : ∀ m ∈ members, m.2.isWhole = true) : isWholeMembers members = true := by
  induction members with
  | nil => rfl
  | cons m rest ih =>
    obtain ⟨k, j⟩ := m
    have first : j.isWhole = true := all (k, j) List.mem_cons_self
    unfold isWholeMembers
    rw [first, ih fun i mem => all i (List.mem_cons_of_mem _ mem)]
    rfl

theorem depthMembers_le {members : List (String × Json)} {n : Nat}
    (all : ∀ m ∈ members, m.2.depth ≤ n) : depthMembers members ≤ n := by
  induction members with
  | nil => exact Nat.zero_le _
  | cons m rest ih =>
    obtain ⟨k, j⟩ := m
    unfold depthMembers
    exact Nat.max_le.2
      ⟨all (k, j) List.mem_cons_self, ih fun i mem => all i (List.mem_cons_of_mem _ mem)⟩

theorem isWhole_nat {n : Nat} (fits : n < UInt64.size) : (nat n).isWhole = true := by
  show (decide (-Nat.pow 2 63 ≤ (n : Int)) && decide ((n : Int) < UInt64.size)) = true
  rw [decide_eq_true (by omega), decide_eq_true (by omega)]
  rfl

/-! ### Where a value ends -/

/-- The text is at its end, or another item or a closing bracket follows. -/
def Stops : List Char → Prop
  | [] => True
  | c :: _ => c = ',' ∨ c = ']' ∨ c = '\x7d'

theorem stops_itemsChars : ∀ (items : List Json) (rest : List Char), Stops (itemsChars items ++ rest)
  | [], _ => .inr (.inl rfl)
  | _ :: _, _ => .inl rfl

theorem stops_membersChars : ∀ (members : List (String × Json)) (rest : List Char),
    Stops (membersChars members ++ rest)
  | [], _ => .inr (.inr rfl)
  | _ :: _, _ => .inl rfl

/-! ### Numbers -/

variable {rest : List Char}

/-- Digits are taken up to where the value ends. -/
theorem takeDigits_of_stops {ds : List Char} (digits : ∀ c ∈ ds, c.isDigit = true)
    (stops : Stops rest) : Text.takeDigits (ds ++ rest) = (ds, rest) := by
  have noDigit : rest.takeWhile Char.isDigit = [] ∧ rest.dropWhile Char.isDigit = rest := by
    cases rest with
    | nil => exact ⟨rfl, rfl⟩
    | cons c tail => rcases stops with rfl | rfl | rfl <;> exact ⟨rfl, rfl⟩
  unfold Text.takeDigits
  rw [List.takeWhile_append_of_pos digits, List.dropWhile_append_of_pos digits, noDigit.1,
    noDigit.2, List.append_nil]

/-- No digit is left out of a significand that fits. -/
theorem accumulate_of_le {n : Nat} {ds : List Char}
    (le : ds.foldl (fun n d => n * 10 + Text.digitValue d) n ≤ largestInt) :
    accumulate n ds = (ds.foldl (fun n d => n * 10 + Text.digitValue d) n, 0) := by
  induction ds generalizing n with
  | nil => rfl
  | cons d ds ih =>
    have fits : ¬ largestInt < n * 10 + Text.digitValue d := by
      have grows := Text.le_foldl_digits ds (n * 10 + Text.digitValue d)
      rw [List.foldl_cons] at le
      omega
    unfold accumulate
    rw [if_neg fits]
    exact ih le

/-- A number of more than one digit does not start with a zero. -/
theorem toDigits_ne_zero_cons (m : Nat) (d : Char) (ds : List Char) :
    Nat.toDigits 10 m ≠ '0' :: d :: ds := by
  induction m using Nat.strongRecOn generalizing d ds with
  | ind m ih =>
    intro same
    by_cases small : m < 10
    · rw [Nat.toDigits_of_lt_base small] at same
      cases (List.cons.inj same).2
    · -- The digits before the last one are those of a tenth.
      rw [Nat.toDigits_of_base_le (by decide) (by omega)] at same
      cases front : Nat.toDigits 10 (m / 10) with
      | nil => exact Nat.toDigits_ne_nil front
      | cons c tail =>
        rw [front] at same
        obtain ⟨rfl, -⟩ := List.cons.inj same
        cases tail with
        | nil =>
          have value := Text.digitsValue_toDigits (m / 10)
          rw [front] at value
          have zero : Text.digitsValue ['0'] = 0 := rfl
          omega
        | cons e es => exact ih (m / 10) (by omega) e es front

/-- The digits of a number that fits, up to where the value ends. -/
theorem readDigits_toDigits {negative : Bool} {m : Nat} (fits : m ≤ largestInt)
    (stops : Stops rest) :
    (match Text.takeDigits (Nat.toDigits 10 m ++ rest) with
      | ([], _) => none
      | ('0' :: _ :: _, _) => none
      | (ds, rest) =>
        let (significand, left) := accumulate 0 ds
        readTail negative significand left rest) = readTail negative m 0 rest := by
  have digits := takeDigits_of_stops (Binary64.isDigit_toDigits m) stops
  have value := Text.digitsValue_toDigits m
  have all : accumulate 0 (Nat.toDigits 10 m) = (m, 0) := by
    unfold Text.digitsValue at value
    rw [accumulate_of_le (by rw [value]; exact fits), value]
  rw [digits]
  split
  · rename_i none_
    exact absurd (Prod.mk.inj none_).1 Nat.toDigits_ne_nil
  · rename_i zero
    exact absurd (Prod.mk.inj zero).1 (toDigits_ne_zero_cons m _ _)
  · rename_i ds tail _ _ e
    obtain ⟨rfl, rfl⟩ := Prod.mk.inj e
    rw [all]

/-- Neither a fraction nor an exponent follows. -/
theorem readTail_of_stops {negative : Bool} {significand : Nat} (stops : Stops rest) :
    readTail negative significand 0 rest =
      if ¬ negative then some (.int significand, rest)
      else if 0 < significand ∧ significand ≤ Nat.pow 2 63 then some (.int (-significand), rest)
      else (floatOf? negative significand 0).map (·, rest) := by
  have noMark : ∀ tail, rest ≠ '.' :: tail ∧ rest ≠ 'e' :: tail ∧ rest ≠ 'E' :: tail := by
    intro tail
    refine ⟨?_, ?_, ?_⟩ <;> rintro rfl <;> rcases stops with h | h | h <;>
      exact absurd h (by decide)
  unfold readTail
  split
  · exact absurd rfl (noMark _).1
  · exact absurd rfl (noMark _).2.1
  · exact absurd rfl (noMark _).2.2
  · simp

/-- An integer that 64 bits hold is read back. -/
theorem readNumber_intChars {n : Int} (fits : (Number.int n).isWhole = true) (stops : Stops rest) :
    readNumber (intChars n ++ rest) = some (.int n, rest) := by
  unfold Number.isWhole at fits
  simp only [Bool.and_eq_true, decide_eq_true_eq] at fits
  obtain ⟨low, high⟩ := fits
  have size : (UInt64.size : Int) = 2 ^ 64 := rfl
  have half : ((Nat.pow 2 63 : Nat) : Int) = 2 ^ 63 := rfl
  have largest : (largestInt : Int) = 2 ^ 64 - 1 := rfl
  unfold intChars
  split
  · rename_i negative
    have small : n.natAbs ≤ Nat.pow 2 63 := by omega
    unfold readNumber
    rw [List.cons_append]
    refine (@readDigits_toDigits rest true n.natAbs (by omega) stops).trans ?_
    rw [readTail_of_stops stops, if_neg (not_not_intro rfl),
      if_pos ⟨by omega, small⟩]
    have back : -(n.natAbs : Int) = n := by omega
    rw [back]
  · rename_i notNegative
    obtain ⟨d, ds, digits⟩ :=
      List.exists_cons_of_ne_nil (Nat.toDigits_ne_nil (b := 10) (n := n.natAbs))
    have noSign : ∀ tail, Nat.toDigits 10 n.natAbs ++ rest ≠ '-' :: tail := by
      intro tail same
      have digit := Binary64.isDigit_toDigits n.natAbs d (digits ▸ List.mem_cons_self)
      rw [digits] at same
      rw [(List.cons.inj same).1] at digit
      exact absurd digit (by decide)
    unfold readNumber
    split
    rename_i sign unsigned isSigned
    split at isSigned
    · exact absurd ‹_› (noSign _)
    · obtain ⟨rfl, rfl⟩ := Prod.mk.inj isSigned
      refine (readDigits_toDigits (by omega) stops).trans ?_
      rw [readTail_of_stops stops, if_pos (by decide)]
      have back : (n.natAbs : Int) = n := by omega
      rw [back]

/-! ### Values -/

variable {fuel depth : Nat}

theorem readString_quoted (s : String) (rest : List Char) :
    readString (s.toList.flatMap escaped ++ '"' :: rest) = some (s, rest) := by
  unfold readString
  rw [readChars_quoted]
  simp

/-- What stands between a quote and the closing one is the string. -/
theorem quoted_append (s : String) (rest : List Char) :
    quoted s ++ rest = '"' :: (s.toList.flatMap escaped ++ '"' :: rest) := by
  simp [quoted]

theorem readKey_quoted (key : String) (rest : List Char) :
    readKey (quoted key ++ ':' :: rest) = some (key, rest) := by
  have name : readName (quoted key ++ ':' :: rest) = some (key, ':' :: rest) := by
    rw [quoted_append]
    exact readString_quoted key (':' :: rest)
  unfold readKey
  rw [name]
  rfl

/-- No value begins with a blank. -/
theorem not_blank_of_opening {c : Char} {j : Json} (first : openingOf c = j.opening) :
    isBlank c = false := by
  have other : ∀ d : Char, openingOf d = d → d ∉ ['n', 't', 'f', '0', '"', '[', '\x7b'] → c ≠ d := by
    rintro d self noOpening rfl
    rw [self] at first
    refine noOpening ?_
    rw [first]
    unfold opening
    split <;> decide
  unfold isBlank
  simp only [Bool.or_eq_false_iff, beq_eq_false_iff_ne]
  exact ⟨⟨⟨other ' ' (by decide) (by decide), other '\n' (by decide) (by decide)⟩,
    other '\t' (by decide) (by decide)⟩, other '\r' (by decide) (by decide)⟩

theorem skipBlanks_of_opening {c : Char} {j : Json} (first : openingOf c = j.opening)
    (tail : List Char) : skipBlanks (c :: tail) = c :: tail := by
  unfold skipBlanks
  rw [List.dropWhile_cons_of_neg (by rw [not_blank_of_opening first]; exact Bool.false_ne_true)]

/-- No blank stands before a value. -/
theorem skipBlanks_chars (j : Json) (rest : List Char) :
    skipBlanks (chars j ++ rest) = chars j ++ rest := by
  obtain ⟨c, tail, text, first⟩ := j.head_chars
  rw [text, List.cons_append]
  exact skipBlanks_of_opening first _

/-- Where a number stands, a number is read. -/
theorem readValue_number {c : Char} {tail : List Char} (first : c.isDigit = true ∨ c = '-') :
    readValue (fuel + 1) depth (c :: tail) =
      (readNumber (c :: tail)).map fun r => (.number r.1, r.2) := by
  have other : ∀ d : Char, openingOf d ≠ '0' → ∀ rest, c :: tail ≠ d :: rest := by
    intro d noNumber rest same
    rw [(List.cons.inj same).1] at first
    exact noNumber (if_pos first)
  have start : openingOf c = opening (.number (.int 0)) := if_pos first
  unfold readValue
  rw [skipBlanks_of_opening start]
  split
  · exact absurd ‹_› (other 'n' (by decide) _)
  · exact absurd ‹_› (other 't' (by decide) _)
  · exact absurd ‹_› (other 'f' (by decide) _)
  · exact absurd ‹_› (other '"' (by decide) _)
  · exact absurd ‹_› (other '[' (by decide) _)
  · exact absurd ‹_› (other '\x7b' (by decide) _)
  · rfl

theorem length_chars_pos (j : Json) : 0 < (chars j).length := by
  obtain ⟨c, tail, text, -⟩ := j.head_chars
  rw [text]
  exact Nat.succ_pos _

theorem length_itemsChars_pos (items : List Json) : 0 < (itemsChars items).length := by
  cases items <;> exact Nat.succ_pos _

theorem length_membersChars_pos (members : List (String × Json)) :
    0 < (membersChars members).length := by
  cases members <;> exact Nat.succ_pos _

/-- Items have one level less than the array around them. -/
theorem inner_of_array {items : List Json} (shallow : (array items).depth ≤ depth) :
    ∃ inner, depth = inner + 1 ∧ depthItems items ≤ inner := by
  unfold Json.depth at shallow
  exact ⟨depth - 1, by omega, by omega⟩

theorem inner_of_object {members : List (String × Json)}
    (shallow : (object members).depth ≤ depth) :
    ∃ inner, depth = inner + 1 ∧ depthMembers members ≤ inner := by
  unfold Json.depth at shallow
  exact ⟨depth - 1, by omega, by omega⟩

theorem isWholeItems_cons {j : Json} {items : List Json}
    (whole : isWholeItems (j :: items) = true) : j.isWhole = true ∧ isWholeItems items = true := by
  unfold isWholeItems at whole
  exact Bool.and_eq_true_iff.1 whole

theorem isWholeMembers_cons {k : String} {j : Json} {members : List (String × Json)}
    (whole : isWholeMembers ((k, j) :: members) = true) :
    j.isWhole = true ∧ isWholeMembers members = true := by
  unfold isWholeMembers at whole
  exact Bool.and_eq_true_iff.1 whole

mutual

/-- A value is read back from where it stands. -/
theorem readValue_chars : ∀ (j : Json) {fuel depth : Nat} {rest : List Char}, j.isWhole = true →
    j.depth ≤ depth → 2 * (chars j).length ≤ fuel + 1 → Stops rest →
      readValue (fuel + 1) depth (chars j ++ rest) = some (j, rest)
  | .null, _, _, _, _, _, _, _ => rfl
  | .bool true, _, _, _, _, _, _, _ => rfl
  | .bool false, _, _, _, _, _, _, _ => rfl
  | .number (.int n), fuel, depth, rest, whole, _, _, stops => by
    obtain ⟨c, tail, text, first⟩ := head_intChars n
    have read := readNumber_intChars whole stops
    show readValue (fuel + 1) depth (intChars n ++ rest) = _
    rw [text, List.cons_append] at read ⊢
    rw [readValue_number first, read]
    rfl
  | .string s, fuel, depth, rest, _, _, _, _ => by
    show readValue (fuel + 1) depth (quoted s ++ rest) = _
    rw [quoted_append]
    show (readString _).map _ = _
    rw [readString_quoted]
    rfl
  | .array [], fuel, depth, rest, _, shallow, _, _ => by
    obtain ⟨inner, rfl, -⟩ := inner_of_array shallow
    rfl
  | .array (j :: items), fuel, depth, rest, whole, shallow, enough, _ => by
    have text : chars (.array (j :: items)) ++ rest =
        '[' :: (chars j ++ (itemsChars items ++ rest)) := by
      simp only [chars, List.cons_append, List.append_assoc]
    obtain ⟨inner, rfl, within⟩ := inner_of_array shallow
    -- The opening bracket pays for one step of fuel, and what stands inside for the
    -- rest.
    obtain ⟨less, rfl, inside⟩ : ∃ less, fuel = less + 1 ∧
        2 * (chars j ++ itemsChars items).length ≤ less + 1 := ⟨fuel - 1, by
      have positive := length_chars_pos j
      unfold chars at enough
      rw [List.length_cons, List.length_append] at enough
      rw [List.length_append]
      omega⟩
    have whole : isWholeItems (j :: items) = true := by
      unfold isWhole at whole
      exact whole
    have read : readItems _ _ (chars j ++ (itemsChars items ++ rest)) = _ :=
      readItems_chars (j :: items) rfl whole within inside
    rw [text]
    refine Shape.readValue (.array rfl ?_ ?_)
    · rw [skipBlanks_chars]
      exact fun tail => (opening_ne_bracket j ']' _ tail rfl).symm
    · rw [skipBlanks_chars]
      exact read
  | .object [], fuel, depth, rest, _, shallow, _, _ => by
    obtain ⟨inner, rfl, -⟩ := inner_of_object shallow
    rfl
  | .object ((k, j) :: members), fuel, depth, rest, whole, shallow, enough, _ => by
    have text : chars (.object ((k, j) :: members)) ++ rest =
        '\x7b' :: (quoted k ++ ':' :: (chars j ++ (membersChars members ++ rest))) := by
      simp only [chars, List.cons_append, List.append_assoc]
    obtain ⟨inner, rfl, within⟩ := inner_of_object shallow
    obtain ⟨less, rfl, inside⟩ : ∃ less, fuel = less + 1 ∧
        2 * (chars j ++ membersChars members).length ≤ less + 1 := ⟨fuel - 1, by
      have positive := length_chars_pos j
      unfold chars at enough
      simp only [List.length_cons, List.length_append] at enough ⊢
      omega⟩
    have whole : isWholeMembers ((k, j) :: members) = true := by
      unfold isWhole at whole
      exact whole
    have read : readMembers _ _
        (quoted k ++ ':' :: (chars j ++ (membersChars members ++ rest))) = _ :=
      readMembers_chars ((k, j) :: members) rfl whole within inside
    have start : skipBlanks (quoted k ++ ':' :: (chars j ++ (membersChars members ++ rest))) =
        quoted k ++ ':' :: (chars j ++ (membersChars members ++ rest)) := rfl
    rw [text]
    refine Shape.readValue (.object rfl ?_ ?_)
    · rw [start]
      exact fun tail same => absurd (List.cons.inj same).1 (by decide)
    · rw [start]
      exact read

theorem readItems_chars : ∀ (all : List Json) {j : Json} {items : List Json} {fuel depth : Nat}
    {rest : List Char}, all = j :: items → isWholeItems all = true → depthItems all ≤ depth →
      2 * (chars j ++ itemsChars items).length ≤ fuel + 1 →
        readItems (fuel + 1) depth (chars j ++ (itemsChars items ++ rest)) = some (all, rest)
  | j :: items, _, _, fuel, depth, rest, rfl, whole, shallow, enough => by
    obtain ⟨whole, others⟩ := isWholeItems_cons whole
    obtain ⟨shallow, shallows⟩ : j.depth ≤ depth ∧ depthItems items ≤ depth := by
      unfold depthItems at shallow
      omega
    have positive := length_chars_pos j
    have more := length_itemsChars_pos items
    rw [List.length_append] at enough
    obtain ⟨less, rfl⟩ : ∃ less, fuel = less + 1 := ⟨fuel - 1, by omega⟩
    have value : readValue (less + 1) depth _ = _ :=
      readValue_chars j whole shallow (by omega) (stops_itemsChars items rest)
    refine readItems_eq_some_iff.2 ⟨j, _, value, ?_⟩
    cases items with
    | nil => exact .inl ⟨rfl, rfl⟩
    | cons k items =>
      unfold itemsChars at enough
      rw [List.length_cons] at enough
      have next : readItems (less + 1) depth (chars k ++ (itemsChars items ++ rest)) = _ :=
        readItems_chars (k :: items) rfl others shallows (by omega)
      refine .inr ⟨chars k ++ (itemsChars items ++ rest), k :: items, ?_, next, rfl⟩
      simp only [itemsChars, List.cons_append, List.append_assoc]
      rfl

theorem readMembers_chars : ∀ (all : List (String × Json)) {k : String} {j : Json}
    {members : List (String × Json)} {fuel depth : Nat} {rest : List Char},
      all = (k, j) :: members → isWholeMembers all = true → depthMembers all ≤ depth →
        2 * (chars j ++ membersChars members).length ≤ fuel + 1 →
          readMembers (fuel + 1) depth
            (quoted k ++ ':' :: (chars j ++ (membersChars members ++ rest))) = some (all, rest)
  | (k, j) :: members, _, _, _, fuel, depth, rest, rfl, whole, shallow, enough => by
    obtain ⟨whole, others⟩ := isWholeMembers_cons whole
    obtain ⟨shallow, shallows⟩ : j.depth ≤ depth ∧ depthMembers members ≤ depth := by
      unfold depthMembers at shallow
      omega
    have positive := length_chars_pos j
    have more := length_membersChars_pos members
    rw [List.length_append] at enough
    obtain ⟨less, rfl⟩ : ∃ less, fuel = less + 1 := ⟨fuel - 1, by omega⟩
    have value : readValue (less + 1) depth _ = _ :=
      readValue_chars j whole shallow (by omega) (stops_membersChars members rest)
    refine readMembers_eq_some_iff.2 ⟨k, _, j, _, readKey_quoted k _, value, ?_⟩
    match members with
    | [] => exact .inl ⟨rfl, rfl⟩
    | (l, i) :: members =>
      unfold membersChars at enough
      simp only [List.length_cons, List.length_append] at enough
      have next : readMembers (less + 1) depth
          (quoted l ++ ':' :: (chars i ++ (membersChars members ++ rest))) = _ :=
        readMembers_chars ((l, i) :: members) rfl others shallows
          (by rw [List.length_append]; omega)
      refine .inr ⟨quoted l ++ ':' :: (chars i ++ (membersChars members ++ rest)),
        (l, i) :: members, ?_, next, rfl⟩
      simp only [membersChars, List.cons_append, List.append_assoc]
      rfl

end

/-- A document is read back from its text, and nothing is left of the text. -/
theorem read?_chars {j : Json} (whole : j.isWhole = true) (shallow : j.depth ≤ deepest) :
    read? j.chars = some j := by
  have read : readValue (fuelFor j.chars) deepest (j.chars ++ []) = some (j, []) :=
    readValue_chars j whole shallow (by omega) trivial
  rw [List.append_nil] at read
  unfold read?
  rw [read]
  rfl

theorem read?_text {j : Json} (whole : j.isWhole = true) (shallow : j.depth ≤ deepest) :
    read? j.text.toList = some j := by
  unfold text
  rw [String.toList_ofList]
  exact read?_chars whole shallow

end Json

end HubAutomation
