import HubAutomation.Json.Reader
import Mathlib.Data.List.Basic

/-!
# The fuel of the reader

Each part of a value takes at least one character, so the fuel that the length
of a text allows is never used up: whatever the reader finds with some fuel, it
finds with as much as twice the number of characters that it takes.

- `Json.Shape`: what a value at the start of a text is made of.
- `Json.readMembers_eq_some_iff`: the members of an object, one after another.
- `Json.readValue_fuelFor`: a value that is read with some fuel is read with
  what the length of the text allows.
-/

namespace HubAutomation

namespace Json

variable {fuel depth : Nat} {cs rest : List Char} {j : Json}

/-! ### What is read is taken from the text -/

/-- Blanks are cut off in front. -/
theorem length_skipBlanks (cs : List Char) : (skipBlanks cs).length ≤ cs.length :=
  (List.dropWhile_suffix _).length_le

theorem length_of_skipBlanks {c : Char} (h : skipBlanks cs = c :: rest) :
    rest.length < cs.length := by
  have le := length_skipBlanks cs
  rw [h] at le
  exact le

theorem prepend_eq_some {c : Char} {r : Read (List Char)} {s : List Char}
    (h : prepend c r = some (s, rest)) : ∃ s', r = some (s', rest) := by
  unfold prepend at h
  split at h
  · cases h
    exact ⟨_, rfl⟩
  · cases h

/-- Reading a string takes at least its closing quote. -/
theorem length_readChars {s : List Char} (h : readChars cs = some (s, rest)) :
    rest.length < cs.length := by
  have after : ∀ {c : Char} {tail : List Char} {s : List Char} {n : Nat},
      (∀ {s : List Char}, readChars tail = some (s, rest) → rest.length < tail.length) →
        prepend c (readChars tail) = some (s, rest) → tail.length ≤ n → rest.length < n := by
    intro c tail s n ih h le
    obtain ⟨s', read⟩ := prepend_eq_some h
    exact Nat.lt_of_lt_of_le (ih read) le
  fun_induction readChars cs generalizing s with
  | case2 =>
    cases h
    exact Nat.lt_succ_self _
  -- A character, written as a surrogate pair, as an escape of digits or of one letter, or as it is.
  | case6 | case9 | case10 | case13 =>
    rename_i ih
    exact after ih h (by simp only [List.length_cons]; omega)
  | _ => cases h

theorem length_readString {s : String} (h : readString cs = some (s, rest)) :
    rest.length < cs.length := by
  unfold readString at h
  split at h
  · rename_i read
    cases h
    exact length_readChars read
  · cases h

/-- Digits are cut off in front. -/
theorem length_takeDigits (cs : List Char) :
    (Text.takeDigits cs).1.length + (Text.takeDigits cs).2.length = cs.length := by
  rw [← List.length_append, Text.takeDigits_append]

/-- A result is put together with the text after it. -/
theorem eq_of_paired {α : Type} {o : Option α} {a : α} {tail : List Char}
    (h : o.map (·, tail) = some (a, rest)) : rest = tail := by
  obtain ⟨b, -, e⟩ := Option.map_eq_some_iff.1 h
  exact (Prod.mk.inj e).2.symm

theorem length_readExponent {negative : Bool} {significand : Nat} {exponent : Int} {n : Number}
    (h : readExponent negative significand exponent cs = some (n, rest)) :
    rest.length ≤ cs.length := by
  unfold readExponent at h
  split at h
  rename_i down tail sign
  have le : tail.length ≤ cs.length := by
    split at sign <;> cases sign
    · exact Nat.le_succ _
    · exact Nat.le_succ _
    · exact Nat.le_refl _
  have taken := length_takeDigits tail
  have isRest : rest = (Text.takeDigits tail).2 := by
    dsimp only at h
    split at h
    · cases h
    · split at h
      · exact eq_of_paired h
      · split at h
        · cases h
          rfl
        · cases h
  rw [isRest]
  omega

/-- What follows the digits of a number may be nothing at all. -/
theorem length_readTail {negative : Bool} {significand left : Nat} {n : Number}
    (h : readTail negative significand left cs = some (n, rest)) : rest.length ≤ cs.length := by
  unfold readTail at h
  split at h
  · -- What follows the digits of a fraction is no longer than the text.
    rename_i tail
    have taken := length_takeDigits tail
    have shorter : ∀ {after : List Char}, after.length ≤ (Text.takeDigits tail).2.length →
        after.length ≤ ('.' :: tail).length := by
      intro after le
      rw [List.length_cons]
      omega
    dsimp only at h
    split at h
    · cases h
    · split at h
      · rename_i digits
        rw [digits] at shorter
        exact shorter (Nat.le_succ_of_le (length_readExponent h))
      · rename_i digits
        rw [digits] at shorter
        exact shorter (Nat.le_succ_of_le (length_readExponent h))
      · rw [eq_of_paired h]
        exact shorter (Nat.le_refl _)
  · exact Nat.le_succ_of_le (length_readExponent h)
  · exact Nat.le_succ_of_le (length_readExponent h)
  · split at h
    · cases h
      exact Nat.le_refl _
    · split at h
      · cases h
        exact Nat.le_refl _
      · exact Nat.le_of_eq (congrArg List.length (eq_of_paired h))

/-- Reading a number takes at least one digit. -/
theorem length_readNumber {n : Number} (h : readNumber cs = some (n, rest)) :
    rest.length < cs.length := by
  unfold readNumber at h
  split at h
  rename_i negative unsigned sign
  have le : unsigned.length ≤ cs.length := by
    split at sign <;> cases sign
    · exact Nat.le_succ _
    · exact Nat.le_refl _
  have taken := length_takeDigits unsigned
  split at h
  · cases h
  · cases h
  · rename_i ds tail some_ _ digits
    rw [digits] at taken
    have atLeastOne : 0 < ds.length := List.length_pos_iff.2 some_
    have after := length_readTail h
    dsimp only at taken
    omega

/-! ### Between values -/

theorem length_dropWord {word : List Char} (h : dropWord? word cs = some rest) :
    rest.length ≤ cs.length := by
  fun_induction dropWord? word cs with
  | case1 =>
    cases h
    exact Nat.le_refl _
  | case2 ws c cs ih => exact Nat.le_succ_of_le (ih h)
  | case3 => cases h
  | case4 => cases h

/-- Between items there is a comma or the end. -/
theorem length_readComma {close : Char} {more : Bool} (h : readComma close cs = some (more, rest)) :
    rest.length < cs.length := by
  unfold readComma at h
  split at h
  · rename_i tail first
    cases h
    exact length_of_skipBlanks first
  · rename_i c tail _ first
    split at h
    · cases h
      exact length_of_skipBlanks first
    · cases h
  · cases h

theorem length_readName {key : String} (h : readName cs = some (key, rest)) :
    rest.length < cs.length := by
  unfold readName at h
  split at h
  · rename_i tail first
    exact Nat.lt_trans (length_readString h) (length_of_skipBlanks first)
  · cases h

theorem length_readColon (h : readColon cs = some rest) : rest.length < cs.length := by
  unfold readColon at h
  split at h
  · rename_i tail first
    cases h
    exact length_of_skipBlanks first
  · cases h

/-- A member begins with its name and a colon. -/
theorem readKey_eq_some {key : String} (h : readKey cs = some (key, rest)) :
    ∃ tail, readName cs = some (key, tail) ∧ readColon tail = some rest := by
  unfold readKey at h
  split at h
  · rename_i name tail read
    obtain ⟨after, colon, e⟩ := Option.map_eq_some_iff.1 h
    cases e
    exact ⟨tail, read, colon⟩
  · cases h

theorem length_readKey {key : String} (h : readKey cs = some (key, rest)) :
    rest.length < cs.length := by
  obtain ⟨tail, name, colon⟩ := readKey_eq_some h
  exact Nat.lt_trans (length_readColon colon) (length_readName name)

/-! ### One step of the reader -/

/-- A number, a truth value or nothing. -/
def isPlain : Json → Bool
  | .string _ | .array _ | .object _ => false
  | _ => true

/-- What a value at the start of a text is made of. -/
inductive Shape (fuel : Nat) (cs : List Char) : (depth : Nat) → Json → List Char → Prop where
  | plain {depth : Nat} {j : Json} {rest : List Char} (kind : j.isPlain = true)
      (noQuote : ∀ tail, skipBlanks cs ≠ '"' :: tail)
      (reads : ∀ fuel depth, readValue (fuel + 1) depth cs = some (j, rest))
      (shorter : rest.length < cs.length) : Shape fuel cs depth j rest
  | string {depth : Nat} {tail rest : List Char} {s : String} (opens : skipBlanks cs = '"' :: tail)
      (reads : readString tail = some (s, rest)) : Shape fuel cs depth (.string s) rest
  | emptyArray {depth : Nat} {tail rest : List Char} (opens : skipBlanks cs = '[' :: tail)
      (closes : skipBlanks tail = ']' :: rest) : Shape fuel cs (depth + 1) (.array []) rest
  | array {depth : Nat} {tail rest : List Char} {items : List Json}
      (opens : skipBlanks cs = '[' :: tail) (goesOn : ∀ rest, skipBlanks tail ≠ ']' :: rest)
      (reads : readItems fuel depth (skipBlanks tail) = some (items, rest)) :
      Shape fuel cs (depth + 1) (.array items) rest
  | emptyObject {depth : Nat} {tail rest : List Char} (opens : skipBlanks cs = '\x7b' :: tail)
      (closes : skipBlanks tail = '\x7d' :: rest) : Shape fuel cs (depth + 1) (.object []) rest
  | object {depth : Nat} {tail rest : List Char} {members : List (String × Json)}
      (opens : skipBlanks cs = '\x7b' :: tail) (goesOn : ∀ rest, skipBlanks tail ≠ '\x7d' :: rest)
      (reads : readMembers fuel depth (skipBlanks tail) = some (members, rest)) :
      Shape fuel cs (depth + 1) (.object members) rest

/-- What the reader does with a quote. -/
theorem readValue_string {tail : List Char} (opens : skipBlanks cs = '"' :: tail) :
    readValue (fuel + 1) depth cs = (readString tail).map fun r => (.string r.1, r.2) := by
  unfold readValue
  rw [opens]
  rfl

/-- What the reader does with a bracket. -/
theorem readValue_array {tail : List Char} (opens : skipBlanks cs = '[' :: tail) :
    readValue (fuel + 1) (depth + 1) cs =
      match skipBlanks tail with
      | ']' :: rest => some (.array [], rest)
      | rest => (readItems fuel depth rest).map fun r => (.array r.1, r.2) := by
  unfold readValue
  rw [opens]
  rfl

/-- What the reader does with a brace. -/
theorem readValue_object {tail : List Char} (opens : skipBlanks cs = '\x7b' :: tail) :
    readValue (fuel + 1) (depth + 1) cs =
      match skipBlanks tail with
      | '\x7d' :: rest => some (.object [], rest)
      | rest => (readMembers fuel depth rest).map fun r => (.object r.1, r.2) := by
  unfold readValue
  rw [opens]
  rfl

/-- A word is read alike with any fuel at any depth. -/
theorem shape_of_word (word : List Char) (k : Json) {tail : List Char} {c : Char}
    (h : readValue (fuel + 1) depth cs = some (j, rest)) (first : skipBlanks cs = c :: tail)
    (noQuote : c ≠ '"') (kind : k.isPlain = true)
    (reads : ∀ fuel depth, readValue (fuel + 1) depth cs = (dropWord? word tail).map (k, ·)) :
    Shape fuel cs depth j rest := by
  rw [reads] at h
  obtain ⟨after, dropped, e⟩ := Option.map_eq_some_iff.1 h
  cases e
  refine .plain kind (fun other quote => ?_) (fun fuel depth => (reads fuel depth).trans h)
    (Nat.lt_of_le_of_lt (length_dropWord dropped) (length_of_skipBlanks first))
  exact noQuote (List.cons.inj (first.symm.trans quote)).1

/-- A value that was read has the shape that its first character tells. -/
theorem shape_of_readValue (h : readValue (fuel + 1) depth cs = some (j, rest)) :
    Shape fuel cs depth j rest := by
  have unfolded := h
  unfold readValue at unfolded
  -- By the first character: three words, a string, an array, an object, and otherwise a
  -- number.
  split at unfolded
  · rename_i tail first
    refine shape_of_word ['u', 'l', 'l'] .null h first (by decide) rfl fun fuel depth => ?_
    unfold readValue
    rw [first]
    rfl
  · rename_i tail first
    refine shape_of_word ['r', 'u', 'e'] (.bool true) h first (by decide) rfl fun fuel depth => ?_
    unfold readValue
    rw [first]
    rfl
  · rename_i tail first
    refine shape_of_word ['a', 'l', 's', 'e'] (.bool false) h first (by decide) rfl fun fuel depth => ?_
    unfold readValue
    rw [first]
    rfl
  · rename_i tail first
    obtain ⟨⟨s, after⟩, read, e⟩ := Option.map_eq_some_iff.1 unfolded
    cases e
    exact .string first read
  · rename_i tail first
    split at unfolded
    · cases unfolded
    · split at unfolded
      · rename_i closes
        cases unfolded
        exact .emptyArray first closes
      · rename_i goesOn
        obtain ⟨⟨items, after⟩, read, e⟩ := Option.map_eq_some_iff.1 unfolded
        cases e
        exact .array first goesOn read
  · rename_i tail first
    split at unfolded
    · cases unfolded
    · split at unfolded
      · rename_i closes
        cases unfolded
        exact .emptyObject first closes
      · rename_i goesOn
        obtain ⟨⟨members, after⟩, read, e⟩ := Option.map_eq_some_iff.1 unfolded
        cases e
        exact .object first goesOn read
  · rename_i notNull notTrue notFalse noQuote notArray notObject
    obtain ⟨⟨n, after⟩, read, e⟩ := Option.map_eq_some_iff.1 unfolded
    cases e
    refine .plain rfl (fun tail => noQuote tail) (fun fuel depth => ?_)
      (Nat.lt_of_lt_of_le (length_readNumber read) (length_skipBlanks cs))
    unfold readValue
    split
    -- No other character came first, so the reader goes into the same branch with any
    -- fuel.
    · exact absurd ‹_› (notNull _)
    · exact absurd ‹_› (notTrue _)
    · exact absurd ‹_› (notFalse _)
    · exact absurd ‹_› (noQuote _)
    · exact absurd ‹_› (notArray _)
    · exact absurd ‹_› (notObject _)
    · exact unfolded

/-- A value of some shape is read as such. -/
theorem Shape.readValue (shape : Shape fuel cs depth j rest) :
    readValue (fuel + 1) depth cs = some (j, rest) := by
  cases shape with
  | plain kind noQuote reads shorter => exact reads fuel depth
  | string opens reads =>
    rw [readValue_string opens, reads]
    rfl
  | emptyArray opens closes =>
    rw [readValue_array opens, closes]
    rfl
  | array opens goesOn reads =>
    rw [readValue_array opens]
    split
    · exact absurd ‹_› (goesOn _)
    · rw [reads]
      rfl
  | emptyObject opens closes =>
    rw [readValue_object opens, closes]
    rfl
  | object opens goesOn reads =>
    rw [readValue_object opens]
    split
    · exact absurd ‹_› (goesOn _)
    · rw [reads]
      rfl

/-- An item and what follows it. -/
theorem readItems_eq_some_iff {items : List Json} :
    readItems (fuel + 1) depth cs = some (items, rest) ↔
      ∃ j tail, readValue fuel depth cs = some (j, tail) ∧
        (readComma ']' tail = some (false, rest) ∧ items = [j] ∨
          ∃ tail' others, readComma ']' tail = some (true, tail') ∧
            readItems fuel depth tail' = some (others, rest) ∧ items = j :: others) := by
  constructor
  · intro h
    unfold readItems at h
    split at h
    · cases h
    · rename_i j tail value
      split at h
      · cases h
      · rename_i closes
        cases h
        exact ⟨j, tail, value, .inl ⟨closes, rfl⟩⟩
      · rename_i tail' comma
        obtain ⟨⟨others, after⟩, read, e⟩ := Option.map_eq_some_iff.1 h
        cases e
        exact ⟨j, tail, value, .inr ⟨tail', others, comma, read, rfl⟩⟩
  · rintro ⟨j, tail, value, ⟨closes, rfl⟩ | ⟨tail', others, comma, read, rfl⟩⟩
    · unfold readItems
      simp only [value, closes]
    · unfold readItems
      simp only [value, comma, read, Option.map_some]

/-- A member and what follows it. -/
theorem readMembers_eq_some_iff {members : List (String × Json)} :
    readMembers (fuel + 1) depth cs = some (members, rest) ↔
      ∃ key start j tail, readKey cs = some (key, start) ∧
        readValue fuel depth start = some (j, tail) ∧
          (readComma '\x7d' tail = some (false, rest) ∧ members = [(key, j)] ∨
            ∃ tail' others, readComma '\x7d' tail = some (true, tail') ∧
              readMembers fuel depth tail' = some (others, rest) ∧ members = (key, j) :: others) := by
  constructor
  · intro h
    unfold readMembers at h
    split at h
    · cases h
    · rename_i key start name
      split at h
      · cases h
      · rename_i j tail value
        split at h
        · cases h
        · rename_i closes
          cases h
          exact ⟨key, start, j, tail, name, value, .inl ⟨closes, rfl⟩⟩
        · rename_i tail' comma
          obtain ⟨⟨others, after⟩, read, e⟩ := Option.map_eq_some_iff.1 h
          cases e
          exact ⟨key, start, j, tail, name, value, .inr ⟨tail', others, comma, read, rfl⟩⟩
  · rintro ⟨key, start, j, tail, name, value, ⟨closes, rfl⟩ | ⟨tail', others, comma, read, rfl⟩⟩
    · unfold readMembers
      simp only [name, value, closes]
    · unfold readMembers
      simp only [name, value, comma, read, Option.map_some]

/-! ### Enough fuel -/

/-- Something is read from a text that becomes shorter, and as much fuel as
twice the characters that are taken is enough for it. -/
structure Fueled {α : Type} (read : Nat → Read α) (cs : List Char) (a : α) (rest : List Char) :
    Prop where
  shorter : rest.length < cs.length
  enough : ∀ fuel, 2 * (cs.length - rest.length) ≤ fuel → read fuel = some (a, rest)

/-- What stands in brackets after a first character needs one step more. -/
theorem Fueled.within {α : Type} {read : Nat → Read α} {a : α} {tail inner : List Char}
    (fueled : Fueled read inner a rest) (le : inner.length ≤ tail.length)
    (lt : tail.length < cs.length) {readValue : Nat → Read Json}
    (step : ∀ fuel, read fuel = some (a, rest) → readValue (fuel + 1) = some (j, rest)) :
    Fueled readValue cs j rest where
  shorter := by
    have shorter := fueled.shorter
    omega
  enough := by
    have shorter := fueled.shorter
    intro fuel le'
    obtain ⟨less, rfl⟩ : ∃ less, fuel = less + 1 := ⟨fuel - 1, by omega⟩
    exact step less (fueled.enough less (by omega))

mutual

/-- A value that is read with some fuel is read with enough. -/
theorem fueled_value : ∀ {fuel depth : Nat} {cs rest : List Char} {j : Json},
    readValue fuel depth cs = some (j, rest) → Fueled (readValue · depth cs) cs j rest
  | 0, _, _, _, _, h => by cases h
  | fuel + 1, _, cs, rest, _, h => by
    cases shape_of_readValue h with
    | plain kind noQuote reads shorter =>
      refine ⟨shorter, fun fuel le => ?_⟩
      obtain ⟨less, rfl⟩ : ∃ less, fuel = less + 1 := ⟨fuel - 1, by omega⟩
      exact reads less _
    | string opens reads =>
      have taken := length_of_skipBlanks opens
      have taken' := length_readString reads
      refine ⟨Nat.lt_trans taken' taken, fun fuel le => ?_⟩
      obtain ⟨less, rfl⟩ : ∃ less, fuel = less + 1 := ⟨fuel - 1, by omega⟩
      exact (Shape.string opens reads).readValue
    | emptyArray opens closes =>
      have taken := length_of_skipBlanks opens
      have taken' := length_of_skipBlanks closes
      refine ⟨Nat.lt_trans taken' taken, fun fuel le => ?_⟩
      obtain ⟨less, rfl⟩ : ∃ less, fuel = less + 1 := ⟨fuel - 1, by omega⟩
      exact (Shape.emptyArray opens closes).readValue
    | array opens goesOn reads =>
      exact (fueled_items reads).within (length_skipBlanks _) (length_of_skipBlanks opens)
        fun fuel reads => (Shape.array opens goesOn reads).readValue
    | emptyObject opens closes =>
      have taken := length_of_skipBlanks opens
      have taken' := length_of_skipBlanks closes
      refine ⟨Nat.lt_trans taken' taken, fun fuel le => ?_⟩
      obtain ⟨less, rfl⟩ : ∃ less, fuel = less + 1 := ⟨fuel - 1, by omega⟩
      exact (Shape.emptyObject opens closes).readValue
    | object opens goesOn reads =>
      exact (fueled_members reads).within (length_skipBlanks _) (length_of_skipBlanks opens)
        fun fuel reads => (Shape.object opens goesOn reads).readValue

/-- More fuel reads the same items. -/
theorem fueled_items : ∀ {fuel depth : Nat} {cs rest : List Char} {items : List Json},
    readItems fuel depth cs = some (items, rest) → Fueled (readItems · depth cs) cs items rest
  | 0, _, _, _, _, h => by cases h
  | fuel + 1, depth, cs, rest, items, h => by
    obtain ⟨j, tail, value, next⟩ := readItems_eq_some_iff.1 h
    have first := fueled_value value
    have taken := first.shorter
    rcases next with ⟨closes, rfl⟩ | ⟨tail', others, comma, read, rfl⟩
    · have taken' := length_readComma closes
      refine ⟨Nat.lt_trans taken' taken, fun fuel le => ?_⟩
      obtain ⟨less, rfl⟩ : ∃ less, fuel = less + 1 := ⟨fuel - 1, by omega⟩
      exact readItems_eq_some_iff.2
        ⟨j, tail, first.enough less (by omega), .inl ⟨closes, rfl⟩⟩
    · have taken' := length_readComma comma
      have later := fueled_items read
      have taken'' := later.shorter
      refine ⟨by omega, fun fuel le => ?_⟩
      obtain ⟨less, rfl⟩ : ∃ less, fuel = less + 1 := ⟨fuel - 1, by omega⟩
      exact readItems_eq_some_iff.2 ⟨j, tail, first.enough less (by omega),
        .inr ⟨tail', others, comma, later.enough less (by omega), rfl⟩⟩

/-- More fuel reads the same members. -/
theorem fueled_members : ∀ {fuel depth : Nat} {cs rest : List Char}
    {members : List (String × Json)}, readMembers fuel depth cs = some (members, rest) →
      Fueled (readMembers · depth cs) cs members rest
  | 0, _, _, _, _, h => by cases h
  | fuel + 1, depth, cs, rest, members, h => by
    obtain ⟨key, start, j, tail, name, value, next⟩ := readMembers_eq_some_iff.1 h
    have named := length_readKey name
    have first := fueled_value value
    have taken := first.shorter
    rcases next with ⟨closes, rfl⟩ | ⟨tail', others, comma, read, rfl⟩
    · have taken' := length_readComma closes
      refine ⟨by omega, fun fuel le => ?_⟩
      obtain ⟨less, rfl⟩ : ∃ less, fuel = less + 1 := ⟨fuel - 1, by omega⟩
      exact readMembers_eq_some_iff.2
        ⟨key, start, j, tail, name, first.enough less (by omega), .inl ⟨closes, rfl⟩⟩
    · have taken' := length_readComma comma
      have later := fueled_members read
      have taken'' := later.shorter
      refine ⟨by omega, fun fuel le => ?_⟩
      obtain ⟨less, rfl⟩ : ∃ less, fuel = less + 1 := ⟨fuel - 1, by omega⟩
      exact readMembers_eq_some_iff.2 ⟨key, start, j, tail, name, first.enough less (by omega),
        .inr ⟨tail', others, comma, later.enough less (by omega), rfl⟩⟩

end

/-- The fuel that is given for a text is enough. -/
theorem readValue_fuelFor (h : readValue fuel depth cs = some (j, rest)) :
    readValue (fuelFor cs) depth cs = some (j, rest) := by
  refine (fueled_value h).enough _ ?_
  unfold fuelFor
  omega

/-- A text is read as a document if a value begins it and nothing follows. -/
theorem read?_eq_some_iff :
    read? cs = some j ↔
      ∃ rest, readValue (fuelFor cs) deepest cs = some (j, rest) ∧ atEnd rest = true := by
  unfold read?
  constructor
  · intro h
    split at h
    · rename_i k rest reads
      split at h
      · rename_i ended
        cases h
        exact ⟨rest, reads, ended⟩
      · cases h
    · cases h
  · rintro ⟨rest, reads, ended⟩
    rw [reads]
    exact if_pos ended

end Json

end HubAutomation
