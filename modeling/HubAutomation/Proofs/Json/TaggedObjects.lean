import HubAutomation.Json.Tagged
import HubAutomation.Proofs.Json.CanonicalDocuments
import HubAutomation.Proofs.Json.ReaderFuel
import Mathlib.Data.List.DropRight

/-!
# Tagged objects

A tagged document is read on the way, member by member. Where the text is that
of an object, this comes to the same as to read the object first and to look for
its tag then: the tag may stand at any place, and a fault of the tag is the only
one that there can be.

- `Tagged.gather`: the tag and the other members, member by member.
- `Tagged.readMembers_eq`: reading on the way gathers what the reader finds.
- `Tagged.read_object`: the tagged document of an object without repeated keys.
- `Tagged.read_of_read?`: the same of a whole text.
-/

namespace HubAutomation

namespace Tagged

open Json (readValue skipBlanks length_readComma length_readKey readKey_eq_some fueled_value
  readValue_fuelFor shape_of_readValue readMembers_eq_some_iff)

variable {cs rest : List Char} {tag : Option String} {others members : List (String × Json)}

/-- Find the tag among members, after those in `others` (the last one first). -/
def gather : (tag : Option String) → (others members : List (String × Json)) →
    ReadResult (Option String × List (String × Json))
  | tag, others, [] => .ok (tag, others.reverse)
  | tag, others, (key, j) :: rest =>
    if key = tagKey then
      match tag, j with
      | none, .string text => gather (some text) others rest
      | _, _ => .error .mismatch
    else gather tag ((key, j) :: others) rest

theorem gather_tag (others members : List (String × Json)) (j : Json) :
    gather tag others ((tagKey, j) :: members) =
      match tag, j with
      | none, .string text => gather (some text) others members
      | _, _ => .error .mismatch := if_pos rfl

theorem gather_other {key : String} (other : key ≠ tagKey) (others members : List (String × Json))
    (j : Json) : gather tag others ((key, j) :: members) = gather tag ((key, j) :: others) members :=
  if_neg other

/-! ### Reading on the way -/

theorem skipBlanks_idempotent (cs : List Char) : skipBlanks (skipBlanks cs) = skipBlanks cs :=
  List.dropWhile_idempotent _ _

theorem readValue_skipBlanks (fuel depth : Nat) (cs : List Char) :
    readValue (fuel + 1) depth (skipBlanks cs) = readValue (fuel + 1) depth cs := by
  unfold readValue
  rw [skipBlanks_idempotent]

/-- A plain value is not what a tag should be. -/
theorem faultOf_skipBlanks {j : Json} (reads : readValue 1 0 cs = some (j, rest)) :
    faultOf (skipBlanks cs) = .mismatch := by
  unfold faultOf
  split
  · rfl
  · rfl
  · rw [readValue_skipBlanks, reads]
    rfl

/-- The value where a tag should stand is one if it is a text. -/
theorem readTag_eq {fuel depth : Nat} {j : Json} (h : readValue fuel depth cs = some (j, rest)) :
    readTag cs =
      match j with
      | .string text => .ok (text, rest)
      | _ => .error .mismatch := by
  cases fuel with
  | zero => cases h
  | succ fuel =>
    unfold readTag
    cases shape_of_readValue h with
    | plain kind noQuote reads shorter =>
      split
      · exact absurd ‹_› (noQuote _)
      · rw [faultOf_skipBlanks (reads 0 0)]
        cases j with
        | string text => cases kind
        | _ => rfl
    | string opens reads =>
      rw [opens]
      split
      · rename_i inner same
        rw [← (List.cons.inj same).2, reads]
      · rename_i noQuote
        exact absurd rfl (noQuote _)
    | emptyArray opens closes =>
      rw [opens]
      rfl
    | array opens goesOn reads =>
      rw [opens]
      rfl
    | emptyObject opens closes =>
      rw [opens]
      rfl
    | object opens goesOn reads =>
      rw [opens]
      rfl

/-- What is gathered before the rest of the text. -/
def gathered (rest : List Char) (r : ReadResult (Option String × List (String × Json))) :
    ReadResult Members := r.map fun g => ⟨g.1, g.2, rest⟩

/-- Reading on the way gathers what the reader finds. -/
theorem readMembers_eq {fuel steps : Nat}
    (h : Json.readMembers fuel innerDepth cs = some (members, rest)) (enough : cs.length ≤ steps) :
    readMembers steps tag others cs = gathered rest (gather tag others members) := by
  induction fuel generalizing steps tag others cs members with
  | zero => cases h
  | succ fuel ih =>
    obtain ⟨key, start, j, tail, name, value, following⟩ := readMembers_eq_some_iff.1 h
    have named := length_readKey name
    have taken := (fueled_value value).shorter
    obtain ⟨steps, rfl⟩ : ∃ less, steps = less + 1 := ⟨steps - 1, by omega⟩
    obtain ⟨afterName, read, colon⟩ := readKey_eq_some name
    -- After the member either the object ends or the next one follows.
    have goesOn : ∀ tag others', readMembers.next steps tag others' tail =
        gathered rest (gather tag others' (members.drop 1)) := by
      intro tag others'
      unfold readMembers.next
      rcases following with ⟨closes, rfl⟩ | ⟨tail', later, comma, reads, rfl⟩
      · rw [closes]
        rfl
      · rw [comma]
        have taken' := length_readComma comma
        exact ih reads (by omega)
    obtain ⟨later, rfl⟩ : ∃ later, members = (key, j) :: later := by
      rcases following with ⟨-, rfl⟩ | ⟨_, later, -, -, rfl⟩
      · exact ⟨[], rfl⟩
      · exact ⟨later, rfl⟩
    unfold readMembers
    rw [read]
    dsimp only
    by_cases isTag : key = tagKey
    · subst isTag
      rw [if_pos rfl, gather_tag]
      cases tag with
      | some text => rfl
      | none =>
        rw [Option.isSome_none, if_neg Bool.false_ne_true, colon]
        dsimp only
        rw [readTag_eq value]
        cases j with
        | string text => exact goesOn (some text) others
        | _ => rfl
    · rw [if_neg isTag, gather_other isTag, colon, Option.bind_some, readValue_fuelFor value]
      exact goesOn tag ((key, j) :: others)

/-! ### Objects without repeated keys -/

theorem gather_of_absent (others : List (String × Json))
    (absent : tagKey ∉ Dict.keys members) :
    gather tag others members = .ok (tag, others.reverse ++ members) := by
  induction members generalizing others with
  | nil =>
    rw [List.append_nil]
    rfl
  | cons m later ih =>
    obtain ⟨key, j⟩ := m
    have other : key ≠ tagKey := fun same => absent (List.mem_cons.2 (.inl same.symm))
    rw [gather_other other, ih _ fun mem => absent (List.mem_cons_of_mem _ mem),
      List.reverse_cons, List.append_assoc]
    rfl

/-- Where no key is repeated, the tag is what stands under its key. -/
theorem gather_none (others : List (String × Json)) (once : (Dict.keys members).Nodup) :
    gather none others members =
      match Dict.find? members tagKey with
      | none => .ok (none, others.reverse ++ members)
      | some (.string text) => .ok (some text, others.reverse ++ Dict.erase members tagKey)
      | some _ => .error .mismatch := by
  induction members generalizing others with
  | nil =>
    rw [List.append_nil]
    rfl
  | cons m later ih =>
    obtain ⟨key, j⟩ := m
    obtain ⟨absent, once⟩ := List.nodup_cons.1 once
    rw [Dict.find?_cons]
    by_cases isTag : key = tagKey
    · subst isTag
      rw [gather_tag, if_pos rfl]
      cases j with
      | string text =>
        rw [Dict.erase_cons_self, Dict.erase_of_absent absent]
        exact gather_of_absent others absent
      | _ => rfl
    · rw [gather_other isTag, if_neg isTag, ih _ once, Dict.erase_cons_other isTag,
        List.reverse_cons, List.append_assoc, List.append_assoc]
      rfl

theorem ofJson_object (members : List (String × Json)) :
    ofJson (.object members) =
      match Dict.find? members tagKey with
      | some (.string text) => .ok ⟨text, .object (Dict.erase members tagKey)⟩
      | _ => .error .mismatch := rfl

/-- The tagged document of an object's members. -/
def ofMembers (m : Members) : ReadResult (Tagged × List Char) :=
  match m.tag with
  | some tag => .ok (⟨tag, .object m.others⟩, m.rest)
  | none => .error .mismatch

theorem read_of_closed {tail : List Char} (opens : skipBlanks cs = '\x7b' :: tail)
    (closes : skipBlanks tail = '\x7d' :: rest) : read cs = .error .mismatch := by
  unfold read
  rw [opens]
  split
  · rename_i inner same
    obtain rfl : tail = inner := (List.cons.inj same).2
    rw [closes]
    rfl
  · rename_i bracket
    exact absurd (List.cons.inj bracket).1 (by decide)
  · rename_i noBrace noBracket
    exact absurd rfl (noBrace tail)

theorem read_of_open {tail : List Char} (opens : skipBlanks cs = '\x7b' :: tail)
    (goesOn : ∀ rest, skipBlanks tail ≠ '\x7d' :: rest) :
    read cs = readMembers (skipBlanks tail).length none [] (skipBlanks tail) >>= ofMembers := by
  unfold read
  rw [opens]
  split
  · rename_i inner same
    obtain rfl : tail = inner := (List.cons.inj same).2
    split
    · exact absurd ‹_› (goesOn _)
    · rfl
  · rename_i bracket
    exact absurd (List.cons.inj bracket).1 (by decide)
  · rename_i noBrace noBracket
    exact absurd rfl (noBrace tail)

/-- An object without repeated keys is the tagged document that is found when
the whole object has been read, wherever its tag stands. -/
theorem read_object {fuel : Nat}
    (h : readValue fuel Json.deepest cs = some (.object members, rest))
    (once : (Dict.keys members).Nodup) :
    read cs = (ofJson (.object members)).map (·, rest) := by
  cases fuel with
  | zero => cases h
  | succ fuel =>
    -- The reader of tagged documents counts the outermost object as one level too.
    cases (shape_of_readValue h : Json.Shape fuel cs (innerDepth + 1) (.object members) rest) with
    | plain kind noQuote reads shorter => cases kind
    | emptyObject opens closes => exact read_of_closed opens closes
    | object opens goesOn reads =>
      rw [read_of_open opens goesOn, readMembers_eq reads (Nat.le_refl _), gather_none [] once,
        ofJson_object]
      cases Dict.find? members tagKey with
      | none => rfl
      | some j => cases j <;> rfl

/-- A whole text that is an object without repeated keys is read on the way to
its end. -/
theorem read_of_read? (h : Json.read? cs = some (.object members))
    (once : (Dict.keys members).Nodup) :
    ∃ rest, Json.atEnd rest = true ∧ read cs = (ofJson (.object members)).map (·, rest) := by
  obtain ⟨rest, reads, ended⟩ := Json.read?_eq_some_iff.1 h
  exact ⟨rest, ended, read_object reads once⟩

end Tagged

end HubAutomation
