import HubAutomation.Json.Record
import Mathlib.Data.List.Infix

/-!
# The texts of entity ids

The texts that are entity ids form a small language: two words with a point
between them. Words have no point in them, so a text can be taken apart in one
way only, and the two ways to an id, from its words and from its text, accept
the same.

- `EntityId.IsWord`, `EntityId.IsDomain`: the words as a grammar.
- `EntityId.parse_ok_iff`: an id is read from its text and from no other.
- `EntityId.text_eq_iff`: the words of an id can be read off its text.
- `EntityId.reads_its_grammar`: what is read, made and printed.
-/

namespace HubAutomation

/-- The first separator ends the first part. -/
theorem split_at_first {α : Type} {z : α} {p q x y : List α} (hp : z ∉ p) (hq : z ∉ q)
    (h : p ++ z :: x = q ++ z :: y) : p = q ∧ x = y := by
  induction p generalizing q with
  | nil =>
    cases q with
    | nil => exact ⟨rfl, (List.cons.inj h).2⟩
    | cons b q => exact absurd ((List.cons.inj h).1 ▸ List.mem_cons_self) hq
  | cons a p ih =>
    cases q with
    | nil => exact absurd ((List.cons.inj h).1 ▸ List.mem_cons_self) hp
    | cons b q =>
      obtain ⟨rfl, rest⟩ := List.cons.inj h
      obtain ⟨rfl, rfl⟩ :=
        ih (List.not_mem_of_not_mem_cons hp) (List.not_mem_of_not_mem_cons hq) rest
      exact ⟨rfl, rfl⟩

namespace EntityId

variable {c : Char} {cs : List Char} {s d o : String} {id : EntityId}

/-! ### Words -/

/-- A word over lower-case ASCII letters, digits and underscores, with no
underscore at either end. -/
structure IsWord (s : String) : Prop where
  nonempty : s ≠ ""
  chars : ∀ c ∈ s.toList, ('a' ≤ c ∧ c ≤ 'z') ∨ ('0' ≤ c ∧ c ≤ '9') ∨ c = '_'
  start : ∀ rest, s ≠ "_" ++ rest
  finish : ∀ front, s ≠ front ++ "_"

/-- A word without two underscores in a row. -/
structure IsDomain (s : String) : Prop extends IsWord s where
  single : ∀ front rest, s ≠ front ++ "__" ++ rest

theorem isWordChar_iff :
    isWordChar c = true ↔ ('a' ≤ c ∧ c ≤ 'z') ∨ ('0' ≤ c ∧ c ≤ '9') ∨ c = '_' := by
  have within : ∀ low high : Char,
      (decide (low.val ≤ c.val) && decide (c.val ≤ high.val)) = true ↔ low ≤ c ∧ c ≤ high := by
    intro low high
    rw [Bool.and_eq_true, decide_eq_true_iff, decide_eq_true_iff]
    rfl
  have lower : c.isLower = true ↔ 'a' ≤ c ∧ c ≤ 'z' := within 'a' 'z'
  have digit : c.isDigit = true ↔ '0' ≤ c ∧ c ≤ '9' := within '0' '9'
  unfold isWordChar
  rw [Bool.or_eq_true, Bool.or_eq_true, beq_iff_eq, or_assoc, lower, digit]

theorem eq_append_iff {front rest : String} :
    s = front ++ rest ↔ s.toList = front.toList ++ rest.toList := by
  rw [← String.toList_append, String.toList_inj]

theorem head?_eq_iff : s.toList.head? = some c ↔ ∃ rest, s = String.singleton c ++ rest := by
  constructor
  · intro h
    obtain ⟨cs, chars⟩ := List.head?_eq_some_iff.1 h
    refine ⟨String.ofList cs, eq_append_iff.2 ?_⟩
    rw [chars, String.toList_ofList]
    simp
  · rintro ⟨rest, rfl⟩
    simp

theorem getLast?_eq_iff :
    s.toList.getLast? = some c ↔ ∃ front, s = front ++ String.singleton c := by
  constructor
  · intro h
    obtain ⟨cs, chars⟩ := List.getLast?_eq_some_iff.1 h
    refine ⟨String.ofList cs, eq_append_iff.2 ?_⟩
    rw [chars, String.toList_ofList]
    simp
  · rintro ⟨front, rfl⟩
    simp

theorem hasDoubledUnderscore_iff : hasDoubledUnderscore cs = true ↔ ['_', '_'] <:+: cs := by
  fun_induction hasDoubledUnderscore cs with
  | case1 rest =>
    have here : ['_', '_'] <:+: '_' :: '_' :: rest := ⟨[], rest, rfl⟩
    simp [here]
  | case2 c rest other ih =>
    have notHere : ¬ ['_', '_'] <+: c :: rest := by
      rintro ⟨tail, chars⟩
      obtain ⟨rfl, rfl⟩ := List.cons.inj chars
      exact other tail rfl rfl
    rw [ih, List.infix_cons_iff, or_iff_right notHere]
  | case3 => simp

theorem infix_underscores_iff :
    ['_', '_'] <:+: s.toList ↔ ∃ front rest, s = front ++ "__" ++ rest := by
  constructor
  · rintro ⟨front, rest, chars⟩
    refine ⟨String.ofList front, String.ofList rest, String.toList_inj.1 ?_⟩
    rw [← chars]
    simp
  · rintro ⟨front, rest, rfl⟩
    exact ⟨front.toList, rest.toList, by simp⟩

theorem isSlug_iff : isSlug s.toList = true ↔
    (∀ rest, s ≠ "_" ++ rest) ∧ (∀ front, s ≠ front ++ "_") ∧
      ∀ c ∈ s.toList, ('a' ≤ c ∧ c ≤ 'z') ∨ ('0' ≤ c ∧ c ≤ '9') ∨ c = '_' := by
  unfold isSlug
  rw [Bool.and_eq_true, Bool.and_eq_true, bne_iff_ne, bne_iff_ne, Ne, Ne, head?_eq_iff,
    getLast?_eq_iff, List.all_eq_true, and_assoc, not_exists, not_exists]
  simp only [isWordChar_iff]
  rfl

theorem isObjectId_iff : isObjectId s = true ↔ IsWord s := by
  unfold isObjectId
  rw [Bool.and_eq_true, Bool.not_eq_true', List.isEmpty_eq_false_iff, isSlug_iff]
  constructor
  · rintro ⟨nonempty, start, finish, chars⟩
    exact ⟨fun none_ => nonempty (by rw [none_]; rfl), chars, start, finish⟩
  · rintro ⟨nonempty, chars, start, finish⟩
    exact ⟨fun none_ => nonempty (String.toList_eq_nil_iff.1 none_), start, finish, chars⟩

theorem isDomain_iff : isDomain s = true ↔ IsDomain s := by
  have parts : isDomain s = (!hasDoubledUnderscore s.toList && isObjectId s) := by
    unfold isDomain isObjectId
    rw [Bool.and_comm (!s.toList.isEmpty), Bool.and_assoc]
  rw [parts, Bool.and_eq_true, Bool.not_eq_true', isObjectId_iff, Bool.eq_false_iff, Ne,
    hasDoubledUnderscore_iff, infix_underscores_iff]
  constructor
  · rintro ⟨single, word⟩
    exact ⟨word, fun front rest doubled => single ⟨front, rest, doubled⟩⟩
  · rintro ⟨word, single⟩
    exact ⟨fun ⟨front, rest, doubled⟩ => single front rest doubled, word⟩

theorem IsWord.no_point (word : IsWord s) : '.' ∉ s.toList := by
  intro point
  exact absurd (word.chars '.' point) (by decide)

/-! ### Ids and their texts -/

theorem isWord_objectId (id : EntityId) : IsWord id.objectId := isObjectId_iff.1 id.objectId_ok

theorem isDomain_domain (id : EntityId) : IsDomain id.domain := isDomain_iff.1 id.domain_ok

theorem toList_text (id : EntityId) :
    id.text.toList = id.domain.toList ++ '.' :: id.objectId.toList := by
  simp [text]

/-- An id has one point, so what stands before a point in its text is its
domain. -/
theorem text_eq_iff : id.text = d ++ "." ++ o ↔ id.domain = d ∧ id.objectId = o := by
  constructor
  · intro h
    have noPoint := id.isDomain_domain.no_point
    have noPoint' := id.isWord_objectId.no_point
    have chars : id.domain.toList ++ '.' :: id.objectId.toList = d.toList ++ '.' :: o.toList := by
      rw [← toList_text, h]
      simp
    -- `d` is any text so far; the one point is accounted for, so it has none.
    have points := congrArg (List.count '.') chars
    have noPointBefore : '.' ∉ d.toList := by
      simp only [List.count_append, List.count_cons_self, List.count_eq_zero.2 noPoint,
        List.count_eq_zero.2 noPoint'] at points
      exact List.count_eq_zero.1 (by omega)
    obtain ⟨domains, objects⟩ := split_at_first noPoint noPointBefore chars
    exact ⟨String.toList_inj.1 domains, String.toList_inj.1 objects⟩
  · rintro ⟨rfl, rfl⟩
    rfl

theorem text_injective {a b : EntityId} (h : a.text = b.text) : a = b := by
  obtain ⟨domains, objects⟩ := text_eq_iff.1 h
  cases a
  cases b
  cases domains
  cases objects
  rfl

theorem make_ok_iff : make d o = .ok id ↔ id.domain = d ∧ id.objectId = o := by
  constructor
  · intro made
    unfold make at made
    split_ifs at made
    cases made
    exact ⟨rfl, rfl⟩
  · rintro ⟨rfl, rfl⟩
    have someDomain : ¬ id.domain.toList.isEmpty := by
      rw [List.isEmpty_iff, String.toList_eq_nil_iff]
      exact id.isDomain_domain.nonempty
    have someObjectId : ¬ id.objectId.toList.isEmpty := by
      rw [List.isEmpty_iff, String.toList_eq_nil_iff]
      exact id.isWord_objectId.nonempty
    unfold make
    rw [if_neg someDomain, if_neg someObjectId, dif_pos id.domain_ok, dif_pos id.objectId_ok]

/-- An id is read from its text. -/
theorem parse_text (id : EntityId) : parse id.text = .ok id := by
  have before : ∀ c ∈ id.domain.toList, decide (c ≠ '.') = true := by
    intro c mem
    exact decide_eq_true fun point => id.isDomain_domain.no_point (point ▸ mem)
  have after : id.objectId.toList.contains '.' = false := by
    refine Bool.eq_false_iff.2 fun point => ?_
    exact id.isWord_objectId.no_point (List.contains_iff_mem.1 point)
  have split : id.text.toList.dropWhile (· ≠ '.') = '.' :: id.objectId.toList := by
    rw [toList_text, List.dropWhile_append_of_pos before]
    rfl
  have front : id.text.toList.takeWhile (· ≠ '.') = id.domain.toList := by
    rw [toList_text, List.takeWhile_append_of_pos before]
    exact List.append_nil _
  unfold parse parseChars
  rw [split, front]
  show (if id.objectId.toList.contains '.' then _ else _) = _
  rw [after, String.ofList_toList, String.ofList_toList]
  exact make_ok_iff.2 ⟨rfl, rfl⟩

/-- What stands before the first point and what stands after it make the id. -/
theorem parse_ok_iff : parse s = .ok id ↔ id.text = s := by
  constructor
  · intro read
    unfold parse parseChars at read
    split at read
    · cases read
    · rename_i c rest point
      split at read
      · cases read
      · have stops := List.head?_dropWhile_not (· ≠ '.') s.toList
        rw [point] at stops
        obtain rfl : c = '.' := by simpa using stops
        obtain ⟨domain, objectId⟩ := make_ok_iff.1 read
        refine String.toList_inj.1 ?_
        rw [toList_text, domain, objectId, String.toList_ofList, String.toList_ofList, ← point,
          List.takeWhile_append_dropWhile]
  · rintro rfl
    exact parse_text id

/-- The documents that are read as ids are the strings that are. -/
theorem asEntityId_ok_iff {j : Json} :
    Json.asEntityId j = .ok id ↔ ∃ s, j = .string s ∧ parse s = .ok id := by
  constructor
  · intro read
    cases j with
    | string s =>
      refine ⟨s, rfl, ?_⟩
      unfold Json.asEntityId at read
      dsimp only at read
      split at read
      · rename_i found
        rw [found, Except.ok.inj read]
      · cases read
    | _ => cases read
  · rintro ⟨s, rfl, read⟩
    unfold Json.asEntityId
    dsimp only
    rw [read]

/-- A text is read exactly if it is a domain and a word with a point between
them; they are the words of the id, and the id has the text. Words make an id
exactly if the text with a point between them is read, the same one. Ids with
the same text are the same, and the documents that are read as ids are the
strings that are. -/
theorem reads_its_grammar :
    (∀ s d o, (∃ id, parse s = .ok id ∧ id.domain = d ∧ id.objectId = o) ↔
      s = d ++ "." ++ o ∧ IsDomain d ∧ IsWord o) ∧
    (∀ s id, parse s = .ok id ↔ id.text = s) ∧
    (∀ d o id, make d o = .ok id ↔ parse (d ++ "." ++ o) = .ok id) ∧
    (∀ a b : EntityId, a.text = b.text ↔ a = b) ∧
    ∀ j id, Json.asEntityId j = .ok id ↔ ∃ s, j = .string s ∧ parse s = .ok id := by
  refine ⟨fun s d o => ⟨?_, ?_⟩, fun _ _ => parse_ok_iff, ?_, ?_, fun _ _ => asEntityId_ok_iff⟩
  · rintro ⟨id, read, rfl, rfl⟩
    exact ⟨(parse_ok_iff.1 read).symm, id.isDomain_domain, id.isWord_objectId⟩
  · rintro ⟨rfl, domain, word⟩
    let id : EntityId := ⟨d, o, isDomain_iff.2 domain, isObjectId_iff.2 word⟩
    exact ⟨id, id.parse_text, rfl, rfl⟩
  · intro d o id
    rw [make_ok_iff, parse_ok_iff, text_eq_iff]
  · intro a b
    constructor
    · exact text_injective
    · rintro rfl
      rfl

/-- Two underscores in a row are for object ids only. -/
example : isValid "light.kitchen__ceiling" = true ∧ isValid "my__light.kitchen" = false ∧
    isValid "light.kitchen.ceiling" = false := by decide

end EntityId

end HubAutomation
