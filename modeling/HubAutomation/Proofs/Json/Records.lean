import HubAutomation.Json.Record
import HubAutomation.Proofs.Json.CanonicalDocuments
import Mathlib.Data.List.Nodup

/-!
# Records of objects

In an object without repeated keys every field of a record is what stands under
its name; the order of the members and members of other names do not matter.

- `Record.ofJson_object`: the record of an object.
- `Record.required_of_find?` and the like: a field that is there, or is not.
- `Record.read_of_required` and the like: what a field gave was read.
- `MismatchOnly`: readings that fail in one way, so that it does not matter what
  they try first.
-/

namespace HubAutomation

namespace Record

variable {members : List (String × Json)} {α : Type} {name : String} {j : Json}
  {read : Json → ReadResult α}

/-- A key that occurs once is not repeated. -/
theorem occurrences_le_one (once : (Dict.keys members).Nodup) (name : String) :
    occurrences members name ≤ 1 := by
  have counted : occurrences members name = (Dict.keys members).countP (· == name) := by
    unfold occurrences Dict.keys
    rw [List.countP_map]
    rfl
  rw [counted]
  exact List.nodup_iff_count_le_one.1 once name

/-- The record of an object without repeated keys. -/
theorem ofJson_object (names : List String) (once : (Dict.keys members).Nodup) :
    ofJson names (.object members) = .ok ⟨true, members⟩ := by
  refine if_neg fun repeated => ?_
  obtain ⟨name, -, often⟩ := List.any_eq_true.1 repeated
  exact absurd (occurrences_le_one once name) (Nat.not_le.2 (of_decide_eq_true often))

/-! ### Fields by their name -/

/-- A field that has to be there is read from what stands under its name. -/
theorem required_of_find? {keyed : Bool} (found : Dict.find? members name = some j) :
    (Record.mk keyed members).required name read = read j := by
  unfold required field?
  rw [found]

/-- A field that may be missing is read if it is there. -/
theorem optional_of_find? {keyed : Bool} (found : Dict.find? members name = some j) :
    (Record.mk keyed members).optional name read = (read j).map some := by
  unfold optional field?
  rw [found]

/-- A field whose document is read gives what was read. -/
theorem required_of_read {keyed : Bool} {a : α} (found : Dict.find? members name = some j)
    (reads : read j = .ok a) : (Record.mk keyed members).required name read = .ok a := by
  rw [required_of_find? found, reads]

theorem optional_of_read {keyed : Bool} {a : α} (found : Dict.find? members name = some j)
    (reads : read j = .ok a) : (Record.mk keyed members).optional name read = .ok (some a) := by
  rw [optional_of_find? found, reads]
  rfl

/-- A field that may be null is read if it is something else. -/
theorem nullable_of_find? {keyed : Bool} (found : Dict.find? members name = some j)
    (there : j ≠ .null) :
    (Record.mk keyed members).nullable name read = (read j).map some := by
  unfold nullable field?
  rw [found]
  cases j with
  | null => exact absurd rfl there
  | _ => rfl

theorem nullable_of_null {keyed : Bool} (null : Dict.find? members name = some .null) :
    (Record.mk keyed members).nullable name read = .ok none := by
  unfold nullable field?
  rw [null]

theorem nullable_of_absent {keyed : Bool} (absent : Dict.find? members name = none) :
    (Record.mk keyed members).nullable name read = .ok none := by
  unfold nullable field?
  rw [absent]

/-- What was read of something came from a value. -/
theorem read_of_map {o : Option α} (h : (read j).map some = .ok o) :
    ∀ a ∈ o, ∃ j, read j = .ok a := by
  intro a mem
  cases reads : read j with
  | error e =>
    rw [reads] at h
    cases h
  | ok b =>
    rw [reads] at h
    cases h
    cases mem
    exact ⟨j, reads⟩

/-- What a field gives was read from a document. -/
theorem read_of_required {r : Record} {a : α} (h : r.required name read = .ok a) :
    ∃ j, read j = .ok a := by
  unfold required at h
  split at h
  · exact ⟨_, h⟩
  · cases h

/-- What was read of a field that may be missing came from a value. -/
theorem read_of_optional {r : Record} {o : Option α} (h : r.optional name read = .ok o) :
    ∀ a ∈ o, ∃ j, read j = .ok a := by
  unfold optional at h
  split at h
  · exact read_of_map h
  · cases h
    nofun

/-- What was read of a field that may be null came from a value. -/
theorem read_of_nullable {r : Record} {o : Option α} (h : r.nullable name read = .ok o) :
    ∀ a ∈ o, ∃ j, read j = .ok a := by
  unfold nullable at h
  split at h
  · cases h
    nofun
  · exact read_of_map h
  · cases h
    nofun

/-- An optional part is read from its document or from `null`. -/
theorem nullable_ofOption {f : α → Json} (there : ∀ a, f a ≠ .null) {o : Option α}
    (reads : ∀ a ∈ o, read (f a) = .ok a)
    (found : Dict.find? members name = some (.ofOption f o)) :
    (Record.mk true members).nullable name read = .ok o := by
  cases o with
  | none => exact nullable_of_null found
  | some a =>
    rw [nullable_of_find? found (there a)]
    exact congrArg (Except.map some) (reads a rfl)

end Record

namespace Json

/-- A number that fits is read as it is. -/
theorem asNat_nat {n : Nat} (fits : n < UInt64.size) : (nat n).asNat = .ok n := by
  have within : (0 : Int) ≤ n ∧ (n : Int) ≤ UInt64.size - 1 := by omega
  show (if (0 : Int) ≤ n ∧ (n : Int) ≤ UInt64.size - 1 then (Except.ok (n : Int) : ReadResult Int)
    else .error .mismatch).map Int.toNat = .ok n
  rw [if_pos within]
  rfl

theorem asValue_of_isCanonical {j : Json} (canonical : j.IsCanonical) : j.asValue = .ok j :=
  congrArg Except.ok canonical

theorem asDict_of_isCanonical {d : Dict Json} (canonical : (object d).IsCanonical) :
    asDict (object d) = .ok d :=
  congrArg Except.ok (object.inj canonical)

/-- A dictionary that was read is in canonical form. -/
theorem isCanonical_of_asDict {j : Json} {d : Dict Json} (read : j.asDict = .ok d) :
    (object d).IsCanonical := by
  cases j with
  | object members =>
    rw [← Except.ok.inj read]
    exact isCanonical_canonical (.object members)
  | _ => cases read

end Json

/-! ### Steps of a reading -/

/-- What a reading gave in two steps, the first one gave something for the second. -/
theorem ReadResult.bind_eq_ok {α β : Type} {x : ReadResult α} {k : α → ReadResult β} {b : β}
    (h : x >>= k = .ok b) : ∃ a, x = .ok a ∧ k a = .ok b := by
  cases x with
  | error e => cases h
  | ok a => exact ⟨a, rfl, h⟩

/-- What was tried before a reading that gave something does not count. -/
theorem ReadResult.of_tried_first {α β γ : Type} {keyed : Bool} {x : ReadResult α}
    {y : ReadResult β} {z : ReadResult γ} {c : γ}
    (h : (if keyed then x >>= fun _ => y >>= fun _ => z else z) = .ok c) : z = .ok c := by
  split at h
  · obtain ⟨_, -, h⟩ := bind_eq_ok h
    obtain ⟨_, -, h⟩ := bind_eq_ok h
    exact h
  · exact h

/-! ### Readings that find nothing but mismatches -/

/-- The reading gives a value or finds a mismatch. -/
inductive MismatchOnly {α : Type} : ReadResult α → Prop where
  | ok (a : α) : MismatchOnly (.ok a)
  | mismatch : MismatchOnly (.error .mismatch)

namespace MismatchOnly

variable {α β : Type} {x : ReadResult α} {k : α → ReadResult β}

/-- Two readings in a row report mismatches only if each of them does. -/
theorem bind (tried : MismatchOnly x) (next : ∀ a, MismatchOnly (k a)) :
    MismatchOnly (x >>= k) := by
  cases tried with
  | ok a => exact next a
  | mismatch => exact .mismatch

/-- A reading after which everything fails fails. -/
theorem bind_mismatch (tried : MismatchOnly x) (fails : ∀ a, k a = .error .mismatch) :
    x >>= k = .error .mismatch := by
  cases tried with
  | ok a => exact fails a
  | mismatch => rfl

theorem map (f : α → β) (tried : MismatchOnly x) : MismatchOnly (x.map f) := by
  cases tried with
  | ok a => exact .ok (f a)
  | mismatch => exact .mismatch

/-- To try first what a reading needs later changes nothing. -/
theorem early {y : ReadResult β} (tried : MismatchOnly x)
    (needed : x = .error .mismatch → y = .error .mismatch) : (x >>= fun _ => y) = y := by
  cases tried with
  | ok a => rfl
  | mismatch => exact (needed rfl).symm

variable {name : String} {read : Json → ReadResult α}

/-- To take a record apart reports mismatches only. -/
theorem record (names : List String) (j : Json) : MismatchOnly (Record.ofJson names j) := by
  unfold Record.ofJson
  split
  · split
    · exact .mismatch
    · exact .ok _
  · split
    · exact .mismatch
    · exact .ok _
  · exact .mismatch

theorem required (r : Record) (reads : ∀ j, MismatchOnly (read j)) :
    MismatchOnly (r.required name read) := by
  unfold Record.required
  split
  · exact reads _
  · exact .mismatch

theorem optional (r : Record) (reads : ∀ j, MismatchOnly (read j)) :
    MismatchOnly (r.optional name read) := by
  unfold Record.optional
  split
  · exact (reads _).map some
  · exact .ok none

theorem nullable (r : Record) (reads : ∀ j, MismatchOnly (read j)) :
    MismatchOnly (r.nullable name read) := by
  unfold Record.nullable
  split
  · exact .ok none
  · exact (reads _).map some
  · exact .ok none

theorem asString (j : Json) : MismatchOnly j.asString := by
  cases j with
  | string s => exact .ok s
  | _ => exact .mismatch

end MismatchOnly

end HubAutomation
