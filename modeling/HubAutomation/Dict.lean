/-!
# Dictionaries in key order

A dictionary is a list of pairs whose keys grow strictly by code point. One
content has one list, so dictionaries can be compared and printed pair by pair.

- `Dict α`: pairs of a key and a value.
- `Dict.Sorted`: what `insert` and `erase` keep.
- `Dict.insert`: set the value of a key.
-/

namespace HubAutomation

/-- Pairs of a key and a value. -/
abbrev Dict (α : Type) := List (String × α)

namespace Dict

variable {α β : Type}

/-- The keys grow strictly, so that none occurs twice. -/
def Sorted (d : Dict α) : Prop := d.Pairwise fun p q => p.1 < q.1

/-- The value of a key. -/
def find? (d : Dict α) (key : String) : Option α :=
  match d with
  | [] => none
  | (k, v) :: rest => if k = key then some v else find? rest key

/-- Set the value of a key. -/
def insert (d : Dict α) (key : String) (value : α) : Dict α :=
  match d with
  | [] => [(key, value)]
  | (k, v) :: rest =>
    if key < k then (key, value) :: (k, v) :: rest
    else if key = k then (key, value) :: rest
    else (k, v) :: insert rest key value

/-- Remove a key. -/
def erase (d : Dict α) (key : String) : Dict α := d.filter fun p => p.1 ≠ key

/-- The dictionary of some pairs; of two with the same key the later one counts. -/
def ofList (pairs : List (String × α)) : Dict α :=
  pairs.foldl (fun d p => d.insert p.1 p.2) []

/-- Set every pair of the second dictionary in the first. -/
def extend (d extra : Dict α) : Dict α :=
  extra.foldl (fun d p => d.insert p.1 p.2) d

def keys (d : Dict α) : List String := d.map Prod.fst

def mem (d : Dict α) (key : String) : Bool := (d.find? key).isSome

@[simp] theorem find?_nil (key : String) : find? ([] : Dict α) key = none := rfl

@[simp] theorem find?_insert_self (d : Dict α) (key : String) (value : α) :
    (d.insert key value).find? key = some value := by
  induction d with
  | nil => simp [insert, find?]
  | cons p rest ih =>
    obtain ⟨k, v⟩ := p
    by_cases hlt : key < k
    · simp [insert, hlt, find?]
    · by_cases heq : key = k
      · simp [insert, heq, find?]
      · have hne : ¬ k = key := fun h => heq h.symm
        simpa [insert, hlt, heq, find?, hne] using ih

theorem find?_insert_other (d : Dict α) {key other : String} (value : α) (h : other ≠ key) :
    (d.insert key value).find? other = d.find? other := by
  have hk : ¬ key = other := fun e => h e.symm
  induction d with
  | nil => simp [insert, find?, hk]
  | cons p rest ih =>
    obtain ⟨k, v⟩ := p
    by_cases hlt : key < k
    · simp [insert, hlt, find?, hk]
    · by_cases heq : key = k
      · subst heq
        simp [insert, find?, hk]
      · simp only [insert, hlt, heq, if_false, find?]
        rw [ih]

theorem find?_insert (d : Dict α) (key : String) (value : α) (other : String) :
    (d.insert key value).find? other = if other = key then some value else d.find? other := by
  split
  · rw [‹other = key›, find?_insert_self]
  · rw [find?_insert_other _ _ ‹_›]

@[simp] theorem find?_erase_self (d : Dict α) (key : String) : (d.erase key).find? key = none := by
  induction d with
  | nil => rfl
  | cons p rest ih =>
    obtain ⟨k, v⟩ := p
    by_cases heq : k = key
    · simpa [erase, heq] using ih
    · simpa [erase, heq, find?] using ih

theorem find?_erase_other (d : Dict α) {key other : String} (h : other ≠ key) :
    (d.erase key).find? other = d.find? other := by
  induction d with
  | nil => rfl
  | cons p rest ih =>
    obtain ⟨k, v⟩ := p
    by_cases heq : k = key
    · have hne : ¬ key = other := fun e => h e.symm
      simpa [erase, heq, find?, hne] using ih
    · by_cases ho : k = other
      · simp [erase, find?, ho, h]
      · simpa [erase, heq, find?, ho] using ih

theorem find?_erase (d : Dict α) (key other : String) :
    (d.erase key).find? other = if other = key then none else d.find? other := by
  split
  · rw [‹other = key›, find?_erase_self]
  · rw [find?_erase_other _ ‹_›]

end Dict

end HubAutomation
