import HubAutomation.Json.Basic
import Mathlib.Data.List.Induction

/-!
# Canonical documents

A dictionary stays in the order of its keys, and so it is put together again
from its own pairs. A document is canonical if it is its own canonical form;
that holds of an object as soon as its keys grow and its values are canonical.

- `Dict.sorted_ofList`: the dictionary of any pairs is in order.
- `Dict.ofList_of_sorted`: pairs that are in order are a dictionary.
- `Dict.find?_ofList`: where no key is repeated, each key keeps its value.
- `Dict.find?_extend`: of two dictionaries put together, the second one wins.
- `Json.IsCanonical`: documents that are their own canonical form.
- `Json.isCanonical_canonical`: a canonical form is one.
-/

namespace HubAutomation

namespace Dict

variable {α : Type} {d : Dict α}

/-! ### Keys in order -/

/-- What stands in a dictionary after an insertion is new or was there before. -/
theorem eq_or_mem_of_mem_insert {key : String} {value : α} {p : String × α}
    (h : p ∈ d.insert key value) : p = (key, value) ∨ p ∈ d := by
  induction d with
  | nil => exact .inl (List.mem_singleton.1 h)
  | cons q rest ih =>
    obtain ⟨k, v⟩ := q
    unfold insert at h
    split at h
    · exact List.mem_cons.1 h
    · split at h
      · rcases List.mem_cons.1 h with new | old
        · exact .inl new
        · exact .inr (List.mem_cons_of_mem _ old)
      · rcases List.mem_cons.1 h with first | later
        · exact .inr (List.mem_cons.2 (.inl first))
        · rcases ih later with new | old
          · exact .inl new
          · exact .inr (List.mem_cons_of_mem _ old)

/-- One more pair leaves a dictionary in order. -/
theorem Sorted.insert (sorted : d.Sorted) (key : String) (value : α) :
    (d.insert key value).Sorted := by
  induction d with
  | nil => exact List.pairwise_singleton _ _
  | cons q rest ih =>
    obtain ⟨k, v⟩ := q
    obtain ⟨first, others⟩ := List.pairwise_cons.1 sorted
    unfold Dict.insert
    split
    · rename_i before
      refine List.pairwise_cons.2 ⟨?_, sorted⟩
      intro p mem
      rcases List.mem_cons.1 mem with rfl | later
      · exact before
      · exact String.lt_trans before (first p later)
    · rename_i notBefore
      split
      · rename_i same
        rw [same]
        exact List.pairwise_cons.2 ⟨first, others⟩
      · rename_i other
        refine List.pairwise_cons.2 ⟨?_, ih others⟩
        intro p mem
        rcases eq_or_mem_of_mem_insert mem with rfl | old
        · exact Std.lt_of_le_of_ne (String.not_lt.1 notBefore) (Ne.symm other)
        · exact first p old

theorem ofList_concat (pairs : List (String × α)) (p : String × α) :
    ofList (pairs ++ [p]) = (ofList pairs).insert p.1 p.2 := List.foldl_append

/-- The dictionary of some pairs is in order. -/
theorem sorted_ofList (pairs : List (String × α)) : (ofList pairs).Sorted := by
  induction pairs using List.reverseRecOn with
  | nil => exact List.Pairwise.nil
  | append_singleton pairs p ih =>
    rw [ofList_concat]
    exact ih.insert _ _

/-- The dictionary of some pairs has no other pairs. -/
theorem mem_of_mem_ofList {pairs : List (String × α)} {p : String × α} (h : p ∈ ofList pairs) :
    p ∈ pairs := by
  induction pairs using List.reverseRecOn with
  | nil => exact h
  | append_singleton pairs q ih =>
    rw [ofList_concat] at h
    rcases eq_or_mem_of_mem_insert h with rfl | old
    · exact List.mem_append_right _ List.mem_cons_self
    · exact List.mem_append_left _ (ih old)

theorem sorted_of_keys (sorted : (keys d).Pairwise (· < ·)) : d.Sorted := List.pairwise_map.1 sorted

/-- No key of a dictionary is repeated. -/
theorem Sorted.nodup_keys (sorted : d.Sorted) : (keys d).Nodup := by
  refine List.pairwise_map.2 (List.Pairwise.imp ?_ sorted)
  intro p q before same
  rw [same] at before
  exact String.lt_irrefl _ before

/-- A key after all others comes last. -/
theorem insert_of_after {key : String} (value : α) (after : ∀ p ∈ d, p.1 < key) :
    d.insert key value = d ++ [(key, value)] := by
  induction d with
  | nil => rfl
  | cons q rest ih =>
    obtain ⟨k, v⟩ := q
    have lt : k < key := after (k, v) List.mem_cons_self
    have notBefore : ¬ key < k := String.lt_asymm lt
    have other : key ≠ k := by
      intro same
      rw [same] at lt
      exact String.lt_irrefl k lt
    unfold insert
    rw [if_neg notBefore, if_neg other, ih fun p mem => after p (List.mem_cons_of_mem _ mem)]
    rfl

/-- Pairs that are in order are a dictionary already. -/
theorem ofList_of_sorted {pairs : List (String × α)} (sorted : Sorted pairs) :
    ofList pairs = pairs := by
  induction pairs using List.reverseRecOn with
  | nil => rfl
  | append_singleton pairs p ih =>
    obtain ⟨front, -, after⟩ := List.pairwise_append.1 sorted
    rw [ofList_concat, ih front]
    exact insert_of_after p.2 fun q mem => after q mem p List.mem_cons_self

/-! ### What stands under a key -/

theorem find?_cons (k : String) (v : α) (rest : List (String × α)) (key : String) :
    find? ((k, v) :: rest) key = if k = key then some v else find? rest key := rfl

/-- What stands in front is found first. -/
theorem find?_append (d e : List (String × α)) (key : String) :
    find? (d ++ e) key = (find? d key).or (find? e key) := by
  induction d with
  | nil => rfl
  | cons q rest ih =>
    obtain ⟨k, v⟩ := q
    rw [List.cons_append, find?_cons, find?_cons, ih]
    split <;> rfl

theorem mem_keys_iff {d : List (String × α)} {key : String} :
    key ∈ keys d ↔ (find? d key).isSome = true := by
  induction d with
  | nil => simp [keys]
  | cons q rest ih =>
    obtain ⟨k, v⟩ := q
    have cons : key ∈ keys ((k, v) :: rest) ↔ key = k ∨ key ∈ keys rest := List.mem_cons
    rw [cons, ih, find?_cons]
    by_cases same : k = key
    · rw [if_pos same]
      exact ⟨fun _ => rfl, fun _ => .inl same.symm⟩
    · rw [if_neg same]
      exact ⟨fun h => h.resolve_left (Ne.symm same), .inr⟩

theorem find?_eq_none_of_not_mem {d : List (String × α)} {key : String} (h : key ∉ keys d) :
    find? d key = none := by
  rw [mem_keys_iff] at h
  exact Option.not_isSome_iff_eq_none.1 h

/-- What is found under a key stands there. -/
theorem mem_of_find? {d : List (String × α)} {key : String} {value : α}
    (found : find? d key = some value) : (key, value) ∈ d := by
  induction d with
  | nil => cases found
  | cons p rest ih =>
    obtain ⟨k, v⟩ := p
    rw [find?_cons] at found
    by_cases same : k = key
    · rw [if_pos same, Option.some.injEq] at found
      rw [same, found]
      exact List.mem_cons_self
    · rw [if_neg same] at found
      exact List.mem_cons_of_mem _ (ih found)

/-- If no key occurs twice, what stands under a key is what is found. -/
theorem mem_iff_find? (once : (keys d).Nodup) {key : String} {value : α} :
    (key, value) ∈ d ↔ d.find? key = some value := by
  refine ⟨fun mem => ?_, mem_of_find?⟩
  induction d with
  | nil => cases mem
  | cons p rest ih =>
    obtain ⟨k, v⟩ := p
    obtain ⟨absent, once⟩ : k ∉ keys rest ∧ (keys rest).Nodup := List.nodup_cons.1 once
    rw [find?_cons]
    rcases List.mem_cons.1 mem with same | later
    · cases same
      exact if_pos rfl
    · have other : k ≠ key := by
        rintro rfl
        exact absent (List.mem_map_of_mem later)
      rw [if_neg other]
      exact ih once later

theorem Sorted.erase (sorted : d.Sorted) (key : String) : (d.erase key).Sorted :=
  sorted.sublist List.filter_sublist

/-- A key that comes before all others is not one of them. -/
theorem Sorted.not_mem_tail {k : String} {v : α} (sorted : Sorted ((k, v) :: d)) : k ∉ keys d := by
  have once : (keys ((k, v) :: d)).Nodup := sorted.nodup_keys
  exact (List.nodup_cons.1 once).1

/-- A key before the first one is not in the dictionary. -/
theorem Sorted.find?_of_lt {k key : String} {v : α} (sorted : Sorted ((k, v) :: d)) (lt : key < k) :
    find? ((k, v) :: d) key = none := by
  refine find?_eq_none_of_not_mem fun mem => ?_
  obtain ⟨p, isPair, same⟩ := List.mem_map.1 mem
  rcases List.mem_cons.1 isPair with rfl | later
  · exact String.lt_irrefl key (same ▸ lt)
  · have after : k < p.1 := (List.pairwise_cons.1 sorted).1 p later
    rw [same] at after
    exact String.lt_irrefl key (String.lt_trans lt after)

theorem erase_cons_self (d : List (String × α)) (key : String) (value : α) :
    erase ((key, value) :: d) key = erase d key :=
  List.filter_cons_of_neg (by simp)

theorem erase_cons_other {d : List (String × α)} {k key : String} {v : α} (other : k ≠ key) :
    erase ((k, v) :: d) key = (k, v) :: erase d key :=
  List.filter_cons_of_pos (by simpa using other)

/-- A key that is not there can be erased without effect. -/
theorem erase_of_absent {d : List (String × α)} {key : String} (absent : key ∉ keys d) :
    erase d key = d := by
  refine List.filter_eq_self.2 fun p mem => ?_
  have other : p.1 ≠ key := fun same => absent (same ▸ List.mem_map_of_mem mem)
  exact decide_eq_true other

theorem nodup_keys_erase {d : List (String × α)} (once : (keys d).Nodup) (key : String) :
    (keys (erase d key)).Nodup :=
  once.sublist (List.filter_sublist.map _)

/-- Where no key is repeated, a dictionary gives each key its own value. -/
theorem find?_ofList {pairs : List (String × α)} (once : (keys pairs).Nodup) (key : String) :
    (ofList pairs).find? key = find? pairs key := by
  induction pairs using List.reverseRecOn with
  | nil => rfl
  | append_singleton pairs p ih =>
    unfold keys at once
    rw [List.map_append, List.nodup_append] at once
    obtain ⟨front, -, apart⟩ := once
    rw [ofList_concat, find?_insert, find?_append, ih front]
    split
    · rename_i same
      have absent : p.1 ∉ keys pairs := fun mem => apart p.1 mem p.1 List.mem_cons_self rfl
      rw [same, find?_eq_none_of_not_mem absent]
      exact (if_pos rfl).symm
    · rename_i other
      have last : find? [p] key = none := if_neg (Ne.symm other)
      rw [last, Option.or_none]

/-- The pairs that are set in a dictionary win over those that it had. -/
theorem find?_extend (d extra : Dict α) (key : String) :
    (d.extend extra).find? key = ((ofList extra).find? key).or (d.find? key) := by
  induction extra using List.reverseRecOn with
  | nil => rfl
  | append_singleton extra p ih =>
    have extended : d.extend (extra ++ [p]) = (d.extend extra).insert p.1 p.2 := List.foldl_append
    rw [extended, ofList_concat, find?_insert, find?_insert, ih]
    split <;> rfl

/-- A dictionary in order can be extended. -/
theorem Sorted.extend (sorted : d.Sorted) (extra : Dict α) : (d.extend extra).Sorted := by
  induction extra generalizing d with
  | nil => exact sorted
  | cons p extra ih => exact ih (sorted.insert p.1 p.2)

end Dict

namespace Json

variable {items : List Json} {members : List (String × Json)}

/-! ### Documents that are their own canonical form -/

/-- Every object in the document has its members in the order of their keys. -/
def IsCanonical (j : Json) : Prop := j.canonical = j

/-- Items in canonical form are kept as they are. -/
theorem canonicalItems_of_all (all : ∀ j ∈ items, j.IsCanonical) :
    canonicalItems items = items := by
  induction items with
  | nil => rfl
  | cons j rest ih =>
    have first : j.canonical = j := all j List.mem_cons_self
    unfold canonicalItems
    rw [first, ih fun i mem => all i (List.mem_cons_of_mem _ mem)]

theorem canonicalMembers_of_all (all : ∀ m ∈ members, m.2.IsCanonical) :
    canonicalMembers members = members := by
  induction members with
  | nil => rfl
  | cons m rest ih =>
    obtain ⟨k, j⟩ := m
    have first : j.canonical = j := all (k, j) List.mem_cons_self
    unfold canonicalMembers
    rw [first, ih fun i mem => all i (List.mem_cons_of_mem _ mem)]

/-- An array of items in canonical form is in canonical form. -/
theorem isCanonical_array (all : ∀ j ∈ items, j.IsCanonical) : (array items).IsCanonical := by
  unfold IsCanonical canonical
  rw [canonicalItems_of_all all]

/-- An object in order with members in canonical form is in canonical form. -/
theorem isCanonical_object (sorted : Dict.Sorted members)
    (all : ∀ m ∈ members, m.2.IsCanonical) : (object members).IsCanonical := by
  unfold IsCanonical canonical
  rw [canonicalMembers_of_all all, Dict.ofList_of_sorted sorted]

theorem isCanonical_ofOption {α : Type} {f : α → Json} {o : Option α}
    (all : ∀ a ∈ o, (f a).IsCanonical) : (ofOption f o).IsCanonical := by
  cases o with
  | none => rfl
  | some a => exact all a rfl

mutual

/-- A canonical form is canonical. -/
theorem isCanonical_canonical : ∀ j : Json, j.canonical.IsCanonical
  | .array items => isCanonical_array (isCanonical_canonicalItems items)
  | .object members => isCanonical_object (Dict.sorted_ofList _) fun m mem =>
      isCanonical_canonicalMembers members m (Dict.mem_of_mem_ofList mem)
  | .null => rfl
  | .bool _ => rfl
  | .number _ => rfl
  | .string _ => rfl

/-- The canonical form of items is canonical, one after another. -/
theorem isCanonical_canonicalItems : ∀ items : List Json, ∀ j ∈ canonicalItems items, j.IsCanonical
  | [] => List.forall_mem_nil _
  | j :: rest =>
    List.forall_mem_cons.2 ⟨isCanonical_canonical j, isCanonical_canonicalItems rest⟩

/-- So is that of members. -/
theorem isCanonical_canonicalMembers :
    ∀ members : List (String × Json), ∀ m ∈ canonicalMembers members, m.2.IsCanonical
  | [] => List.forall_mem_nil _
  | (_, j) :: rest =>
    List.forall_mem_cons.2 ⟨isCanonical_canonical j, isCanonical_canonicalMembers rest⟩

end

end Json

end HubAutomation
