import HubAutomation.Proofs.Json.Differences

/-!
# Editing documents

A change is carried out at the end of a path: it replaces what stands there,
takes it away, or puts something where nothing was. A key can be taken away or
put anywhere; an array grows and shrinks at its end only. The differences of two
documents turn the old one into the new one, what is replaced and put first and
then what is taken away, from the last to the first.

- `Json.put?`: a document with something else at a step.
- `Change.carryOut?`: a change at the end of a path.
- `Json.editAll?`: some differences, one after the other.
- `Difference.inTurn`: the order in which differences are carried out.
- `Json.Becomes`: the differences of two documents turn one into the other.
- `Json.diff_describes`: what the differences of two documents say.
-/

namespace HubAutomation

namespace Json

/-! ### Edits -/

/-- The items of an array from `index` on with another one at a step, or with one
more at the end. -/
def setItem? (step : String) (new : Json) : (index : Nat) → List Json → Option (List Json)
  | index, [] => if toString index = step then some [new] else none
  | index, j :: rest =>
    if toString index = step then some (new :: rest)
    else (setItem? step new (index + 1) rest).map (j :: ·)

/-- The items of an array from `index` on without the last one, which must be
the one at the step. -/
def dropItem? (step : String) : (index : Nat) → List Json → Option (List Json)
  | _, [] => none
  | index, [_] => if toString index = step then some [] else none
  | index, j :: next :: rest => (dropItem? step (index + 1) (next :: rest)).map (j :: ·)

/-- The document with something, or nothing, at a step. -/
def put? (j : Json) (step : String) (place : Option Json) : Option Json :=
  match j, place with
  | .object members, some new => some (.object (Dict.insert members step new))
  | .object members, none => some (.object (Dict.erase members step))
  | .array items, some new => (setItem? step new 0 items).map .array
  | .array items, none => (dropItem? step 0 items).map .array
  | _, _ => none

end Json

namespace Change

/-- What a change leaves at a place. Only what is there can be replaced or taken
away, and nothing is put where something is. -/
def at? : Change → Option Json → Option (Option Json)
  | .add new, none => some (some new)
  | .update _ new, some _ => some (some new)
  | .delete _, some _ => some none
  | _, _ => none

/-- What a change at the end of a path leaves at a place. -/
def carryOut? (c : Change) : List String → Option Json → Option (Option Json)
  | [], place => c.at? place
  | _ :: _, none => none
  | step :: rest, some j =>
    (c.carryOut? rest (j.child? step)).bind fun place => (j.put? step place).map some

def removes : Change → Bool
  | .delete _ => true
  | _ => false

end Change

namespace Difference

/-- The document with a difference carried out; it cannot be taken away itself. -/
def edit? (d : Difference) (j : Json) : Option Json :=
  (d.change.carryOut? d.path (some j)).join

def removes (d : Difference) : Bool := d.change.removes

/-- Removals come last, and the last one of them first. -/
def inTurn (ds : List Difference) : List Difference :=
  ds.filter (fun d => !d.removes) ++ (ds.filter removes).reverse

end Difference

namespace Json

/-- The document with some differences carried out one after the other. -/
def editAll? (j : Json) (ds : List Difference) : Option Json :=
  ds.foldlM (fun j d => d.edit? j) j

variable {j x y : Json} {step : String} {d : Difference} {ds : List Difference}

@[simp] theorem editAll?_nil (j : Json) : j.editAll? [] = some j := rfl

theorem editAll?_cons (j : Json) (d : Difference) (ds : List Difference) :
    j.editAll? (d :: ds) = (d.edit? j).bind fun j => j.editAll? ds := rfl

/-- Edits can be made in two parts. -/
theorem editAll?_append (j : Json) (ds es : List Difference) :
    j.editAll? (ds ++ es) = (j.editAll? ds).bind fun j => j.editAll? es := List.foldlM_append

@[simp] theorem editAll?_singleton (j : Json) (d : Difference) : j.editAll? [d] = d.edit? j := by
  rw [editAll?_cons]
  cases d.edit? j <;> rfl

/-! ### One step -/

/-- A difference below a step is carried out there. -/
theorem edit?_below (edited : d.edit? x = some y) (found : j.child? step = some x) :
    (d.below step).edit? j = j.put? step (some y) := by
  have inside : d.change.carryOut? d.path (some x) = some (some y) :=
    Option.join_eq_some_iff.1 edited
  show (d.change.carryOut? (step :: d.path) (some j)).join = _
  rw [Change.carryOut?, found, inside, Option.bind_some]
  cases j.put? step (some y) <;> rfl

/-- To add something under a key, it must not be there. -/
theorem edit?_add (y : Json) (absent : j.child? step = none) :
    Difference.edit? ⟨[step], .add y⟩ j = j.put? step (some y) := by
  show ((Change.add y).carryOut? [step] (some j)).join = _
  rw [Change.carryOut?, absent]
  show ((j.put? step (some y)).map some).join = _
  cases j.put? step (some y) <;> rfl

/-- To delete something, the old value must be there. -/
theorem edit?_delete (old : Json) (found : j.child? step = some x) :
    Difference.edit? ⟨[step], .delete old⟩ j = j.put? step none := by
  show ((Change.delete old).carryOut? [step] (some j)).join = _
  rw [Change.carryOut?, found]
  show ((j.put? step none).map some).join = _
  cases j.put? step none <;> rfl

/-! ### Arrays -/

/-- Further items have other steps than the first one. -/
theorem step_ne (index : Nat) (j : Json) (before : List Json) :
    toString index ≠ toString (index + (j :: before).length) := by
  rw [ne_eq, index_inj]
  simp

/-- Items are counted from an index on. -/
theorem length_later (index : Nat) (j : Json) (before : List Json) :
    index + (j :: before).length = index + 1 + before.length := by
  rw [List.length_cons]
  omega

/-- The item behind some others is replaced, or added if there is none. -/
theorem setItem?_append (new : Json) (index : Nat) (before rest : List Json) :
    setItem? (toString (index + before.length)) new index (before ++ rest) =
      some (before ++ new :: rest.tail) := by
  induction before generalizing index with
  | nil => cases rest <;> simp [setItem?]
  | cons j before ih =>
    rw [List.cons_append, setItem?, if_neg (step_ne index j before), length_later, ih]
    rfl

/-- The last item can be taken away. -/
theorem dropItem?_append (last : Json) (index : Nat) (before : List Json) :
    dropItem? (toString (index + before.length)) index (before ++ [last]) = some before := by
  induction before generalizing index with
  | nil => simp [dropItem?]
  | cons j before ih =>
    have notLast : before ++ [last] ≠ [] := by simp
    obtain ⟨next, rest, more⟩ := List.exists_cons_of_ne_nil notLast
    rw [List.cons_append, more, dropItem?, ← more, length_later, ih]
    rfl

/-- The item behind some others is found under its index. -/
theorem find?_itemsFrom (index : Nat) (before rest : List Json) :
    Dict.find? (itemsFrom index (before ++ rest)) (toString (index + before.length)) =
      rest.head? := by
  induction before generalizing index with
  | nil => cases rest <;> simp [itemsFrom, Dict.find?_cons]
  | cons j before ih =>
    rw [List.cons_append, itemsFrom, Dict.find?_cons, if_neg (step_ne index j before),
      length_later, ih]

section

variable {before after : List Json}

/-- The children of an array are its items. -/
theorem child?_array (before rest : List Json) :
    (array (before ++ rest)).child? (toString before.length) = rest.head? := by
  have found := find?_itemsFrom 0 before rest
  rwa [Nat.zero_add] at found

/-- To put something at an index, or right behind the last item. -/
theorem put?_array (new : Json) (before rest : List Json) :
    (array (before ++ rest)).put? (toString before.length) (some new) =
      some (array (before ++ new :: rest.tail)) := by
  have set := setItem?_append new 0 before rest
  rw [Nat.zero_add] at set
  rw [put?, set]
  rfl

/-- To take the last item away. -/
theorem put?_array_none (last : Json) (before : List Json) :
    (array (before ++ [last])).put? (toString before.length) none = some (array before) := by
  have dropped := dropItem?_append last 0 before
  rw [Nat.zero_add] at dropped
  rw [put?, dropped]
  rfl

/-- What turns an item into another one does so in an array. -/
theorem editAll?_item (edited : x.editAll? ds = some y) (before after : List Json) :
    (array (before ++ x :: after)).editAll? (ds.map (·.below (toString before.length))) =
      some (array (before ++ y :: after)) := by
  induction ds generalizing x with
  | nil =>
    cases edited
    rfl
  | cons d ds ih =>
    obtain ⟨z, first, rest⟩ := Option.bind_eq_some_iff.1 edited
    have here := edit?_below first (child?_array before (x :: after))
    rw [List.map_cons, editAll?_cons, here, put?_array]
    exact ih rest

end

end Json

/-! ### What is put and what is taken away -/

namespace Difference

variable {step : String} {ds es : List Difference}

/-- What puts something, in order. -/
def puts (ds : List Difference) : List Difference := ds.filter fun d => !d.removes

/-- What takes something away, from the last to the first. -/
def takes (ds : List Difference) : List Difference := (ds.filter removes).reverse

/-- What several edits put is put in their order. -/
theorem puts_append (ds es : List Difference) : puts (ds ++ es) = puts ds ++ puts es :=
  List.filter_append ..

/-- What several edits take away is taken away in the opposite order. -/
theorem takes_append (ds es : List Difference) : takes (ds ++ es) = takes es ++ takes ds := by
  simp [takes]

/-- What is put below a key. -/
theorem puts_below (step : String) (ds : List Difference) :
    puts (ds.map (·.below step)) = (puts ds).map (·.below step) := by
  unfold puts
  rw [List.filter_map]
  rfl

theorem takes_below (step : String) (ds : List Difference) :
    takes (ds.map (·.below step)) = (takes ds).map (·.below step) := by
  unfold takes
  rw [List.filter_map, List.map_reverse]
  rfl

/-- What is put by many edits. -/
theorem puts_flatMap {α : Type} (f : α → List Difference) (l : List α) :
    puts (l.flatMap f) = l.flatMap fun a => puts (f a) := List.filter_flatMap

theorem takes_flatMap {α : Type} (f : α → List Difference) (l : List α) :
    takes (l.flatMap f) = l.reverse.flatMap fun a => takes (f a) := by
  unfold takes
  rw [List.filter_flatMap, List.reverse_flatMap]
  rfl

/-- First everything is put, and then everything is taken away. -/
theorem inTurn_eq (ds : List Difference) : inTurn ds = puts ds ++ takes ds := rfl

end Difference

namespace Json

open Difference (puts takes puts_append takes_append puts_below takes_below)

/-- The differences of two documents turn the old one into one that is equal to
the new one. -/
def Becomes (old new : Json) : Prop :=
  ∃ halfway, old.editAll? (puts (diff old new)) = some halfway ∧
    ∃ result, halfway.editAll? (takes (diff old new)) = some result ∧ result.same new = true

/-- Items that are added are put only. -/
theorem puts_addedItems (index : Nat) (items : List Json) :
    puts (addedItems index items) = addedItems index items := by
  induction items generalizing index with
  | nil => rfl
  | cons j rest ih =>
    rw [addedItems]
    exact congrArg _ (ih (index + 1))

/-- Items that are added take nothing away. -/
theorem takes_addedItems (index : Nat) (items : List Json) :
    takes (addedItems index items) = [] := by
  induction items generalizing index with
  | nil => rfl
  | cons j rest ih =>
    rw [addedItems]
    exact ih (index + 1)

/-- Items are added at the end, one after the other. -/
theorem editAll?_addedItems {before items : List Json} {index : Nat}
    (length : before.length = index) :
    (array before).editAll? (addedItems index items) = some (array (before ++ items)) := by
  induction items generalizing before index with
  | nil => simp [addedItems]
  | cons j rest ih =>
    have absent := child?_array before []
    have added := put?_array j before []
    rw [List.append_nil] at absent added
    have longer : (before ++ [j]).length = index + 1 := by simp [length]
    have more : (array (before ++ [j])).editAll? (addedItems (index + 1) rest) =
        some (array (before ++ j :: rest)) := by
      simpa using ih longer
    rw [addedItems, editAll?_cons, ← length, edit?_add j absent, added, length]
    exact more

/-- The items that two arrays have in common become the new ones, and what one of
them has more stands at its end. -/
theorem editAll?_items {old new : List Json} (inside : ∀ x ∈ old, ∀ y ∈ new, Becomes x y)
    (index : Nat) :
    ∃ halfway,
      (∀ before, before.length = index →
        (array (before ++ old)).editAll? (puts (diffItems index old new)) =
          some (array (before ++ halfway))) ∧
      ∃ result,
        (∀ before, before.length = index →
          (array (before ++ halfway)).editAll? (takes (diffItems index old new)) =
            some (array (before ++ result))) ∧
        sameItems result new = true := by
  induction old generalizing index new with
  | nil =>
    have added : diffItems index [] new = addedItems index new := by cases new <;> rfl
    refine ⟨new, ?_, new, ?_, sameItems_self new⟩
    · intro before length
      rw [added, puts_addedItems, List.append_nil]
      exact editAll?_addedItems length
    · intro before _
      rw [added, takes_addedItems]
      rfl
  | cons x xs ih =>
    cases new with
    | nil =>
      have nothing : ∀ x ∈ xs, ∀ y ∈ ([] : List Json), Becomes x y := nofun
      obtain ⟨halfway, put, result, taken, same⟩ := ih nothing (index + 1)
      have empty : result = [] := by
        cases result with
        | nil => rfl
        | cons => cases same
      subst empty
      refine ⟨x :: halfway, ?_, [], ?_, rfl⟩
      · intro before length
        have more := put (before ++ [x]) (by simp [length])
        simpa [diffItems, puts, Difference.removes, Change.removes] using more
      · intro before length
        -- What stands behind this item is taken away first, so it is the last one by then.
        have more :
            (array (before ++ x :: halfway)).editAll? (takes (diffItems (index + 1) xs [])) =
              some (array (before ++ [x])) := by
          simpa using taken (before ++ [x]) (by simp [length])
        have here : takes [⟨[toString index], .delete x⟩] =
            [(⟨[toString before.length], .delete x⟩ : Difference)] := by
          rw [length]
          rfl
        have first : diffItems index (x :: xs) [] =
            [⟨[toString index], .delete x⟩] ++ diffItems (index + 1) xs [] := rfl
        rw [first, takes_append, editAll?_append, more, Option.bind_some, here, editAll?_singleton,
          edit?_delete x (child?_array before [x]), put?_array_none, List.append_nil]
    | cons y ys =>
      obtain ⟨z, put, w, taken, same⟩ := inside x List.mem_cons_self y List.mem_cons_self
      have insideLater : ∀ x ∈ xs, ∀ y ∈ ys, Becomes x y := fun x hx y hy =>
        inside x (List.mem_cons_of_mem _ hx) y (List.mem_cons_of_mem _ hy)
      obtain ⟨halfway, putMore, result, takenMore, sameMore⟩ := ih insideLater (index + 1)
      refine ⟨z :: halfway, ?_, w :: result, ?_, ?_⟩
      · intro before length
        have more : (array (before ++ z :: xs)).editAll? (puts (diffItems (index + 1) xs ys)) =
            some (array (before ++ z :: halfway)) := by
          simpa using putMore (before ++ [z]) (by simp [length])
        rw [diffItems, puts_append, puts_below, editAll?_append, ← length, editAll?_item put,
          Option.bind_some, length]
        exact more
      · intro before length
        have more :
            (array (before ++ z :: halfway)).editAll? (takes (diffItems (index + 1) xs ys)) =
              some (array (before ++ z :: result)) := by
          simpa using takenMore (before ++ [z]) (by simp [length])
        rw [diffItems, takes_append, takes_below, editAll?_append, more, Option.bind_some, ← length]
        exact editAll?_item taken before result
      · simp [sameItems, same, sameMore]

/-! ### Objects -/

/-- One dictionary is another one with something else, or nothing, under a key. -/
structure Sets (d : Dict Json) (key : String) (place : Option Json) (d' : Dict Json) : Prop where
  sorted : d'.Sorted
  here : d'.find? key = place
  elsewhere : ∀ other, other ≠ key → d'.find? other = d.find? other

section

variable {members : Dict Json} {key : String} {o n : Option Json}

/-- To leave what is there is to put nothing else. -/
theorem Sets.refl (sorted : members.Sorted) (here : members.find? key = o) :
    Sets members key o members :=
  ⟨sorted, here, fun _ _ => rfl⟩

/-- Something can be put under any key of an object, or nothing. -/
theorem exists_put?_object (sorted : members.Sorted) (key : String) (place : Option Json) :
    ∃ members', (object members).put? key place = some (object members') ∧
      Sets members key place members' := by
  cases place with
  | some new =>
    exact ⟨_, rfl, sorted.insert key new, Dict.find?_insert_self .., fun other ne =>
      Dict.find?_insert_other _ _ ne⟩
  | none =>
    exact ⟨_, rfl, sorted.erase key, Dict.find?_erase_self .., fun other ne =>
      Dict.find?_erase_other _ ne⟩

/-- What turns a member into another document does so in an object. -/
theorem editAll?_member (edited : x.editAll? ds = some y) (sorted : members.Sorted)
    (found : members.find? key = some x) :
    ∃ members', (object members).editAll? (ds.map (·.below key)) = some (object members') ∧
      Sets members key (some y) members' := by
  induction ds generalizing x members with
  | nil =>
    cases edited
    exact ⟨members, rfl, .refl sorted found⟩
  | cons d ds ih =>
    obtain ⟨z, first, rest⟩ := Option.bind_eq_some_iff.1 edited
    obtain ⟨middle, put, sets⟩ := exists_put?_object sorted key (some z)
    obtain ⟨members', editedRest, setsRest⟩ := ih rest sets.sorted sets.here
    refine ⟨members', ?_, setsRest.sorted, setsRest.here, ?_⟩
    · rw [List.map_cons, editAll?_cons, edit?_below (j := object members) first found, put]
      exact editedRest
    · intro other ne
      rw [setsRest.elsewhere other ne, sets.elsewhere other ne]

/-- Edits under one key after the other. What they need and what they reach is
said key by key, as edits under one key leave the other keys alone. -/
theorem editAll?_members {keys : List String} (once : keys.Nodup) {edits : String → List Difference}
    (start goal : String → Option Json → Prop)
    (one : ∀ key ∈ keys, ∀ members, Dict.Sorted members → start key (Dict.find? members key) →
      ∃ members' place, (object members).editAll? (edits key) = some (object members') ∧
        Sets members key place members' ∧ goal key place)
    (sorted : members.Sorted) (started : ∀ key ∈ keys, start key (members.find? key)) :
    ∃ members', (object members).editAll? (keys.flatMap edits) = some (object members') ∧
      Dict.Sorted members' ∧ (∀ key ∈ keys, goal key (Dict.find? members' key)) ∧
      ∀ key, key ∉ keys → Dict.find? members' key = members.find? key := by
  -- Along the keys: an edit under one key leaves what the later ones need.
  induction keys generalizing members with
  | nil => exact ⟨members, rfl, sorted, nofun, fun _ _ => rfl⟩
  | cons key keys ih =>
    obtain ⟨notLater, onceLater⟩ := List.nodup_cons.1 once
    obtain ⟨middle, place, edited, sets, reached⟩ :=
      one key List.mem_cons_self members sorted (started key List.mem_cons_self)
    have startedLater : ∀ other ∈ keys, start other (Dict.find? middle other) := by
      intro other mem
      have ne : other ≠ key := fun same => notLater (same ▸ mem)
      rw [sets.elsewhere other ne]
      exact started other (List.mem_cons_of_mem _ mem)
    obtain ⟨members', editedLater, sortedLater, reachedLater, elsewhere⟩ :=
      ih onceLater (fun other mem => one other (List.mem_cons_of_mem _ mem)) sets.sorted
        startedLater
    refine ⟨members', ?_, sortedLater, ?_, ?_⟩
    · rw [List.flatMap_cons, editAll?_append, edited]
      exact editedLater
    · intro other mem
      rcases List.mem_cons.1 mem with rfl | later
      · rw [elsewhere other notLater, sets.here]
        exact reached
      · exact reachedLater other later
    · intro other notMem
      obtain ⟨ne, notThere⟩ := not_or.1 (List.mem_cons.not.1 notMem)
      rw [elsewhere other notThere, sets.elsewhere other ne]

/-- What stands under a key once everything was put and before something is taken
away. -/
def Halfway (old new place : Option Json) : Prop :=
  match old, new with
  | some x, some y => ∃ z, place = some z ∧
      ∃ w, z.editAll? (takes (diff x y)) = some w ∧ w.same y = true
  | some _, none => place.isSome = true
  | none, _ => place = new

/-- The edits under one key put what is new there, and leave what is to go for
later. -/
theorem exists_puts_diffAt (inside : ∀ x y, o = some x → n = some y → Becomes x y)
    (sorted : members.Sorted) (here : members.find? key = o) :
    ∃ members' place,
      (object members).editAll? (puts (diffAt key o n)) = some (object members') ∧
      Sets members key place members' ∧ Halfway o n place := by
  cases o with
  | none =>
    cases n with
    | none => exact ⟨members, none, rfl, .refl sorted here, rfl⟩
    | some y =>
      obtain ⟨members', put, sets⟩ := exists_put?_object sorted key (some y)
      refine ⟨members', some y, ?_, sets, rfl⟩
      show (object members).editAll? [⟨[key], .add y⟩] = _
      rw [editAll?_singleton, edit?_add (j := object members) y here, put]
  | some x =>
    cases n with
    | none => exact ⟨members, some x, rfl, .refl sorted here, rfl⟩
    | some y =>
      obtain ⟨z, put, later⟩ := inside x y rfl rfl
      obtain ⟨members', edited, sets⟩ := editAll?_member put sorted here
      refine ⟨members', some z, ?_, sets, z, rfl, later⟩
      rw [diffAt, puts_below]
      exact edited

/-- The edits under one key take away what is to go. -/
theorem exists_takes_diffAt (sorted : members.Sorted) (halfway : Halfway o n (members.find? key)) :
    ∃ members' place,
      (object members).editAll? (takes (diffAt key o n)) = some (object members') ∧
      Sets members key place members' ∧ sameValue place n = true := by
  cases o with
  | none =>
    cases n with
    | none => exact ⟨members, none, rfl, .refl sorted halfway, rfl⟩
    | some y => exact ⟨members, some y, rfl, .refl sorted halfway, y.same_self⟩
  | some x =>
    cases n with
    | none =>
      obtain ⟨z, found⟩ := Option.isSome_iff_exists.1 halfway
      obtain ⟨members', taken, sets⟩ := exists_put?_object sorted key none
      refine ⟨members', none, ?_, sets, rfl⟩
      show (object members).editAll? [⟨[key], .delete x⟩] = _
      rw [editAll?_singleton, edit?_delete (j := object members) x found, taken]
    | some y =>
      obtain ⟨z, found, w, taken, same⟩ := halfway
      obtain ⟨members', edited, sets⟩ := editAll?_member taken sorted found
      refine ⟨members', some w, ?_, sets, same⟩
      rw [diffAt, takes_below]
      exact edited

end

/-- What is put in an object leaves every key halfway, and what is taken away then
leaves what the new object has there. -/
theorem becomes_object {old new : Dict Json} (ha : (object old).IsCanonical)
    (hb : (object new).IsCanonical)
    (inside : ∀ key x y, old.find? key = some x → new.find? key = some y → Becomes x y) :
    Becomes (object old) (object new) := by
  have once := nodup_bothSteps ha hb
  have stepwise : diff (object old) (object new) = (bothSteps (object old) (object new)).flatMap
      fun key => diffAt key (old.find? key) (new.find? key) :=
    diff_of_sameShape ha hb (.objects old new)
  obtain ⟨middle, put, sortedMiddle, halfway, elsewhere⟩ :=
    editAll?_members once (fun key place => place = old.find? key)
      (fun key place => Halfway (old.find? key) (new.find? key) place)
      (fun key _ _ sorted here => exists_puts_diffAt (inside key) sorted here)
      ha.sorted (fun _ _ => rfl)
  obtain ⟨result, taken, sortedResult, reached, elsewhere'⟩ :=
    editAll?_members ((List.reverse_perm _).nodup_iff.2 once)
      (fun key place => Halfway (old.find? key) (new.find? key) place)
      (fun key place => sameValue place (new.find? key) = true)
      (fun _ _ _ sorted here => exists_takes_diffAt sorted here)
      sortedMiddle (fun key mem => halfway key (List.mem_reverse.1 mem))
  refine ⟨object middle, ?_, object result, ?_, ?_⟩
  · rw [stepwise, Difference.puts_flatMap]
    exact put
  · rw [stepwise, Difference.takes_flatMap]
    exact taken
  · refine (sameMembers_iff sortedResult hb.sorted).2 fun key => ?_
    by_cases mem : key ∈ bothSteps (object old) (object new)
    · exact reached key (List.mem_reverse.2 mem)
    · -- A key of neither object is never touched.
      obtain ⟨notOld, notNew⟩ := child?_eq_none_of_not_mem mem
      have noOld : old.find? key = none := notOld
      have noNew : new.find? key = none := notNew
      rw [elsewhere' key (mt List.mem_reverse.1 mem), elsewhere key mem, noOld, noNew]
      rfl

/-! ### Whole documents -/

/-- The differences of two documents turn the old one into the new one. -/
theorem becomes {a b : Json} (ha : a.IsCanonical) (hb : b.IsCanonical) : Becomes a b := by
  induction a using child_induction generalizing b with
  | down a ih =>
    by_cases shape : SameShape a b
    · have inside : ∀ {s t x y}, a.child? s = some x → b.child? t = some y → Becomes x y := by
        intro s t x y hx hy
        exact ih s x hx (ha.child hx) (hb.child hy)
      cases shape with
      | arrays old new =>
        have items : ∀ x ∈ old, ∀ y ∈ new, Becomes x y := by
          intro x hx y hy
          obtain ⟨s, foundOld⟩ := exists_child?_of_mem hx
          obtain ⟨t, foundNew⟩ := exists_child?_of_mem hy
          exact inside foundOld foundNew
        obtain ⟨halfway, put, result, taken, same⟩ := editAll?_items items 0
        exact ⟨array halfway, put [] rfl, array result, taken [] rfl, same⟩
      | objects old new =>
        exact becomes_object ha hb fun key x y hx hy => inside (s := key) (t := key) hx hy
    · by_cases same : a.same b = true
      · have nothing : diff a b = [] := (diff_eq_nil_iff ha hb).2 same
        rw [Becomes, nothing]
        exact ⟨a, rfl, a, rfl, same⟩
      · -- The document is replaced as a whole, by the new one itself.
        rw [Becomes, diff_of_not_sameShape shape, if_neg same]
        exact ⟨b, rfl, b, rfl, b.same_self⟩

/-- Each difference of two documents says what its path leads to in the old one
and in the new one, if anything; what is updated is neither equal nor two objects
or arrays. No path begins with another one. Carried out in turn, the differences
turn the old document into the new one, and there are none exactly if the two are
equal. -/
theorem diff_describes {old new : Json} (hold : old.IsCanonical) (hnew : new.IsCanonical) :
    (∀ d ∈ diff old new, old.resolve? d.path = d.old? ∧ new.resolve? d.path = d.new? ∧
      ∀ before after, d.change = .update before after →
        ¬ SameShape before after ∧ before.same after = false) ∧
    (diff old new).Pairwise Difference.Apart ∧
    (∃ result, old.editAll? (Difference.inTurn (diff old new)) = some result ∧
      result.same new = true) ∧
    (diff old new = [] ↔ old.same new = true) := by
  refine ⟨?_, apart_diff hold hnew, ?_, diff_eq_nil_iff hold hnew⟩
  · intro d mem
    have differs := differs_of_mem_diff hold hnew mem
    obtain ⟨atOld, atNew⟩ := differs.resolve?
    exact ⟨atOld, atNew, fun _ _ updates => differs.update updates⟩
  · obtain ⟨halfway, put, result, taken, same⟩ := becomes hold hnew
    refine ⟨result, ?_, same⟩
    rw [Difference.inTurn_eq, editAll?_append, put]
    exact taken

theorem diff_describes_room :
    roomBefore.IsCanonical ∧ roomAfter.IsCanonical ∧
      (diff roomBefore roomAfter).map (fun d => (d.kind, d.path)) =
        [("delete", ["color"]), ("update", ["modes", "1"]), ("delete", ["modes", "2"]),
          ("add", ["name"])] ∧
      ∃ result, roomBefore.editAll? (Difference.inTurn (diff roomBefore roomAfter)) = some result ∧
        result.same roomAfter = true := by
  obtain ⟨-, -, edited, -⟩ := diff_describes isCanonical_roomBefore isCanonical_roomAfter
  exact ⟨isCanonical_roomBefore, isCanonical_roomAfter, by decide +kernel, edited⟩

end Json

end HubAutomation
