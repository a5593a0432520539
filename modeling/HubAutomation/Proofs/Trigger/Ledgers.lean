import HubAutomation.Proofs.Trigger.SoundStages

/-!
# What is written down of a handler set

An observer who only hears what is done with a set, and of dispatches no more
than that they begin, whom they evaluate and what they report, can tell at any
time which handlers are in the set, and in which order.

- `Deed`: what is heard.
- `Ledger`: what is written down of it, and `Ledger.present`: the handlers that
  were attached and not yet detached.
- `Ledger.Fits`: the set is what is written down.
-/

namespace HubAutomation

/-- What is heard of a set and its dispatches. -/
inductive Deed where
  | attached (a : Attachment)
  | detached (id : Nat)
  /-- Another handler stands behind an id. -/
  | replaced (a : Attachment)
  | begun (event : Event StateChange)
  | evaluated (a : Attachment)
  | closed (report : DispatchReport)

/-- A dispatch as it is written down. -/
structure Round where
  event : Event StateChange
  /-- The handlers that were present when it began. -/
  shown : List Attachment
  evaluated : List Attachment
  report : Option DispatchReport

/-- What is written down. -/
structure Ledger where
  /-- The ids of the handlers that were attached, the oldest first. -/
  handedOut : List Nat
  takenOut : List Nat
  /-- Who was put behind an id, the latest first. -/
  given : List Attachment
  /-- The dispatches, the latest first. -/
  rounds : List Round

namespace Ledger

def empty : Ledger := ⟨[], [], [], []⟩

/-- Who stands behind an id. -/
def holder? (l : Ledger) (id : Nat) : Option Attachment := l.given.find? fun a => a.id = id

/-- Who is in the set under an id: the handler that was put behind it last, unless
the id was taken out. -/
def seat? (l : Ledger) (id : Nat) : Option Attachment :=
  if id ∈ l.takenOut then none else l.holder? id

/-- The handlers that were attached and not yet detached, in the order in which
their ids were handed out. -/
def present (l : Ledger) : List Attachment := l.handedOut.filterMap l.seat?

/-- Write down what is heard. -/
def add (l : Ledger) : Deed → Ledger
  | .attached a => { l with handedOut := l.handedOut ++ [a.id], given := a :: l.given }
  | .detached id => { l with takenOut := id :: l.takenOut }
  | .replaced a => { l with given := a :: l.given }
  | .begun event => { l with rounds := ⟨event, l.present, [], none⟩ :: l.rounds }
  | .evaluated a =>
    { l with rounds := l.rounds.modifyHead fun x => { x with evaluated := x.evaluated ++ [a] } }
  | .closed report =>
    { l with rounds := l.rounds.modifyHead fun x => { x with report := some report } }

def addAll (l : Ledger) (deeds : List Deed) : Ledger := deeds.foldl add l

/-- What is written down of all that is heard. -/
def ofDeeds (deeds : List Deed) : Ledger := empty.addAll deeds

/-- What is heard can be written down in two parts. -/
theorem addAll_append (l : Ledger) (deeds more : List Deed) :
    l.addAll (deeds ++ more) = (l.addAll deeds).addAll more := List.foldl_append

end Ledger

/-! ### What is heard of an operation -/

namespace HandlerSet

variable {s : HandlerSet} {id serial : Nat} {l : Ledger}

/-- What is heard when an id is to be taken out: nothing if it is unknown. -/
def detachDeeds (s : HandlerSet) (id : Nat) : List Deed :=
  if s.contains id then [.detached id] else []

/-- What is heard when another handler is to stand behind an id. -/
def replaceDeeds (s : HandlerSet) (id serial : Nat) : List Deed :=
  if s.contains id then [.replaced ⟨id, serial⟩] else []

/-- A set contains an id if one of its handlers goes by it. -/
theorem contains_iff : s.contains id = true ↔ ∃ a ∈ s.attachments, a.id = id := by
  unfold contains find?
  rw [List.find?_isSome]
  simp

/-- An id that nobody goes by can be taken out without effect. -/
theorem detach_of_unknown (unknown : ¬ s.contains id = true) : s.detach id = s := by
  have all : s.attachments.filter (fun a => a.id ≠ id) = s.attachments :=
    List.filter_eq_self.2 fun a mem => decide_eq_true fun same =>
      unknown (contains_iff.2 ⟨a, mem, same⟩)
  unfold detach
  rw [all]

/-- Nobody is replaced behind an id that is unknown. -/
theorem replace_of_unknown (unknown : ¬ s.contains id = true) : s.replace id serial = s := by
  have all : s.attachments.map (fun a => if a.id = id then { a with serial } else a) =
      s.attachments := by
    refine (List.map_congr_left fun a mem => ?_).trans (List.map_id _)
    exact if_neg fun same => unknown (contains_iff.2 ⟨a, mem, same⟩)
  unfold replace
  rw [all]

end HandlerSet

/-! ### The set as it is written down -/

namespace Ledger

variable {l : Ledger} {s : HandlerSet} {id serial : Nat} {a : Attachment}

/-- Who stands behind an id goes by it. -/
theorem id_of_holder? (h : l.holder? id = some a) : a.id = id := by
  simpa using List.find?_some h

/-- Who is in the set under an id goes by it. -/
theorem id_of_seat? (h : l.seat? id = some a) : a.id = id := by
  unfold seat? at h
  split at h
  · cases h
  · exact id_of_holder? h

/-- Put a handler behind an id. -/
def give (l : Ledger) (a : Attachment) : Ledger := { l with given := a :: l.given }

/-- The handler that was put behind an id last stands behind it. -/
theorem holder?_give (l : Ledger) (a : Attachment) (id : Nat) :
    (l.give a).holder? id = if a.id = id then some a else l.holder? id := by
  unfold holder? give
  rw [List.find?_cons]
  by_cases same : a.id = id
  · rw [if_pos same, decide_eq_true same]
  · rw [if_neg same, decide_eq_false same]

/-- What is put behind one id leaves the seats of the others alone. -/
theorem seat?_give_other (other : a.id ≠ id) : (l.give a).seat? id = l.seat? id := by
  unfold seat?
  rw [holder?_give, if_neg other]
  rfl

/-- Another handler stands behind an id. -/
theorem seat?_give (l : Ledger) (id serial : Nat) {other : Nat}
    (held : (l.holder? other).isSome = true) : (l.give ⟨id, serial⟩).seat? other =
      (l.seat? other).map fun a => if a.id = id then { a with serial } else a := by
  by_cases same : id = other
  · subst same
    obtain ⟨a, holds⟩ := Option.isSome_iff_exists.1 held
    have own : a.id = id := id_of_holder? holds
    unfold seat?
    rw [holder?_give, if_pos rfl, holds]
    show (if id ∈ l.takenOut then none else _) = _
    split
    · rfl
    · rw [Option.map_some, if_pos own, ← own]
  -- Who sits under another id goes by that id, so is not the one that is given away.
  · rw [seat?_give_other (show (Attachment.mk id serial).id ≠ other from same)]
    cases seat : l.seat? other with
    | none => rfl
    | some a =>
      have otherId : ¬ a.id = id := fun own => same (own.symm.trans (id_of_seat? seat))
      rw [Option.map_some, if_neg otherId]

/-- Take an id out. -/
def take (l : Ledger) (id : Nat) : Ledger := { l with takenOut := id :: l.takenOut }

/-- An id that is taken out loses its seat, and the others keep theirs. -/
theorem seat?_take (l : Ledger) (id other : Nat) :
    (l.take id).seat? other = (l.seat? other).filter fun a => a.id ≠ id := by
  by_cases same : other = id
  · subst same
    have out : (l.take other).seat? other = none := if_pos List.mem_cons_self
    rw [out]
    cases seat : l.seat? other with
    | none => rfl
    | some a => exact (Option.filter_some_neg (by simpa using id_of_seat? seat)).symm
  · have still : (l.take id).seat? other = l.seat? other := by
      have iff : other ∈ (l.take id).takenOut ↔ other ∈ l.takenOut := by
        refine ⟨fun mem => ?_, List.mem_cons_of_mem _⟩
        exact (List.mem_cons.1 mem).resolve_left same
      unfold seat?
      exact if_congr iff rfl rfl
    rw [still]
    cases seat : l.seat? other with
    | none => rfl
    | some a =>
      have otherId : a.id ≠ id := fun own => same ((id_of_seat? seat).symm.trans own)
      exact (Option.filter_some_pos (by simpa using otherId)).symm

/-! ### Dispatches go on as they were -/

/-- That a handler is taken out is not written down with a dispatch. -/
theorem rounds_detachDeeds (l : Ledger) (s : HandlerSet) (id : Nat) :
    (l.addAll (s.detachDeeds id)).rounds = l.rounds := by
  unfold HandlerSet.detachDeeds
  split <;> rfl

/-- That a handler is replaced is not written down with a dispatch. -/
theorem rounds_replaceDeeds (l : Ledger) (s : HandlerSet) (id serial : Nat) :
    (l.addAll (s.replaceDeeds id serial)).rounds = l.rounds := by
  unfold HandlerSet.replaceDeeds
  split <;> rfl

/-! ### The set and the ledger -/

/-- What is written down of the ids, and the handlers of the set are those that
are present. -/
structure Fits (l : Ledger) (s : HandlerSet) : Prop where
  /-- No id is handed out again. -/
  increasing : l.handedOut.Pairwise (· < ·)
  handedOut : ∀ id ∈ l.handedOut, id ≤ s.lastId
  takenOut : ∀ id ∈ l.takenOut, id ≤ s.lastId
  held : ∀ id ∈ l.handedOut, (l.holder? id).isSome = true
  present : s.attachments = l.present

/-- Before anything is heard, the set is empty. -/
theorem fits_empty : empty.Fits .empty where
  increasing := List.Pairwise.nil
  handedOut := fun _ mem => absurd mem List.not_mem_nil
  takenOut := fun _ mem => absurd mem List.not_mem_nil
  held := fun _ mem => absurd mem List.not_mem_nil
  present := rfl

/-- Only ids that were handed out are known. -/
theorem Fits.mem_handedOut (fits : l.Fits s) (known : s.contains id = true) :
    id ∈ l.handedOut := by
  obtain ⟨a, mem, rfl⟩ := HandlerSet.contains_iff.1 known
  rw [fits.present] at mem
  obtain ⟨id, isOut, seat⟩ := List.mem_filterMap.1 mem
  rwa [id_of_seat? seat]

/-- A handler that is attached gets an id above all others, so it comes last among
those that are present. -/
theorem Fits.attach (fits : l.Fits s) (serial : Nat) :
    (l.add (.attached ⟨s.lastId + 1, serial⟩)).Fits (s.attach serial) where
  increasing := by
    refine List.pairwise_append.2 ⟨fits.increasing, List.pairwise_singleton _ _, ?_⟩
    intro old mem new isNew
    rw [List.mem_singleton.1 isNew]
    exact Nat.lt_succ_of_le (fits.handedOut old mem)
  handedOut := by
    refine List.forall_mem_append.2 ⟨fun id mem => Nat.le_succ_of_le (fits.handedOut id mem), ?_⟩
    rw [List.forall_mem_singleton]
    exact Nat.le_refl _
  takenOut := fun id mem => Nat.le_succ_of_le (fits.takenOut id mem)
  held := by
    intro id mem
    show ((l.give ⟨s.lastId + 1, serial⟩).holder? id).isSome = true
    rw [holder?_give]
    split
    · rfl
    · rename_i old
      rcases List.mem_append.1 mem with mem | isNew
      · exact fits.held id mem
      · exact absurd (List.mem_singleton.1 isNew).symm old
  present := by
    -- The others keep their seats, as the new id is none of theirs, and the new one
    -- has not been taken out, as every id that was is smaller.
    have others : ∀ id ∈ l.handedOut, (l.give ⟨s.lastId + 1, serial⟩).seat? id = l.seat? id := by
      intro id mem
      have le := fits.handedOut id mem
      exact seat?_give_other (by show s.lastId + 1 ≠ id; omega)
    have own : (l.give ⟨s.lastId + 1, serial⟩).seat? (s.lastId + 1) =
        some ⟨s.lastId + 1, serial⟩ := by
      have inSet : s.lastId + 1 ∉ (l.give ⟨s.lastId + 1, serial⟩).takenOut := fun mem =>
        Nat.not_succ_le_self _ (fits.takenOut _ mem)
      unfold seat?
      rw [if_neg inSet, holder?_give, if_pos rfl]
    show s.attachments ++ [_] =
      (l.handedOut ++ [s.lastId + 1]).filterMap (l.give ⟨s.lastId + 1, serial⟩).seat?
    rw [List.filterMap_append, List.filterMap_congr others, List.filterMap_cons_some own,
      fits.present]
    rfl

/-- A handler that is detached is present no more. -/
theorem Fits.detach (fits : l.Fits s) (id : Nat) :
    (l.addAll (s.detachDeeds id)).Fits (s.detach id) := by
  unfold HandlerSet.detachDeeds
  split
  · rename_i known
    exact
      { increasing := fits.increasing
        handedOut := fits.handedOut
        takenOut := List.forall_mem_cons.2
          ⟨fits.handedOut id (fits.mem_handedOut known), fits.takenOut⟩
        held := fits.held
        present := by
          show s.attachments.filter _ = l.handedOut.filterMap (l.take id).seat?
          rw [fits.present]
          unfold Ledger.present
          rw [List.filter_filterMap]
          exact List.filterMap_congr fun other _ => (seat?_take l id other).symm }
  · rename_i unknown
    rw [HandlerSet.detach_of_unknown unknown]
    exact fits

/-- A handler that is replaced has its place taken by another one. -/
theorem Fits.replace (fits : l.Fits s) (id serial : Nat) :
    (l.addAll (s.replaceDeeds id serial)).Fits (s.replace id serial) := by
  unfold HandlerSet.replaceDeeds
  split
  · rename_i known
    exact
      { increasing := fits.increasing
        handedOut := fits.handedOut
        takenOut := fits.takenOut
        held := by
          intro other mem
          show ((l.give ⟨id, serial⟩).holder? other).isSome = true
          rw [holder?_give]
          split
          · rfl
          · exact fits.held other mem
        present := by
          show s.attachments.map _ = l.handedOut.filterMap (l.give ⟨id, serial⟩).seat?
          rw [fits.present]
          unfold Ledger.present
          rw [List.map_filterMap]
          exact List.filterMap_congr fun other mem =>
            (seat?_give l id serial (fits.held other mem)).symm }
  · rename_i unknown
    rw [HandlerSet.replace_of_unknown unknown]
    exact fits

/-- A dispatch that begins leaves the set alone. -/
theorem Fits.begun (fits : l.Fits s) (event : Event StateChange) :
    (l.add (.begun event)).Fits s :=
  ⟨fits.increasing, fits.handedOut, fits.takenOut, fits.held, fits.present⟩

/-- So does a dispatch that evaluates a handler. -/
theorem Fits.evaluated (fits : l.Fits s) (a : Attachment) : (l.add (.evaluated a)).Fits s :=
  ⟨fits.increasing, fits.handedOut, fits.takenOut, fits.held, fits.present⟩

/-- So does a report. -/
theorem Fits.closed (fits : l.Fits s) (report : DispatchReport) : (l.add (.closed report)).Fits s :=
  ⟨fits.increasing, fits.handedOut, fits.takenOut, fits.held, fits.present⟩

end Ledger

end HubAutomation
