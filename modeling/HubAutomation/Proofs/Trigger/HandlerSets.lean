import HubAutomation.Trigger.HandlerSet
import Mathlib.Data.List.Nodup

/-!
# Sets of handlers

Attaching, detaching and replacing keep ids and handlers of a set apart, and a
handler that was taken out of the set does not come back under another id.

- `HandlerSet.Sound`: ids and handlers occur once.
- `Sound.attach`, `Sound.detach`, `Sound.replace`: what keeps a set sound.
- `Sound.not_holds_detach`, `Sound.not_holds_replace`: who is taken out is out.
-/

namespace HubAutomation

namespace HandlerSet

variable {s : HandlerSet} {id serial handlers : Nat} {a : Attachment}

/-- Ids and handlers occur once, and there are such handlers. -/
structure Sound (s : HandlerSet) (handlers : Nat) : Prop where
  ids : (s.attachments.map Attachment.id).Nodup
  handedOut : ∀ a ∈ s.attachments, a.id ≤ s.lastId
  serials : (s.attachments.map Attachment.serial).Nodup
  known : ∀ a ∈ s.attachments, a.serial < handlers

/-- A handler is out of the set if nobody in it is that handler. -/
theorem holds_eq_false : s.holds serial = false ↔ ∀ a ∈ s.attachments, a.serial ≠ serial := by
  unfold holds
  rw [List.any_eq_false]
  simp

theorem find?_eq_some (h : s.find? id = some a) : a ∈ s.attachments ∧ a.id = id := by
  unfold find? at h
  exact ⟨List.mem_of_find?_eq_some h, by simpa using List.find?_some h⟩

/-- A handler that is attached gets a new id. -/
theorem Sound.attach (sound : s.Sound handlers) : (s.attach handlers).Sound (handlers + 1) where
  ids := by
    show ((s.attachments ++ [_]).map _).Nodup
    rw [List.map_append, List.nodup_append]
    refine ⟨sound.ids, List.nodup_singleton _, ?_⟩
    rintro id old _ new rfl
    obtain ⟨a, mem, rfl⟩ := List.mem_map.1 old
    have le := sound.handedOut a mem
    have isNew : a.id = s.lastId + 1 := List.mem_singleton.1 new
    omega
  handedOut := by
    refine List.forall_mem_append.2 ⟨fun a mem => Nat.le_succ_of_le (sound.handedOut a mem), ?_⟩
    simp [HandlerSet.attach]
  serials := by
    show ((s.attachments ++ [_]).map _).Nodup
    rw [List.map_append, List.nodup_append]
    refine ⟨sound.serials, List.nodup_singleton _, ?_⟩
    rintro serial old _ new rfl
    obtain ⟨a, mem, rfl⟩ := List.mem_map.1 old
    have lt := sound.known a mem
    have isNew : a.serial = handlers := List.mem_singleton.1 new
    omega
  known := by
    refine List.forall_mem_append.2 ⟨fun a mem => Nat.lt_succ_of_lt (sound.known a mem), ?_⟩
    simp

/-- A handler that is taken out leaves the others as they are. -/
theorem Sound.detach (sound : s.Sound handlers) (id : Nat) : (s.detach id).Sound handlers where
  ids := sound.ids.sublist (List.filter_sublist.map _)
  handedOut := fun a mem => sound.handedOut a (List.mem_of_mem_filter mem)
  serials := sound.serials.sublist (List.filter_sublist.map _)
  known := fun a mem => sound.known a (List.mem_of_mem_filter mem)

/-- Behind the id that is replaced stands the new handler. -/
theorem mem_replace {new : Nat} (h : a ∈ (s.replace id new).attachments) :
    a ∈ s.attachments ∧ a.id ≠ id ∨ a.id = id ∧ a.serial = new := by
  obtain ⟨b, mem, e⟩ := List.mem_map.1 h
  by_cases same : b.id = id
  · rw [if_pos same] at e
    rw [← e]
    exact .inr ⟨same, rfl⟩
  · rw [if_neg same] at e
    rw [← e]
    exact .inl ⟨mem, same⟩

theorem ids_replace (id new : Nat) :
    (s.replace id new).attachments.map Attachment.id = s.attachments.map Attachment.id := by
  show (s.attachments.map _).map _ = _
  rw [List.map_map]
  refine List.map_congr_left fun a _ => ?_
  show Attachment.id (if a.id = id then _ else a) = a.id
  split <;> rfl

/-- A handler that is replaced hands its id on. -/
theorem Sound.replace (sound : s.Sound handlers) (id : Nat) :
    (s.replace id handlers).Sound (handlers + 1) where
  ids := by
    rw [ids_replace]
    exact sound.ids
  handedOut := by
    intro a mem
    have isId : a.id ∈ s.attachments.map Attachment.id := by
      rw [← ids_replace id handlers]
      exact List.mem_map_of_mem mem
    obtain ⟨b, memB, same⟩ := List.mem_map.1 isId
    exact same ▸ sound.handedOut b memB
  serials := by
    have ids : (s.replace id handlers).attachments.Nodup := by
      refine List.Nodup.of_map Attachment.id ?_
      rw [ids_replace]
      exact sound.ids
    -- Two places with one handler are both new or both old; a new handler is none of
    -- the old ones.
    refine ids.map_on fun a memA b memB same => ?_
    rcases mem_replace memA with ⟨oldA, -⟩ | ⟨idA, newA⟩
    · rcases mem_replace memB with ⟨oldB, -⟩ | ⟨-, newB⟩
      · exact List.inj_on_of_nodup_map sound.serials oldA oldB same
      · have lt := sound.known a oldA
        omega
    · rcases mem_replace memB with ⟨oldB, -⟩ | ⟨idB, newB⟩
      · have lt := sound.known b oldB
        omega
      · cases a
        cases b
        cases idA.trans idB.symm
        cases newA.trans newB.symm
        rfl
  known := by
    intro a mem
    rcases mem_replace mem with ⟨old, -⟩ | ⟨-, new⟩
    · exact Nat.lt_succ_of_lt (sound.known a old)
    · omega

theorem holds_attach (out : s.holds serial = false) (ne : serial ≠ handlers) :
    (s.attach handlers).holds serial = false := by
  rw [holds_eq_false] at out ⊢
  refine List.forall_mem_append.2 ⟨out, ?_⟩
  simpa using ne.symm

/-- Taking another id out brings nobody back. -/
theorem holds_detach (out : s.holds serial = false) (id : Nat) :
    (s.detach id).holds serial = false := by
  rw [holds_eq_false] at out ⊢
  exact fun a mem => out a (List.mem_of_mem_filter mem)

theorem holds_replace (out : s.holds serial = false) (id : Nat) (ne : serial ≠ handlers) :
    (s.replace id handlers).holds serial = false := by
  rw [holds_eq_false] at out ⊢
  intro a mem
  rcases mem_replace mem with ⟨old, -⟩ | ⟨-, new⟩
  · exact out a old
  · omega

/-- A handler whose id is taken out is out. -/
theorem Sound.not_holds_detach (sound : s.Sound handlers) (found : s.find? id = some a) :
    (s.detach id).holds a.serial = false := by
  obtain ⟨mem, isId⟩ := find?_eq_some found
  rw [holds_eq_false]
  intro b memB same
  obtain ⟨memB, other⟩ := List.mem_filter.1 memB
  obtain rfl : b = a := List.inj_on_of_nodup_map sound.serials memB mem same
  simp [isId] at other

/-- A handler whose place is given to another one is out. -/
theorem Sound.not_holds_replace (sound : s.Sound handlers) (found : s.find? id = some a) :
    (s.replace id handlers).holds a.serial = false := by
  obtain ⟨mem, isId⟩ := find?_eq_some found
  have lt := sound.known a mem
  rw [holds_eq_false]
  intro b memB same
  rcases mem_replace memB with ⟨old, other⟩ | ⟨-, new⟩
  · obtain rfl : b = a := List.inj_on_of_nodup_map sound.serials old mem same
    exact other isId
  · omega

end HandlerSet

end HubAutomation
