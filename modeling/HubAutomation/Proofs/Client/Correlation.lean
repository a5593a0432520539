import HubAutomation.Proofs.Client.CommandSteps
import Mathlib.Data.List.Nodup

/-!
# Correlation of commands

What ties the callers of a connection to the table of commands that wait and to
the outcomes that are parked. It holds after the handshake and every action
keeps it, so it holds at every moment of every run.

- `PendingCommands.Sound`: the table on its own.
- `Connection.Correlated`: the table, the parked outcomes and the callers.
- `Connection.Reachable.correlated`: it holds at every moment.
-/

namespace HubAutomation

namespace PendingCommands

variable {t : PendingCommands} {id : Nat}

/-- Every entry has a caller that waits for it, and an id of its own that was
given out. -/
structure Sound (t : PendingCommands) : Prop where
  waiting : t.callers = t.entries
  nodup : t.entries.Nodup
  lt : ∀ id ∈ t.entries, id < t.nextId

theorem sound_empty : empty.Sound := ⟨rfl, .nil, nofun⟩

theorem Sound.not_mem_nextId (h : t.Sound) : t.nextId ∉ t.entries :=
  fun hm => Nat.lt_irrefl _ (h.lt _ hm)

theorem Sound.register (h : t.Sound) : t.register.Sound where
  waiting := by simp [PendingCommands.register, h.waiting]
  nodup := by
    refine List.nodup_append.2 ⟨h.nodup, List.nodup_singleton _, fun i hi j hj e => ?_⟩
    rw [List.mem_singleton.1 hj] at e
    exact h.not_mem_nextId (e ▸ hi)
  lt := by
    intro id hm
    rcases List.mem_append.1 hm with hm | hm
    · exact Nat.lt_succ_of_lt (h.lt id hm)
    · rw [List.mem_singleton.1 hm]
      exact Nat.lt_succ_self _

theorem complete_of_mem (h : t.Sound) (hm : id ∈ t.entries) (outcome : Option (ClientResult Json)) :
    t.complete id outcome = (t.remove id, [⟨id, outcome⟩]) := by
  have hc : t.callers.contains id = true := by simpa [h.waiting] using hm
  have he : t.contains id = true := by simpa [contains] using hm
  rw [complete, if_pos he, completion, if_pos hc]

theorem complete_of_not_mem (hm : id ∉ t.entries) (outcome : Option (ClientResult Json)) :
    t.complete id outcome = (t, []) := by
  have he : ¬ t.contains id = true := by simpa [contains] using hm
  rw [complete, if_neg he]

theorem Sound.remove (h : t.Sound) (id : Nat) : (t.remove id).Sound where
  waiting := by simp [PendingCommands.remove, h.waiting]
  nodup := h.nodup.erase id
  lt := fun i hm => h.lt i (List.mem_of_mem_erase hm)

theorem Sound.complete (h : t.Sound) (id : Nat) (outcome : Option (ClientResult Json)) :
    (t.complete id outcome).1.Sound := by
  by_cases hm : id ∈ t.entries
  · rw [complete_of_mem h hm]
    exact h.remove id
  · rw [complete_of_not_mem hm]
    exact h

theorem mem_entries_complete (h : t.Sound) {i : Nat} (outcome : Option (ClientResult Json)) :
    i ∈ (t.complete id outcome).1.entries ↔ i ∈ t.entries ∧ i ≠ id := by
  by_cases hm : id ∈ t.entries
  · rw [complete_of_mem h hm]
    simp [PendingCommands.remove, h.nodup.mem_erase_iff, and_comm]
  · rw [complete_of_not_mem hm]
    exact ⟨fun hi => ⟨hi, fun e => hm (e ▸ hi)⟩, And.left⟩

theorem Sound.failAll (h : t.Sound) (reason : String) : (t.failAll reason).1.Sound where
  waiting := by simp [PendingCommands.failAll, h.waiting, contains]
  nodup := .nil
  lt := nofun

theorem completions_failAll (h : t.Sound) (reason : String) :
    (t.failAll reason).2 = t.entries.map fun id => ⟨id, some (.error (.connectionLost reason))⟩ := by
  have each : ∀ id ∈ t.entries, t.completion id (some (.error (.connectionLost reason))) =
      [⟨id, some (.error (.connectionLost reason))⟩] := by
    intro id hm
    rw [completion, if_pos (by simpa [h.waiting] using hm)]
  show (t.entries.flatMap fun id => t.completion id _) = _
  rw [List.flatMap_congr each, ← List.map_eq_flatMap]

end PendingCommands

namespace Connection

variable {c c' : Connection} {n m id : Nat}

/-! ### The invariant -/

/-- The table, the parked outcomes and the callers belong together. -/
structure Correlated (c : Connection) : Prop where
  table : c.commands.Sound
  /-- A parked outcome belongs to one command, which no longer waits. -/
  parked_lt : ∀ p ∈ c.outcomes, p.1 < c.commands.nextId
  parked_nodup : (c.outcomes.map Prod.fst).Nodup
  parked_gone : ∀ p ∈ c.outcomes, p.1 ∉ c.commands.entries
  /-- Nothing waits once the connection is down. -/
  down : c.connected = false → c.commands.entries = []
  /-- Ids were given out, to one caller each. -/
  given : ∀ n id, c.commandOf n = some id → id < c.commands.nextId
  given_once : ∀ n m id, c.commandOf n = some id → c.commandOf m = some id → n = m
  /-- What a caller waits for is in the table or parked. -/
  known : ∀ n id, c.commandOf n = some id →
    id ∈ c.commands.entries ∨ ∃ outcome, (id, outcome) ∈ c.outcomes
  /-- What is in the table, a caller waits for. -/
  owned : ∀ id ∈ c.commands.entries, ∃ n, c.commandOf n = some id

theorem correlated_start (capacity : Nat) (broken : Option String) :
    (start capacity broken).Correlated where
  table := PendingCommands.sound_empty
  parked_lt := nofun
  parked_nodup := .nil
  parked_gone := nofun
  down := nofun
  given := nofun
  given_once := nofun
  known := nofun
  owned := nofun

/-- One outcome is parked for a command. -/
theorem Correlated.parked_unique {o o' : ClientResult Json} (h : c.Correlated)
    (hm : (id, o) ∈ c.outcomes) (hm' : (id, o') ∈ c.outcomes) : o = o' := by
  have same := List.inj_on_of_nodup_map h.parked_nodup hm hm' rfl
  exact congrArg Prod.snd same

/-- An invariant of commands depends on nothing else. -/
theorem Correlated.of_same (h : c.Correlated) (same : SameCommands c c')
    (callers : ∀ m, c'.commandOf m = c.commandOf m) : c'.Correlated where
  table := same.commands ▸ h.table
  parked_lt := by rw [same.outcomes, same.commands]; exact h.parked_lt
  parked_nodup := by rw [same.outcomes]; exact h.parked_nodup
  parked_gone := by rw [same.outcomes, same.commands]; exact h.parked_gone
  down := by rw [same.connected, same.commands]; exact h.down
  given := fun m id hm => by rw [same.commands]; exact h.given m id (callers m ▸ hm)
  given_once := fun n m id hn hm => h.given_once n m id (callers n ▸ hn) (callers m ▸ hm)
  known := fun m id hm => by
    rw [same.commands, same.outcomes]
    exact h.known m id (callers m ▸ hm)
  owned := fun id hid => by
    obtain ⟨m, hm⟩ := h.owned id (same.commands ▸ hid)
    exact ⟨m, (callers m).trans hm⟩

theorem outcomes_answer (h : c.Correlated) (id : Nat) (outcome : ClientResult Json) :
    (c.deliver (c.commands.complete id (some outcome))).outcomes =
      c.outcomes ++ if id ∈ c.commands.entries then [(id, outcome)] else [] := by
  by_cases hm : id ∈ c.commands.entries
  · rw [PendingCommands.complete_of_mem h.table hm, if_pos hm]
    rfl
  · rw [PendingCommands.complete_of_not_mem hm, if_neg hm]
    rfl

theorem outcomes_failAll (h : c.Correlated) (reason : String) :
    (c.deliver (c.commands.failAll reason)).outcomes =
      c.outcomes ++ c.commands.entries.map fun id => (id, .error (.connectionLost reason)) := by
  rw [deliver, PendingCommands.completions_failAll h.table]
  simp [List.filterMap_map]

/-- An answer moves a command from the table to the parked outcomes. -/
theorem Correlated.answer {outcome : ClientResult Json} (h : c.Correlated)
    (callers : ∀ m, c'.commandOf m = c.commandOf m)
    (commands : c'.commands = (c.commands.complete id (some outcome)).1)
    (outcomes : c'.outcomes = (c.deliver (c.commands.complete id (some outcome))).outcomes)
    (connected : c'.connected = c.connected) : c'.Correlated := by
  by_cases hm : id ∈ c.commands.entries
  case neg =>
    -- An answer that nobody waits for, or that comes a second time, does nothing.
    refine h.of_same ⟨?_, ?_, connected⟩ callers
    · rw [commands, PendingCommands.complete_of_not_mem hm]
    · rw [outcomes, outcomes_answer h, if_neg hm, List.append_nil]
  case pos =>
    rw [outcomes_answer h, if_pos hm] at outcomes
    have entries : ∀ i, i ∈ c'.commands.entries ↔ i ∈ c.commands.entries ∧ i ≠ id := fun i => by
      rw [commands, PendingCommands.mem_entries_complete h.table]
    have nextId : c'.commands.nextId = c.commands.nextId := by
      rw [commands, PendingCommands.nextId_complete]
    have parked : ∀ p, p ∈ c'.outcomes ↔ p ∈ c.outcomes ∨ p = (id, outcome) := fun p => by
      rw [outcomes, List.mem_append, List.mem_singleton]
    refine ⟨commands ▸ h.table.complete id _, ?_, ?_, ?_, ?_, ?_, ?_, ?_, ?_⟩
    · intro p hp
      rw [nextId]
      rcases (parked p).1 hp with hp | rfl
      · exact h.parked_lt p hp
      · exact h.table.lt id hm
    · rw [outcomes, List.map_append]
      refine List.nodup_append.2 ⟨h.parked_nodup, List.nodup_singleton _, ?_⟩
      intro a ha b hb e
      -- What waited in the table had nothing parked for it.
      obtain ⟨p, hp, rfl⟩ := List.mem_map.1 ha
      exact h.parked_gone p hp (by rw [e, List.mem_singleton.1 hb]; exact hm)
    · intro p hp hin
      obtain ⟨hin, hne⟩ := (entries p.1).1 hin
      rcases (parked p).1 hp with hp | rfl
      · exact h.parked_gone p hp hin
      · exact hne rfl
    · intro hd
      refine List.eq_nil_iff_forall_not_mem.2 fun i hi => ?_
      have := h.down (connected ▸ hd)
      exact List.not_mem_nil (this ▸ ((entries i).1 hi).1)
    · intro m i hi
      rw [nextId]
      exact h.given m i (callers m ▸ hi)
    · intro n m i hn hm
      exact h.given_once n m i (callers n ▸ hn) (callers m ▸ hm)
    · intro m i hi
      rcases h.known m i (callers m ▸ hi) with hin | ⟨o, ho⟩
      · by_cases e : i = id
        · subst e
          exact .inr ⟨outcome, (parked _).2 (.inr rfl)⟩
        · exact .inl ((entries i).2 ⟨hin, e⟩)
      · exact .inr ⟨o, (parked _).2 (.inl ho)⟩
    · intro i hi
      obtain ⟨m, hm⟩ := h.owned i ((entries i).1 hi).1
      exact ⟨m, (callers m).trans hm⟩

/-- When the connection goes down, every command moves to the parked outcomes. -/
theorem Correlated.failAll {reason : String} (h : c.Correlated)
    (callers : ∀ m, c'.commandOf m = c.commandOf m)
    (commands : c'.commands = (c.commands.failAll reason).1)
    (outcomes : c'.outcomes = (c.deliver (c.commands.failAll reason)).outcomes) :
    c'.Correlated := by
  rw [outcomes_failAll h] at outcomes
  have entries : c'.commands.entries = [] := by rw [commands]; rfl
  have nextId : c'.commands.nextId = c.commands.nextId := by rw [commands]; rfl
  -- Every command that was pending has its outcome now.
  have parked : ∀ p, p ∈ c'.outcomes ↔
      p ∈ c.outcomes ∨ ∃ i ∈ c.commands.entries, (i, .error (.connectionLost reason)) = p :=
    fun p => by rw [outcomes, List.mem_append, List.mem_map]
  refine ⟨commands ▸ h.table.failAll reason, ?_, ?_, ?_, fun _ => entries, ?_, ?_, ?_, ?_⟩
  · intro p hp
    rw [nextId]
    rcases (parked p).1 hp with hp | ⟨i, hi, rfl⟩
    · exact h.parked_lt p hp
    · exact h.table.lt i hi
  · rw [outcomes, List.map_append, List.map_map]
    refine List.nodup_append.2 ⟨h.parked_nodup, ?_, ?_⟩
    · simpa [Function.comp_def] using h.table.nodup
    · intro a ha b hb e
      obtain ⟨p, hp, rfl⟩ := List.mem_map.1 ha
      obtain ⟨i, hi, rfl⟩ := List.mem_map.1 hb
      exact h.parked_gone p hp (e ▸ hi)
  · intro p _ hin
    rw [entries] at hin
    exact List.not_mem_nil hin
  · intro m i hi
    rw [nextId]
    exact h.given m i (callers m ▸ hi)
  · intro n m i hn hm
    exact h.given_once n m i (callers n ▸ hn) (callers m ▸ hm)
  · intro m i hi
    rcases h.known m i (callers m ▸ hi) with hin | ⟨o, ho⟩
    · exact .inr ⟨_, (parked _).2 (.inr ⟨i, hin, rfl⟩)⟩
    · exact .inr ⟨o, (parked _).2 (.inl ho)⟩
  · intro i hi
    rw [entries] at hi
    exact absurd hi List.not_mem_nil

/-- A caller gets the next id. -/
theorem Correlated.issue {s : CallerState} {command : Command} {purpose : Purpose}
    (h : c.Correlated) (at_ : c.callers[n]? = some s) (before : s.id? = none)
    (callers : c'.callers = c.callers.set n (.sending c.commands.nextId command purpose))
    (connected' : c'.connected = true) (commands : c'.commands = c.commands.register)
    (outcomes : c'.outcomes = c.outcomes) : c'.Correlated := by
  have given : ∀ m, c'.commandOf m =
      if m = n then some c.commands.nextId else c.commandOf m := commandOf_set at_ callers
  have none_n : c.commandOf n = none := (commandOf_of_caller at_).trans before
  have nextId : c'.commands.nextId = c.commands.nextId + 1 := by rw [commands]; rfl
  have entries : ∀ i, i ∈ c'.commands.entries ↔ i ∈ c.commands.entries ∨ i = c.commands.nextId :=
    fun i => by rw [commands, PendingCommands.register, List.mem_append, List.mem_singleton]
  -- An id that was given before is below the new one.
  have old : ∀ m i, m ≠ n → c'.commandOf m = some i → c.commandOf m = some i := by
    intro m i hm hi
    rwa [given, if_neg hm] at hi
  refine ⟨commands ▸ h.table.register, ?_, outcomes ▸ h.parked_nodup, ?_, ?_, ?_, ?_, ?_, ?_⟩
  · intro p hp
    rw [nextId]
    exact Nat.lt_succ_of_lt (h.parked_lt p (outcomes ▸ hp))
  · intro p hp hin
    rw [outcomes] at hp
    rcases (entries p.1).1 hin with hin | hin
    · exact h.parked_gone p hp hin
    · have := h.parked_lt p hp
      omega
  · intro hd
    rw [connected'] at hd
    cases hd
  · intro m i hi
    rw [nextId]
    by_cases e : m = n
    · rw [given, if_pos e] at hi
      cases hi
      exact Nat.lt_succ_self _
    · exact Nat.lt_succ_of_lt (h.given m i (old m i e hi))
  · intro a b i ha hb
    -- Of two callers with one id neither is the new one, or both are.
    by_cases ea : a = n <;> by_cases eb : b = n
    · rw [ea, eb]
    · rw [given, if_pos ea] at ha
      cases ha
      exact absurd (h.given b _ (old b _ eb hb)) (Nat.lt_irrefl _)
    · rw [given, if_pos eb] at hb
      cases hb
      exact absurd (h.given a _ (old a _ ea ha)) (Nat.lt_irrefl _)
    · exact h.given_once a b i (old a i ea ha) (old b i eb hb)
  · intro m i hi
    by_cases e : m = n
    · rw [given, if_pos e] at hi
      cases hi
      exact .inl ((entries _).2 (.inr rfl))
    · rcases h.known m i (old m i e hi) with hin | ⟨o, ho⟩
      · exact .inl ((entries i).2 (.inl hin))
      · exact .inr ⟨o, outcomes ▸ ho⟩
  · intro i hi
    rcases (entries i).1 hi with hi | rfl
    · obtain ⟨m, hm⟩ := h.owned i hi
      refine ⟨m, ?_⟩
      rw [given, if_neg (fun e => ?_)]
      · exact hm
      · rw [e, none_n] at hm
        cases hm
    · exact ⟨n, by rw [given, if_pos rfl]⟩

/-- The id of a command that its caller gives up is nobody's. -/
theorem Correlated.gone {s s' : CallerState} (h : c.Correlated) (at_ : c.callers[n]? = some s)
    (before : s.id? = some id) (after : s'.id? = none) (callers : c'.callers = c.callers.set n s')
    (m : Nat) : c'.commandOf m ≠ some id := by
  intro hm
  rw [commandOf_set at_ callers] at hm
  split at hm
  · rw [after] at hm
    cases hm
  · exact ‹m ≠ n› (h.given_once m n id hm ((commandOf_of_caller at_).trans before))

/-- A caller gives its command up. Its id goes with it. -/
theorem Correlated.leave {s s' : CallerState} (h : c.Correlated) (at_ : c.callers[n]? = some s)
    (before : s.id? = some id) (after : s'.id? = none) (callers : c'.callers = c.callers.set n s')
    (table : c'.commands.Sound) (nextId : c'.commands.nextId = c.commands.nextId)
    (entries : ∀ i, i ∈ c'.commands.entries → i ∈ c.commands.entries ∧ i ≠ id)
    (entries' : ∀ i, i ∈ c.commands.entries → i ≠ id → i ∈ c'.commands.entries)
    (parked : ∀ p ∈ c'.outcomes, p ∈ c.outcomes)
    (parked' : ∀ p ∈ c.outcomes, p.1 ≠ id → p ∈ c'.outcomes)
    (nodup : (c'.outcomes.map Prod.fst).Nodup)
    (connected : c'.connected = c.connected) : c'.Correlated := by
  -- No other caller's id changes.
  have of : ∀ m i, c'.commandOf m = some i → c.commandOf m = some i := by
    intro m i hi
    rw [commandOf_set at_ callers, after] at hi
    split at hi
    · cases hi
    · exact hi
  have mine : c.commandOf n = some id := (commandOf_of_caller at_).trans before
  refine ⟨table, ?_, nodup, ?_, ?_, ?_, ?_, ?_, ?_⟩
  · intro p hp
    rw [nextId]
    exact h.parked_lt p (parked p hp)
  · intro p hp hin
    exact h.parked_gone p (parked p hp) (entries p.1 hin).1
  · intro hd
    refine List.eq_nil_iff_forall_not_mem.2 fun i hi => ?_
    exact List.not_mem_nil (h.down (connected ▸ hd) ▸ (entries i hi).1)
  · intro m i hi
    rw [nextId]
    exact h.given m i (of m i hi)
  · intro a b i ha hb
    exact h.given_once a b i (of a i ha) (of b i hb)
  · intro m i hi
    have other : i ≠ id := fun e => h.gone at_ before after callers m (e ▸ hi)
    rcases h.known m i (of m i hi) with hin | ⟨o, ho⟩
    · exact .inl (entries' i hin other)
    · exact .inr ⟨o, parked' _ ho other⟩
  · intro i hi
    obtain ⟨hi, hne⟩ := entries i hi
    obtain ⟨m, hm⟩ := h.owned i hi
    refine ⟨m, ?_⟩
    rw [commandOf_set at_ callers, if_neg (fun e => ?_)]
    · exact hm
    · rw [e, mine] at hm
      cases hm
      exact hne rfl

theorem Correlated.turn (h : c.Correlated) (t : CommandTurn c n c') : c'.Correlated := by
  cases t with
  | aside s s' at_ open_ callers before after unchanged messages =>
    refine h.of_same unchanged fun m => ?_
    rw [commandOf_set at_ callers]
    split
    · subst ‹m = n›
      rw [after, commandOf_of_caller at_, before]
    · rfl
  | issued s command purpose at_ open_ before starts callers connected connected'
      commands outcomes _ =>
    exact h.issue at_ before callers connected' commands outcomes
  | stranded id command purpose reason at_ callers commands outcomes connected messages =>
    have entries : ∀ i, i ∈ c'.commands.entries ↔ i ∈ c.commands.entries ∧ i ≠ id := fun i => by
      rw [commands, PendingCommands.forget, PendingCommands.mem_entries_complete h.table]
    refine h.leave at_ rfl rfl callers (commands ▸ h.table.complete id none) ?_
      (fun i => (entries i).1) (fun i hi e => (entries i).2 ⟨hi, e⟩) (fun p hp => outcomes ▸ hp)
      (fun p hp _ => outcomes ▸ hp) (outcomes ▸ h.parked_nodup) connected
    rw [commands, PendingCommands.forget, PendingCommands.nextId_complete]
  | queued id command purpose at_ callers unchanged messages =>
    refine h.of_same unchanged fun m => ?_
    rw [commandOf_set at_ callers]
    split
    · subst ‹m = n›
      rw [commandOf_of_caller at_]
      rfl
    · rfl
  | answered id purpose outcome at_ parked callers commands outcomes connected messages =>
    -- The id left the table when the outcome was parked; now it leaves that, too.
    have gone : id ∉ c.commands.entries := h.parked_gone _ parked
    have kept : ∀ p, p ∈ c'.outcomes ↔ p ∈ c.outcomes ∧ p.1 ≠ id := fun p => by
      rw [outcomes, List.mem_filter, decide_eq_true_iff]
    refine h.leave at_ rfl rfl callers (commands ▸ h.table) (by rw [commands])
      (fun i hi => ?_) (fun i hi _ => commands ▸ hi) (fun p hp => ((kept p).1 hp).1)
      (fun p hp e => (kept p).2 ⟨hp, e⟩) ?_ connected
    · rw [commands] at hi
      exact ⟨hi, fun e => gone (e ▸ hi)⟩
    · rw [outcomes]
      exact h.parked_nodup.sublist (List.filter_sublist.map _)
  | closed at_ callers commands outcomes down messages =>
    refine h.failAll (fun m => ?_) commands outcomes
    rw [commandOf_set at_ callers]
    split
    · subst ‹m = n›
      rw [commandOf_of_caller at_]
      rfl
    · rfl

theorem Correlated.event {a : Action} (h : c.Correlated) (e : CommandEvent c a c') :
    c'.Correlated := by
  cases e with
  | quiet silent callers unchanged messages =>
    obtain ⟨new, callers, ready⟩ := callers
    exact h.of_same unchanged (commandOf_append callers ready)
  | answer id outcome mine other callers commands outcomes connected messages =>
    exact h.answer (fun m => by rw [commandOf, commandOf, callers]) commands outcomes connected
  | down silent callers commands outcomes down messages =>
    exact h.failAll (fun m => by rw [commandOf, commandOf, callers]) commands outcomes

theorem Correlated.act (h : c.Correlated) (a : Action) : (c.act a).Correlated := by
  rcases (c.act_step a).commands with ⟨n, -, t⟩ | e
  · exact h.turn t
  · exact h.event e

/-- The callers, the table and the parked outcomes belong together at every
moment of every run. -/
theorem Reachable.correlated (h : c.Reachable) : c.Correlated :=
  h.induction correlated_start fun _ a _ h => h.act a

end Connection

end HubAutomation
