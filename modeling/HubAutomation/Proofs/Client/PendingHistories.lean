import HubAutomation.Proofs.Client.Correlation

/-!
# Histories of pending commands

What the table holds and what its callers got is settled by the operations that
were performed, whatever their order. An id is open from its registration until
the first operation that ends it; that operation completes it, and nothing does
so a second time.

- `PendingCommands.Operation.Gives`: what an operation completes an id with.
- `PendingCommands.Open`: an id that is registered and not yet done with.
- `PendingCommands.Follows`: what holds after some operations, and is kept by
  each.
- `PendingCommands.settled_by_history`: entries, answers and completions.
-/

namespace HubAutomation

namespace PendingCommands

variable {t : PendingCommands} {ops : List Operation} {op : Operation} {done : List Completion}
  {id : Nat} {outcome : Option (ClientResult Json)}

/-! ### Histories -/

/-- One operation after the other, with all completions. -/
def performAll (t : PendingCommands) : List Operation → PendingCommands × List Completion
  | [] => (t, [])
  | op :: ops =>
    let rest := (t.perform op).table.performAll ops
    (rest.1, (t.perform op).completions ++ rest.2)

/-- What an operation completes an id with, if the id is open. -/
inductive Operation.Gives : Operation → Nat → Option (ClientResult Json) → Prop where
  | result (frame : CommandResult) (success : frame.success = true) :
    Gives (.resolve frame) frame.id (some (.ok (frame.result.getD .null)))
  | refusal (frame : CommandResult) (success : frame.success = false) :
    Gives (.resolve frame) frame.id (some (.error (.command (frame.error.getD ⟨"", ""⟩))))
  | pong (id : Nat) : Gives (.resolvePong id) id (some (.ok .null))
  /-- The caller gets nothing. -/
  | forget (id : Nat) : Gives (.forget id) id none
  | failAll (reason : String) (id : Nat) :
    Gives (.failAll reason) id (some (.error (.connectionLost reason)))

/-- An operation after which an id is no longer open. -/
def Operation.Ends (op : Operation) (id : Nat) : Prop := ∃ outcome, op.Gives id outcome

def Operation.isRegister : Operation → Bool
  | .register => true
  | _ => false

/-- How many ids were given out. -/
def registered (ops : List Operation) : Nat := ops.countP Operation.isRegister

/-- The `n`-th registration has the id `n`, and no operation since has ended it. -/
def Open (ops : List Operation) (id : Nat) : Prop :=
  ∃ before after, ops = before ++ .register :: after ∧ id = registered before + 1 ∧
    ∀ op ∈ after, ¬ op.Ends id

/-- A completion by the first operation that ends an open id. -/
def Concluded (ops : List Operation) (c : Completion) : Prop :=
  ∃ before op after, ops = before ++ op :: after ∧ Open before c.id ∧ op.Gives c.id c.outcome

/-- Each registration counts. -/
theorem registered_concat (ops : List Operation) (op : Operation) :
    registered (ops ++ [op]) = registered ops + if op.isRegister then 1 else 0 := by
  unfold registered
  rw [List.countP_append, List.countP_singleton]

/-- A place in a history with one more entry is its end, or in what was there
before. -/
theorem append_cons_concat_cases {α : Type} {xs before after : List α} {x y : α}
    (same : xs ++ [x] = before ++ y :: after) :
    before = xs ∧ y = x ∧ after = [] ∨
      ∃ after', after = after' ++ [x] ∧ xs = before ++ y :: after' := by
  rcases List.eq_nil_or_concat after with rfl | ⟨after', z, rfl⟩
  · obtain ⟨rfl, last⟩ := List.append_inj' same rfl
    exact .inl ⟨rfl, (List.cons.inj last).1.symm, rfl⟩
  · rw [List.concat_eq_append, ← List.cons_append, ← List.append_assoc] at same
    rw [List.concat_eq_append]
    obtain ⟨rfl, last⟩ := List.append_inj' same rfl
    obtain rfl := (List.cons.inj last).1
    exact .inr ⟨after', rfl, rfl⟩

theorem not_open_nil : ¬ Open [] id := by
  rintro ⟨before, after, same, -⟩
  exact List.append_ne_nil_of_right_ne_nil before (List.cons_ne_nil _ _) same.symm

/-- An id stays open unless it is ended; a registration opens the next one. -/
theorem open_concat_iff : Open (ops ++ [op]) id ↔
    Open ops id ∧ ¬ op.Ends id ∨ op = .register ∧ id = registered ops + 1 := by
  constructor
  · rintro ⟨before, after, same, isId, kept⟩
    -- The registration is the last operation, or it stands before it.
    rcases append_cons_concat_cases same with ⟨rfl, isOp, rfl⟩ | ⟨after, rfl, rfl⟩
    · exact .inr ⟨isOp.symm, isId⟩
    · have last : op ∈ after ++ [op] := List.mem_append_right _ List.mem_cons_self
      exact .inl ⟨⟨before, after, rfl, isId, fun op mem => kept op (List.mem_append_left _ mem)⟩,
        kept op last⟩
  · rintro (⟨⟨before, after, rfl, isId, kept⟩, goesOn⟩ | ⟨rfl, isId⟩)
    · refine ⟨before, after ++ [op], by simp, isId, fun op' mem => ?_⟩
      rcases List.mem_append.1 mem with mem | mem
      · exact kept op' mem
      · rwa [List.mem_singleton.1 mem]
    · exact ⟨ops, [], rfl, isId, List.forall_mem_nil _⟩

/-- A command was concluded before the last operation or by it. -/
theorem concluded_concat_iff {c : Completion} : Concluded (ops ++ [op]) c ↔
    Concluded ops c ∨ Open ops c.id ∧ op.Gives c.id c.outcome := by
  constructor
  · rintro ⟨before, op', after, same, isOpen, gives⟩
    rcases append_cons_concat_cases same with ⟨rfl, rfl, rfl⟩ | ⟨after, rfl, rfl⟩
    · exact .inr ⟨isOpen, gives⟩
    · exact .inl ⟨before, op', after, rfl, isOpen, gives⟩
  · rintro (⟨before, op', after, rfl, isOpen, gives⟩ | ⟨isOpen, gives⟩)
    · exact ⟨before, op', after ++ [op], by simp, isOpen, gives⟩
    · exact ⟨ops, op, [], rfl, isOpen, gives⟩

theorem not_concluded_nil {c : Completion} : ¬ Concluded [] c := by
  rintro ⟨before, op, after, same, -⟩
  exact List.append_ne_nil_of_right_ne_nil before (List.cons_ne_nil _ _) same.symm

/-! ### What one operation does -/

/-- An operation for the entry of one id. -/
structure Operation.Aims (op : Operation) (id : Nat) (outcome : Option (ClientResult Json)) :
    Prop where
  isRegister : op.isRegister = false
  gives : ∀ i o, op.Gives i o ↔ i = id ∧ o = outcome
  table : ∀ t : PendingCommands, (t.perform op).table = (t.complete id outcome).1
  completions : ∀ t : PendingCommands, (t.perform op).completions = (t.complete id outcome).2

/-- What a caller is told by a result. -/
def told (frame : CommandResult) : ClientResult Json :=
  if frame.success then .ok (frame.result.getD .null)
  else .error (.command (frame.error.getD ⟨"", ""⟩))

theorem mapError_outcome (frame : CommandResult) :
    frame.outcome.mapError ClientError.command = told frame := by
  unfold CommandResult.outcome told
  split <;> rfl

/-- A result is for the command that it names. -/
theorem aims_resolve (frame : CommandResult) :
    (Operation.resolve frame).Aims frame.id (some (told frame)) where
  isRegister := rfl
  gives i o := by
    constructor
    · intro gives
      unfold told
      cases gives with
      | result _ success => exact ⟨rfl, by rw [if_pos success]⟩
      | refusal _ success => exact ⟨rfl, by rw [if_neg (Bool.eq_false_iff.1 success)]⟩
    · rintro ⟨rfl, rfl⟩
      unfold told
      split
      · exact .result frame ‹_›
      · exact .refusal frame (Bool.eq_false_iff.2 ‹_›)
  table t := by
    rw [← mapError_outcome]
    rfl
  completions t := by
    rw [← mapError_outcome]
    rfl

/-- A pong is for the command that it names. -/
theorem aims_resolvePong (id : Nat) : (Operation.resolvePong id).Aims id (some (.ok .null)) where
  isRegister := rfl
  gives i o := by
    constructor
    · rintro ⟨⟩
      exact ⟨rfl, rfl⟩
    · rintro ⟨rfl, rfl⟩
      exact .pong _
  table _ := rfl
  completions _ := rfl

/-- A command that is forgotten gets no answer. -/
theorem aims_forget (id : Nat) : (Operation.forget id).Aims id none where
  isRegister := rfl
  gives i o := by
    constructor
    · rintro ⟨⟩
      exact ⟨rfl, rfl⟩
    · rintro ⟨rfl, rfl⟩
      exact .forget _
  table _ := rfl
  completions _ := rfl

theorem Operation.Aims.ends_iff (aims : op.Aims id outcome) {i : Nat} : op.Ends i ↔ i = id := by
  unfold Operation.Ends
  simp only [aims.gives]
  exact ⟨fun ⟨_, same, _⟩ => same, fun same => ⟨outcome, same, rfl⟩⟩

/-- All commands get the same answer when the connection is lost. -/
theorem gives_failAll_iff {reason : String} : (Operation.failAll reason).Gives id outcome ↔
    outcome = some (.error (.connectionLost reason)) := by
  constructor
  · rintro ⟨⟩
    rfl
  · rintro rfl
    exact .failAll reason id

/-- Who is completed was pending. -/
theorem mem_completions_complete (h : t.Sound) {c : Completion} :
    c ∈ (t.complete id outcome).2 ↔ c.id ∈ t.entries ∧ c.id = id ∧ c.outcome = outcome := by
  by_cases mem : id ∈ t.entries
  · rw [complete_of_mem h mem, List.mem_singleton]
    constructor
    · rintro rfl
      exact ⟨mem, rfl, rfl⟩
    · rintro ⟨-, rfl, rfl⟩
      rfl
  · rw [complete_of_not_mem mem]
    refine iff_of_false List.not_mem_nil ?_
    rintro ⟨isEntry, rfl, -⟩
    exact mem isEntry

theorem nodup_completions_complete (h : t.Sound) :
    ((t.complete id outcome).2.map Completion.id).Nodup := by
  by_cases mem : id ∈ t.entries
  · rw [complete_of_mem h mem]
    exact List.nodup_singleton _
  · rw [complete_of_not_mem mem]
    exact .nil

/-! ### What some operations come to -/

/-- A table and the completions after some operations. -/
structure Follows (ops : List Operation) (t : PendingCommands) (done : List Completion) :
    Prop where
  sound : t.Sound
  nextId : t.nextId = registered ops + 1
  entries : ∀ id, id ∈ t.entries ↔ Open ops id
  completions : ∀ c, c ∈ done ↔ Concluded ops c
  nodup : (done.map Completion.id).Nodup
  /-- What was completed is not open, nor will it be. -/
  gone : ∀ c ∈ done, c.id < t.nextId ∧ c.id ∉ t.entries

theorem follows_empty : Follows [] empty [] where
  sound := sound_empty
  nextId := rfl
  entries _ := iff_of_false List.not_mem_nil not_open_nil
  completions _ := iff_of_false List.not_mem_nil not_concluded_nil
  nodup := .nil
  gone := nofun

/-- After a registration there is one id more that is open. -/
theorem Follows.register (h : Follows ops t done) :
    Follows (ops ++ [.register]) t.register done where
  sound := h.sound.register
  nextId := by
    rw [registered_concat, ← Nat.add_right_comm, ← h.nextId]
    rfl
  entries id := by
    have goesOn : ¬ Operation.Ends .register id := nofun
    rw [open_concat_iff, ← h.entries, and_iff_left goesOn, ← h.nextId, and_iff_right rfl]
    show id ∈ t.entries ++ [t.nextId] ↔ _
    rw [List.mem_append, List.mem_singleton]
  completions c := by
    have gives : ¬ (Open ops c.id ∧ Operation.register.Gives c.id c.outcome) := nofun
    rw [concluded_concat_iff, or_iff_left gives, h.completions]
  nodup := h.nodup
  gone c mem := by
    obtain ⟨below, notEntry⟩ := h.gone c mem
    refine ⟨Nat.lt_succ_of_lt below, fun isEntry => ?_⟩
    rcases List.mem_append.1 isEntry with isEntry | isEntry
    · exact notEntry isEntry
    · exact Nat.ne_of_lt below (List.mem_singleton.1 isEntry)

/-- The entries that an operation ends go away, and each is completed. -/
theorem Follows.conclude {t' : PendingCommands} {new : List Completion} (h : Follows ops t done)
    (isRegister : op.isRegister = false) (sound : t'.Sound) (nextId : t'.nextId = t.nextId)
    (entries : ∀ id, id ∈ t'.entries ↔ id ∈ t.entries ∧ ¬ op.Ends id)
    (completions : ∀ c, c ∈ new ↔ c.id ∈ t.entries ∧ op.Gives c.id c.outcome)
    (nodup : (new.map Completion.id).Nodup) : Follows (ops ++ [op]) t' (done ++ new) where
  sound := sound
  nextId := by
    rw [registered_concat, isRegister, nextId, h.nextId]
    rfl
  entries id := by
    have noOther : ¬ (op = .register ∧ id = registered ops + 1) := by
      rintro ⟨rfl, -⟩
      cases isRegister
    rw [open_concat_iff, or_iff_left noOther, ← h.entries, entries]
  completions c := by
    rw [List.mem_append, concluded_concat_iff, h.completions, completions, h.entries]
  nodup := by
    rw [List.map_append]
    -- What is completed now was an entry, and what was completed before is none.
    refine List.nodup_append.2 ⟨h.nodup, nodup, fun id old id' mem same => ?_⟩
    obtain ⟨c, isOld, rfl⟩ := List.mem_map.1 old
    obtain ⟨c', isNew, rfl⟩ := List.mem_map.1 mem
    exact (h.gone c isOld).2 (same ▸ ((completions c').1 isNew).1)
  gone c mem := by
    rw [nextId, entries]
    rcases List.mem_append.1 mem with old | new
    · exact ⟨(h.gone c old).1, fun isEntry => (h.gone c old).2 isEntry.1⟩
    · obtain ⟨isEntry, gives⟩ := (completions c).1 new
      exact ⟨h.sound.lt _ isEntry, fun stays => stays.2 ⟨_, gives⟩⟩

/-- After an operation for one command, only that one is concluded. -/
theorem Follows.aim (h : Follows ops t done) (aims : op.Aims id outcome) :
    Follows (ops ++ [op]) (t.perform op).table (done ++ (t.perform op).completions) := by
  rw [aims.table, aims.completions]
  refine h.conclude aims.isRegister (h.sound.complete id outcome) (nextId_complete ..)
    (fun i => ?_) (fun c => ?_) (nodup_completions_complete h.sound)
  · rw [mem_entries_complete h.sound, aims.ends_iff]
  · rw [mem_completions_complete h.sound, aims.gives]

/-- After the connection was lost, nothing is open. -/
theorem Follows.failAll (h : Follows ops t done) (reason : String) :
    Follows (ops ++ [.failAll reason]) (t.failAll reason).1 (done ++ (t.failAll reason).2) := by
  have ends (id : Nat) : (Operation.failAll reason).Ends id := ⟨_, .failAll reason id⟩
  refine h.conclude rfl (h.sound.failAll reason) rfl (fun id => ?_) (fun c => ?_) ?_
  · exact iff_of_false List.not_mem_nil fun stays => stays.2 (ends id)
  · rw [completions_failAll h.sound, List.mem_map, gives_failAll_iff]
    constructor
    · rintro ⟨id, mem, rfl⟩
      exact ⟨mem, rfl⟩
    · rintro ⟨mem, isLost⟩
      exact ⟨c.id, mem, by rw [← isLost]⟩
  · rw [completions_failAll h.sound, List.map_map]
    simpa [Function.comp_def] using h.sound.nodup

/-- The table follows its history through every operation. -/
theorem Follows.perform (h : Follows ops t done) (op : Operation) :
    Follows (ops ++ [op]) (t.perform op).table (done ++ (t.perform op).completions) := by
  cases op with
  | register =>
    show Follows _ t.register (done ++ [])
    rw [List.append_nil]
    exact h.register
  | resolve frame => exact h.aim (aims_resolve frame)
  | resolvePong id => exact h.aim (aims_resolvePong id)
  | forget id => exact h.aim (aims_forget id)
  | failAll reason => exact h.failAll reason

/-- The table follows its history through many operations. -/
theorem Follows.performAll (h : Follows ops t done) (more : List Operation) :
    Follows (ops ++ more) (t.performAll more).1 (done ++ (t.performAll more).2) := by
  induction more generalizing ops t done with
  | nil =>
    show Follows (ops ++ []) t (done ++ [])
    rwa [List.append_nil, List.append_nil]
  | cons op more ih =>
    have whole := ih (h.perform op)
    rwa [List.append_assoc, List.append_assoc] at whole

/-! ### One after another -/

/-- Complete some ids one after another, and count those that were found. -/
def completeEach (t : PendingCommands) (outcome : ClientResult Json) :
    List Nat → Nat × PendingCommands × List Completion
  | [] => (0, t, [])
  | id :: ids =>
    let rest := (t.complete id (some outcome)).1.completeEach outcome ids
    (rest.1 + (t.contains id).toNat, rest.2.1, (t.complete id (some outcome)).2 ++ rest.2.2)

theorem failAll_table (h : t.Sound) (reason : String) :
    (t.failAll reason).1 = ⟨t.nextId, [], []⟩ := by
  show PendingCommands.mk t.nextId [] (t.callers.filter fun id => !t.contains id) = _
  rw [h.waiting, List.filter_eq_nil_iff.2 fun id mem => by simpa [contains] using mem]

/-- All entries fail in whatever order they are gone through. -/
theorem completeEach_entries (h : t.Sound) (reason : String) {ids : List Nat}
    (order : ids.Perm t.entries) : t.completeEach (.error (.connectionLost reason)) ids =
      (t.entries.length, (t.failAll reason).1,
        ids.map fun id => ⟨id, some (.error (.connectionLost reason))⟩) := by
  rw [failAll_table h]
  induction ids generalizing t with
  | nil =>
    obtain ⟨nextId, entries, callers⟩ := t
    obtain rfl : callers = entries := h.waiting
    obtain rfl : callers = [] := order.nil_eq.symm
    rfl
  | cons id ids ih =>
    -- The other ids are the entries of the table without this one.
    have mem : id ∈ t.entries := order.mem_iff.1 List.mem_cons_self
    have rest : ids.Perm (t.remove id).entries := (List.cons_perm_iff_perm_erase.1 order).2
    have found : t.contains id = true := by simpa [contains] using mem
    have count : t.entries.length = (t.remove id).entries.length + 1 := by
      rw [← order.length_eq, List.length_cons, rest.length_eq]
    unfold completeEach
    rw [complete_of_mem h mem, ih (h.remove id) rest, found, count]
    rfl

/-! ### The whole table -/

/-- What an operation for one id does after others. An open id alone goes away,
with an outcome; for any other id nothing happens. -/
structure Settles (ops : List Operation) (t : PendingCommands) (op : Operation) (id : Nat)
    (outcome : Option (ClientResult Json)) : Prop where
  completed : Open ops id → (t.perform op).completions = [⟨id, outcome⟩]
  removed : Open ops id → (t.perform op).table.entries = t.entries.filter (· != id)
  nextId : (t.perform op).table.nextId = t.nextId
  ignored : ¬ Open ops id → (t.perform op).completions = [] ∧ (t.perform op).table = t

/-- The answer is yes exactly for an open id. -/
def Finds (ops : List Operation) (id : Nat) (answer : Answer) : Prop :=
  ∃ found, answer = .found found ∧ (found = true ↔ Open ops id)

/-- What holds of a table and of the completions after some operations, and of
what any operation does then. -/
structure History (ops : List Operation) (t : PendingCommands) (done : List Completion) :
    Prop where
  /-- The `n`-th registration gets the id `n`. -/
  nextId : t.nextId = registered ops + 1
  register : (t.perform .register).answer = .issued (registered ops + 1)
  entries : ∀ id, id ∈ t.entries ↔ Open ops id
  nodup : t.entries.Nodup
  resolve : ∀ frame : CommandResult,
    Finds ops frame.id (t.perform (.resolve frame)).answer ∧
      Settles ops t (.resolve frame) frame.id (some (told frame))
  resolvePong : ∀ id, Finds ops id (t.perform (.resolvePong id)).answer ∧
    Settles ops t (.resolvePong id) id (some (.ok .null))
  /-- The caller of a forgotten command gets nothing. -/
  forget : ∀ id, Settles ops t (.forget id) id none
  /-- Every entry fails, and the answer is how many there were. -/
  failAll : ∀ reason, t.perform (.failAll reason) = ⟨.failed t.entries.length, ⟨t.nextId, [], []⟩,
    t.entries.map fun id => ⟨id, some (.error (.connectionLost reason))⟩⟩
  /-- The same comes of failing the entries one after another, in any order. -/
  failEach : ∀ reason ids, ids.Perm t.entries →
    t.completeEach (.error (.connectionLost reason)) ids = (t.entries.length, ⟨t.nextId, [], []⟩,
      ids.map fun id => ⟨id, some (.error (.connectionLost reason))⟩)
  /-- Nobody gets a second completion. -/
  once : (done.map Completion.id).Nodup
  completions : ∀ c, c ∈ done ↔ Concluded ops c

/-- An operation settles the command that it is for, if that one is open. -/
theorem Follows.settles (h : Follows ops t done) (aims : op.Aims id outcome) :
    Settles ops t op id outcome where
  completed isOpen := by
    rw [aims.completions, complete_of_mem h.sound ((h.entries id).2 isOpen)]
  removed isOpen := by
    rw [aims.table, complete_of_mem h.sound ((h.entries id).2 isOpen)]
    exact h.sound.nodup.erase_eq_filter id
  nextId := by rw [aims.table, nextId_complete]
  ignored noEntry := by
    rw [aims.completions, aims.table, complete_of_not_mem fun mem => noEntry ((h.entries id).1 mem)]
    exact ⟨rfl, rfl⟩

theorem Follows.finds (h : Follows ops t done) (id : Nat) :
    Finds ops id (.found (t.contains id)) := by
  refine ⟨_, rfl, ?_⟩
  rw [← h.entries]
  simp [contains]

/-- The operations that were performed settle all there is to know of a table. -/
theorem settled_by_history (ops : List Operation) :
    History ops (empty.performAll ops).1 (empty.performAll ops).2 := by
  have h := follows_empty.performAll ops
  rw [List.nil_append, List.nil_append] at h
  generalize (empty.performAll ops).1 = t at h ⊢
  generalize (empty.performAll ops).2 = done at h ⊢
  exact {
    nextId := h.nextId
    register := congrArg Answer.issued h.nextId
    entries := h.entries
    nodup := h.sound.nodup
    resolve := fun frame => ⟨h.finds frame.id, h.settles (aims_resolve frame)⟩
    resolvePong := fun id => ⟨h.finds id, h.settles (aims_resolvePong id)⟩
    forget := fun id => h.settles (aims_forget id)
    failAll := fun reason => by
      show Performed.mk _ (t.failAll reason).1 (t.failAll reason).2 = _
      rw [completions_failAll h.sound, failAll_table h.sound]
      rfl
    failEach := fun reason ids order => by
      rw [completeEach_entries h.sound reason order, failAll_table h.sound]
    once := h.nodup
    completions := h.completions }

/-- A pong that comes too late does nothing, and ids go on after a failure. -/
example : (empty.performAll [.register, .register, .forget 2, .failAll "closed", .resolvePong 1,
    .register]).1 = ⟨4, [3], [3]⟩ := rfl

end PendingCommands

end HubAutomation
