import HubAutomation.Proofs.Client.Correlation
import Mathlib.Data.List.Induction

/-!
# Outcomes of commands

How a command ends is settled by the first thing that a run has to say about
it: an answer of the hub with the id of the command, or the end of the
connection. Whatever comes later changes nothing any more, and neither do
messages about other commands.

- `Connection.news`, `Connection.verdict`: what a moment, and a run, says about
  a command.
- `Connection.Entered`: the command got into the queue.
- `Connection.Fate`: how far a command is after a run.
- `Connection.command_outcome`: every command of every run has such a fate.
-/

namespace HubAutomation

namespace Connection

variable {c c' : Connection} {n m id : Nat} {command : Command} {purpose : Purpose}

/-! ### What a run says about a command -/

/-- What an action says about a command: how the hub answered it, or that the
connection is lost. Nothing is said any more once the connection is down. -/
def news (id : Nat) (c : Connection) (a : Action) : Option (ClientResult Json) :=
  if c.connected then
    (a.outcomeFor id).or
      (if (c.act a).connected then none else some (.error (.connectionLost (a.farewell c))))
  else none

/-- The first news of a command in a run. -/
def verdict (id : Nat) : Connection → List Action → Option (ClientResult Json)
  | _, [] => none
  | c, a :: rest => (news id c a).or (verdict id (c.act a) rest)

/-- The command gets into the queue at some moment of a run. -/
def Entered (id : Nat) (command : Command) : Connection → List Action → Prop :=
  Sometime fun c a => Outgoing.command id command ∈ (c.act a).outbox.messages

theorem verdict_append (id : Nat) (c : Connection) (before rest : List Action) :
    verdict id c (before ++ rest) =
      (verdict id c before).or (verdict id (c.actAll before) rest) := by
  induction before generalizing c with
  | nil => rfl
  | cons a before ih =>
    show (news id c a).or (verdict id (c.act a) (before ++ rest)) = _
    rw [ih, ← Option.or_assoc]
    rfl

theorem verdict_concat (id : Nat) (c : Connection) (before : List Action) (a : Action) :
    verdict id c (before ++ [a]) = (verdict id c before).or (news id (c.actAll before) a) := by
  rw [verdict_append]
  congr 1
  exact Option.or_none

/-- The verdict is the first news: there was none before it. -/
theorem verdict_eq_some {id : Nat} {c : Connection} {actions : List Action}
    {outcome : ClientResult Json} :
    verdict id c actions = some outcome ↔
      ∃ before a rest, actions = before ++ a :: rest ∧ verdict id c before = none ∧
        news id (c.actAll before) a = some outcome := by
  induction actions generalizing c with
  | nil => simp [verdict]
  | cons a rest ih =>
    constructor
    · intro h
      cases hn : news id c a with
      | some first =>
        have h : (news id c a).or (verdict id (c.act a) rest) = some outcome := h
        rw [hn, Option.some_or] at h
        exact ⟨[], a, rest, rfl, rfl, by rw [actAll_nil, hn, h]⟩
      | none =>
        have h : (news id c a).or (verdict id (c.act a) rest) = some outcome := h
        rw [hn, Option.none_or] at h
        obtain ⟨before, b, rest, rfl, quiet, first⟩ := ih.1 h
        refine ⟨a :: before, b, rest, rfl, ?_, first⟩
        show (news id c a).or (verdict id (c.act a) before) = none
        rw [hn, quiet, Option.none_or]
    · rintro ⟨before, b, rest, e, quiet, first⟩
      rw [e, verdict_append, quiet, Option.none_or]
      show (news id (c.actAll before) b).or _ = _
      rw [first, Option.some_or]

/-- Text of the hub that has no outcome for a command, or comes after the one it
had, says nothing. -/
theorem verdict_text {id : Nat} {c : Connection} {actions : List Action} {stamp : Stamp}
    {text : String}
    (h : Action.outcomeFor id (.receive stamp (.text text)) = none ∨
      (verdict id c actions).isSome) :
    verdict id c (actions ++ [.receive stamp (.text text)]) = verdict id c actions := by
  rw [verdict_concat]
  rcases h with h | h
  -- Text does not take the connection down, so it has no other news.
  · have silent : news id (c.actAll actions) (.receive stamp (.text text)) = none := by
      have same : ((c.actAll actions).act (.receive stamp (.text text))).connected =
          (c.actAll actions).connected := by
        show Connection.connected (Connection.receive _ _ _) = _
        unfold receive
        split
        · rfl
        · dsimp only
          split
          · exact handle_connected _ _
          · rfl
      unfold news
      split
      · rename_i up
        rw [h, Option.none_or, same, if_pos up]
      · rfl
    rw [silent, Option.or_none]
  · obtain ⟨outcome, h⟩ := Option.isSome_iff_exists.1 h
    rw [h, Option.some_or]

/-! ### News, by what an action does to commands -/

theorem news_of_down (a : Action) (down : c.connected = false) : news id c a = none := by
  rw [news, if_neg (by simp [down])]

theorem news_of_same {a : Action} (silent : a.outcomeFor id = none)
    (same : (c.act a).connected = c.connected) : news id c a = none := by
  by_cases up : c.connected = true
  · rw [news, if_pos up, silent, Option.none_or, same, if_pos up]
  · exact news_of_down a (by simpa using up)

theorem news_of_answer {a : Action} {outcome : ClientResult Json} (up : c.connected = true)
    (mine : a.outcomeFor id = some outcome) : news id c a = some outcome := by
  rw [news, if_pos up, mine, Option.some_or]

theorem news_of_farewell {a : Action} (up : c.connected = true) (silent : a.outcomeFor id = none)
    (down : (c.act a).connected = false) :
    news id c a = some (.error (.connectionLost (a.farewell c))) := by
  rw [news, if_pos up, silent, Option.none_or, if_neg (by simp [down])]

/-- Where a command is: in the table as long as there was no news of it, and
parked with the first news after that. -/
def UnderWay (c : Connection) (id : Nat) : Option (ClientResult Json) → Prop
  | none => id ∈ c.commands.entries
  | some outcome => (id, outcome) ∈ c.outcomes

@[simp] theorem underWay_none : c.UnderWay id none ↔ id ∈ c.commands.entries := Iff.rfl

@[simp] theorem underWay_some {outcome : ClientResult Json} :
    c.UnderWay id (some outcome) ↔ (id, outcome) ∈ c.outcomes := Iff.rfl

theorem Correlated.up_of_underWay (h : c.Correlated) (u : c.UnderWay id none) :
    c.connected = true := by
  by_contra down
  have empty := h.down (by simpa using down)
  have hm : id ∈ c.commands.entries := u
  rw [empty] at hm
  exact List.not_mem_nil hm

theorem UnderWay.of_same {v : Option (ClientResult Json)} (u : c.UnderWay id v)
    (same : SameCommands c c') : c'.UnderWay id v := by
  cases v with
  | none => rwa [underWay_none, same.commands]
  | some outcome => rwa [underWay_some, same.outcomes]

/-- When the connection goes down, every command hears of it. -/
theorem UnderWay.farewell {a : Action} {v : Option (ClientResult Json)} (u : c.UnderWay id v)
    (h : c.Correlated) (silent : a.outcomeFor id = none)
    (outcomes : (c.act a).outcomes = (c.deliver (c.commands.failAll (a.farewell c))).outcomes)
    (down : (c.act a).connected = false) : (c.act a).UnderWay id (v.or (news id c a)) := by
  rw [outcomes_failAll h] at outcomes
  cases v with
  | none =>
    rw [Option.none_or, news_of_farewell (h.up_of_underWay u) silent down]
    rw [underWay_some, outcomes]
    exact List.mem_append_right _ (List.mem_map.2 ⟨id, u, rfl⟩)
  | some outcome =>
    rw [Option.some_or, underWay_some, outcomes]
    exact List.mem_append_left _ u

/-- A turn of another caller leaves a command where it is, unless it takes the
connection down. -/
theorem UnderWay.turn {v : Option (ClientResult Json)} (u : c.UnderWay id v) (h : c.Correlated)
    (mine : c.commandOf n = some id) (t : CommandTurn c m (c.act (.run m))) (other : m ≠ n) :
    (c.act (.run m)).UnderWay id (v.or (news id c (.run m))) := by
  have quiet : (c.act (.run m)).connected = c.connected →
      (c.act (.run m)).UnderWay id v →
      (c.act (.run m)).UnderWay id (v.or (news id c (.run m))) := by
    intro same u'
    rwa [news_of_same rfl same, Option.or_none]
  -- The command of another caller has another id.
  have apart : ∀ i, c.commandOf m = some i → id ≠ i :=
    fun i hi e => other (h.given_once m n i hi (e ▸ mine))
  cases t with
  | aside s s' at_ open_ callers before after unchanged messages =>
    exact quiet unchanged.connected (u.of_same unchanged)
  | issued s command purpose at_ open_ before starts callers connected connected'
      commands outcomes _ =>
    refine quiet (connected'.trans connected.symm) ?_
    cases v with
    | none =>
      rw [underWay_none, commands]
      exact List.mem_append_left _ u
    | some outcome => rwa [underWay_some, outcomes]
  | stranded i command purpose reason at_ callers commands outcomes connected messages =>
    refine quiet connected ?_
    cases v with
    | none =>
      rw [underWay_none, commands, PendingCommands.forget, PendingCommands.mem_entries_complete h.table]
      exact ⟨u, apart i (commandOf_of_caller at_)⟩
    | some outcome => rwa [underWay_some, outcomes]
  | queued i command purpose at_ callers unchanged messages =>
    exact quiet unchanged.connected (u.of_same unchanged)
  | answered i purpose outcome at_ parked callers commands outcomes connected messages =>
    refine quiet connected ?_
    cases v with
    | none => rwa [underWay_none, commands]
    | some outcome =>
      rw [underWay_some, outcomes, List.mem_filter]
      exact ⟨u, by simpa using apart i (commandOf_of_caller at_)⟩
  | closed at_ callers commands outcomes down messages => exact u.farewell h rfl outcomes down

theorem UnderWay.event {a : Action} {v : Option (ClientResult Json)} (u : c.UnderWay id v)
    (h : c.Correlated) (reading : c.connected = true → c.reading = true)
    (e : CommandEvent c a (c.act a)) : (c.act a).UnderWay id (v.or (news id c a)) := by
  cases e with
  | quiet silent callers unchanged messages =>
    have none_ : news id c a = none := by
      rcases silent id with silent | unread
      · exact news_of_same silent unchanged.connected
      · refine news_of_down a (Bool.eq_false_iff.2 fun up => ?_)
        exact Bool.eq_false_iff.1 unread (reading up)
    rw [none_, Option.or_none]
    exact u.of_same unchanged
  | answer i outcome mine other callers commands outcomes connected messages =>
    rw [outcomes_answer h] at outcomes
    cases v with
    | some first =>
      rw [Option.some_or, underWay_some, outcomes]
      exact List.mem_append_left _ u
    | none =>
      rw [Option.none_or]
      by_cases e : id = i
      · -- It waits in the table, so this answer is the first news of it.
        subst e
        rw [news_of_answer (h.up_of_underWay u) mine]
        rw [underWay_some, outcomes, if_pos (underWay_none.1 u)]
        exact List.mem_append_right _ (List.mem_singleton.2 rfl)
      · rw [news_of_same (other id e) connected]
        rw [underWay_none, commands, PendingCommands.mem_entries_complete h.table]
        exact ⟨u, e⟩
  | down silent callers commands outcomes down messages =>
    exact u.farewell h (silent id) outcomes down

/-- Every command in the queue has an id that was given out. -/
theorem Reachable.given_of_message (h : c.Reachable)
    (hm : Outgoing.command id command ∈ c.outbox.messages) : id < c.commands.nextId := by
  refine h.induction (P := fun c => ∀ id command,
    Outgoing.command id command ∈ c.outbox.messages → id < c.commands.nextId)
    (fun _ _ => nofun) (fun c a reachable h id command hm => ?_) id command hm
  rcases (c.act_step a).commands with ⟨m, -, t⟩ | e
  · refine Nat.lt_of_lt_of_le ?_ t.nextId_le
    exact (t.message hm).elim (h id command) (reachable.correlated.given m id)
  · exact Nat.lt_of_lt_of_le (h id command (e.message hm)) e.nextId_le

/-! ### Fates -/

/-- How far the command of a caller is after a run from the state in which it
got its id. -/
inductive Fate (c : Connection) (rest : List Action) (n id : Nat) (command : Command)
    (purpose : Purpose) : Prop where
  /-- It waits for a place in the queue. -/
  | sending (at_ : (c.actAll rest).callers[n]? = some (.sending id command purpose))
      (out : ¬ Entered id command c rest)
  /-- It is in the queue or behind it, and waits for the hub. -/
  | awaiting (at_ : (c.actAll rest).callers[n]? = some (.awaiting id purpose))
      (entered : Entered id command c rest)
  /-- It was in the queue and ended with the first news of it. -/
  | answered (outcome : ClientResult Json)
      (at_ : (c.actAll rest).callers[n]? = some (.done (purpose.answer outcome)))
      (entered : Entered id command c rest) (first : verdict id c rest = some outcome)
  /-- It did not get into the queue and was lost with the connection. -/
  | lost (reason : String)
      (at_ : (c.actAll rest).callers[n]? =
        some (.done (purpose.answer (.error (.connectionLost reason)))))
      (out : ¬ Entered id command c rest)

/-- A command with a fate, and what the state after the run knows of it. -/
structure Tracked (c : Connection) (rest : List Action) (n id : Nat) (command : Command)
    (purpose : Purpose) : Prop where
  fate : Fate c rest n id command purpose
  given : id < (c.actAll rest).commands.nextId
  underWay : (c.actAll rest).commandOf n = some id →
    (c.actAll rest).UnderWay id (verdict id c rest)
  /-- Once the caller has left its command, nobody has its id. -/
  gone : (c.actAll rest).commandOf n ≠ some id → ∀ m, (c.actAll rest).commandOf m ≠ some id
  unsent : ¬ Entered id command c rest →
    Outgoing.command id command ∉ (c.actAll rest).outbox.messages

theorem entered_concat {rest : List Action} {a : Action} :
    Entered id command c (rest ++ [a]) ↔
      Entered id command c rest ∨
        Outgoing.command id command ∈ ((c.actAll rest).act a).outbox.messages :=
  sometime_concat _ _ _ _

theorem actAll_concat (c : Connection) (rest : List Action) (a : Action) :
    c.actAll (rest ++ [a]) = (c.actAll rest).act a := actAll_append c rest [a]

/-- What the fate of a command says about its caller. -/
theorem Fate.caller {rest : List Action} (f : Fate c rest n id command purpose) :
    ∃ s, (c.actAll rest).callers[n]? = some s ∧ (s.id? = some id ∨ s.isDone = true) := by
  cases f with
  | sending at_ out => exact ⟨_, at_, .inl rfl⟩
  | awaiting at_ entered => exact ⟨_, at_, .inl rfl⟩
  | answered outcome at_ entered first => exact ⟨_, at_, .inr rfl⟩
  | lost reason at_ out => exact ⟨_, at_, .inr rfl⟩

/-- What other callers and the hub do leaves the fate of a command as it is. -/
theorem Fate.keep {rest : List Action} {a : Action} (f : Fate c rest n id command purpose)
    (at_ : ((c.actAll rest).act a).callers[n]? = (c.actAll rest).callers[n]?)
    (same : Entered id command c (rest ++ [a]) ↔ Entered id command c rest) :
    Fate c (rest ++ [a]) n id command purpose := by
  rw [← actAll_concat] at at_
  cases f with
  | sending was out => exact .sending (at_.trans was) (mt same.1 out)
  | awaiting was entered => exact .awaiting (at_.trans was) (same.2 entered)
  | answered outcome was entered first =>
    refine .answered outcome (at_.trans was) (same.2 entered) ?_
    rw [verdict_concat, first, Option.some_or]
  | lost reason was out => exact .lost reason (at_.trans was) (mt same.1 out)

/-- A step in which no caller but those of other commands takes part. -/
theorem Tracked.keep {rest : List Action} {a : Action} (t : Tracked c rest n id command purpose)
    (at_ : ((c.actAll rest).act a).callers[n]? = (c.actAll rest).callers[n]?)
    (owner : ∀ m, ((c.actAll rest).act a).commandOf m = some id →
      (c.actAll rest).commandOf m = some id)
    (nextId : (c.actAll rest).commands.nextId ≤ ((c.actAll rest).act a).commands.nextId)
    (message : Outgoing.command id command ∈ ((c.actAll rest).act a).outbox.messages →
      Outgoing.command id command ∈ (c.actAll rest).outbox.messages)
    (underWay : (c.actAll rest).commandOf n = some id →
      ((c.actAll rest).act a).UnderWay id
        ((verdict id c rest).or (news id (c.actAll rest) a))) :
    Tracked c (rest ++ [a]) n id command purpose := by
  have same : Entered id command c (rest ++ [a]) ↔ Entered id command c rest := by
    rw [entered_concat]
    constructor
    · rintro (entered | hm)
      · exact entered
      · by_contra out
        exact t.unsent out (message hm)
    · exact .inl
  refine ⟨t.fate.keep at_ same, ?_, ?_, ?_, ?_⟩
  · rw [actAll_concat]
    exact Nat.lt_of_lt_of_le t.given nextId
  · rw [actAll_concat, verdict_concat]
    exact fun mine => underWay (owner n mine)
  · rw [actAll_concat, commandOf, at_]
    exact fun left m hm => t.gone left m (owner m hm)
  · rw [actAll_concat, same]
    exact fun out hm => t.unsent out (message hm)

/-- The caller of a command takes a turn. -/
theorem Tracked.own {rest : List Action} (t : Tracked c rest n id command purpose)
    (h : (c.actAll rest).Correlated)
    (turn : CommandTurn (c.actAll rest) n ((c.actAll rest).act (.run n))) :
    Tracked c (rest ++ [.run n]) n id command purpose := by
  have given : id < ((c.actAll rest).act (.run n)).commands.nextId :=
    Nat.lt_of_lt_of_le t.given turn.nextId_le
  -- The caller has its command under way, or is done.
  have other : ∀ s : CallerState, (c.actAll rest).callers[n]? = some s → s.id? = none →
      s.isDone = true := by
    intro s at_ none_
    obtain ⟨s', is_, kind⟩ := t.fate.caller
    cases at_.symm.trans is_
    rcases kind with kind | kind
    · cases none_.symm.trans kind
    · exact kind
  cases turn with
  | aside s s' at_ open_ callers before after unchanged messages =>
    cases open_.symm.trans (other s at_ before)
  | issued s command' purpose' at_ open_ before starts callers connected connected'
      commands outcomes _ =>
    cases open_.symm.trans (other s at_ before)
  | closed at_ callers commands outcomes down messages => cases other _ at_ rfl
  | stranded i command' purpose' reason at_ callers commands outcomes connected messages =>
    cases t.fate with
    | awaiting was entered => cases at_.symm.trans was
    | answered outcome was entered first => cases at_.symm.trans was
    | lost reason was out => cases at_.symm.trans was
    | sending was out =>
      cases at_.symm.trans was
      have gone := h.gone at_ rfl rfl callers
      have still : ¬ Entered id command c (rest ++ [.run n]) := by
        rw [entered_concat, messages]
        exact fun hm => hm.elim out (t.unsent out)
      refine ⟨.lost reason ?_ still, ?_, ?_, ?_, ?_⟩
      · rw [actAll_concat, callers, getElem?_set_caller at_, if_pos rfl]
      · rwa [actAll_concat]
      · rw [actAll_concat]
        exact fun mine => absurd mine (gone n)
      · rw [actAll_concat]
        exact fun _ => gone
      · rw [actAll_concat, messages]
        exact fun _ => t.unsent out
  | queued i command' purpose' at_ callers unchanged messages =>
    cases t.fate with
    | awaiting was entered => cases at_.symm.trans was
    | answered outcome was entered first => cases at_.symm.trans was
    | lost reason was out => cases at_.symm.trans was
    | sending was out =>
      cases at_.symm.trans was
      have entered : Entered id command c (rest ++ [.run n]) := by
        rw [entered_concat, messages]
        exact .inr (List.mem_append_right _ (List.mem_singleton.2 rfl))
      refine ⟨.awaiting ?_ entered, ?_, ?_, ?_, ?_⟩
      · rw [actAll_concat, callers, getElem?_set_caller at_, if_pos rfl]
      · rwa [actAll_concat]
      · rw [actAll_concat, verdict_concat, news_of_same rfl unchanged.connected, Option.or_none]
        exact fun _ => (t.underWay (commandOf_of_caller at_)).of_same unchanged
      · rw [actAll_concat, commandOf_set at_ callers, if_pos rfl]
        exact fun left => absurd rfl left
      · exact fun out => absurd entered out
  | answered i purpose' outcome at_ parked callers commands outcomes connected messages =>
    cases t.fate with
    | sending was out => cases at_.symm.trans was
    | answered outcome was entered first => cases at_.symm.trans was
    | lost reason was out => cases at_.symm.trans was
    | awaiting was entered =>
      cases at_.symm.trans was
      have gone := h.gone at_ rfl rfl callers
      -- What is parked is what the run said first.
      have first : verdict id c rest = some outcome := by
        have u := t.underWay (commandOf_of_caller at_)
        cases hv : verdict id c rest with
        | none =>
          rw [hv] at u
          exact absurd u (h.parked_gone _ parked)
        | some other =>
          rw [hv] at u
          rw [h.parked_unique u parked]
      have entered' : Entered id command c (rest ++ [.run n]) := entered_concat.2 (.inl entered)
      refine ⟨.answered outcome ?_ entered' ?_, ?_, ?_, ?_, ?_⟩
      · rw [actAll_concat, callers, getElem?_set_caller at_, if_pos rfl]
      · rw [verdict_concat, first, Option.some_or]
      · rwa [actAll_concat]
      · rw [actAll_concat]
        exact fun mine => absurd mine (gone n)
      · rw [actAll_concat]
        exact fun _ => gone
      · exact fun out => absurd entered' out

/-- One more action. -/
theorem Tracked.act {rest : List Action} (t : Tracked c rest n id command purpose)
    (h : (c.actAll rest).Correlated)
    (reading : (c.actAll rest).isUp = true → (c.actAll rest).reading = true) (a : Action) :
    Tracked c (rest ++ [a]) n id command purpose := by
  rcases ((c.actAll rest).act_step a).commands with ⟨m, rfl, turn⟩ | e
  · by_cases own : m = n
    · subst own
      exact t.own h turn
    · refine t.keep (turn.caller_other (Ne.symm own)) (fun k => turn.owner t.given) turn.nextId_le
        (fun hm => (turn.message hm).elim (fun hm => hm) fun mine => ?_)
        (fun mine => (t.underWay mine).turn h mine turn own)
      -- The message would be of a second caller with the same id.
      by_cases under : (c.actAll rest).commandOf n = some id
      · exact absurd (h.given_once m n id mine under) own
      · exact absurd mine (t.gone under m)
  · obtain ⟨s, at_, -⟩ := t.fate.caller
    refine t.keep ((e.caller at_).trans at_.symm) (fun m hm => (e.owner m).symm.trans hm)
      e.nextId_le e.message fun mine => (t.underWay mine).event h (fun up => ?_) e
    obtain ⟨s, at_, id_⟩ : ∃ s, (c.actAll rest).callers[n]? = some s ∧ s.id? = some id := by
      simpa [commandOf, Option.bind_eq_some_iff] using mine
    exact reading (isUp_iff.2 ⟨up, isHeld_of_caller at_ (CallerState.not_isDone_of_id? id_)⟩)

/-! ### Starting a command -/

/-- What commands see of a start. -/
theorem starting_run (h : c.starting n = some (command, purpose)) :
    ∃ c₀ : Connection, c.act (.run n) = c₀.startCommand n command purpose ∧ SameCommands c c₀ ∧
      c₀.callers = c.callers ∧ c₀.outbox = c.outbox ∧
        ∃ s, c.callers[n]? = some s ∧ s.isDone = false := by
  unfold starting at h
  split at h
  · rename_i command at_
    cases h
    exact ⟨c, run_ready at_, ⟨rfl, rfl, rfl⟩, rfl, rfl, _, at_, rfl⟩
  · rename_i eventType receiver at_
    split at h
    · rename_i free
      cases h
      refine ⟨c, ?_, ⟨rfl, rfl, rfl⟩, rfl, rfl, _, at_, rfl⟩
      rw [run_locking at_, if_pos free.1, locked, if_neg (by simp [free.2])]
    · cases h
  · rename_i eventType at_
    split at h
    · rename_i holds
      rw [Option.map_eq_some_iff] at h
      obtain ⟨id, recorded, h⟩ := h
      cases h
      have recorded : c.subscriptions.hub.find? eventType = some (some id) := by
        cases hf : c.subscriptions.hub.find? eventType with
        | none =>
          rw [hf] at recorded
          cases recorded
        | some handle =>
          rw [hf] at recorded
          exact congrArg some recorded
      obtain ⟨subscriptions, take⟩ :
          ∃ s, c.subscriptions.take eventType = some (s, some id) := by
        rw [Subscriptions.take, recorded]
        exact ⟨_, rfl⟩
      refine ⟨{ c with subscriptions }.unlock, ?_, ⟨rfl, rfl, rfl⟩, rfl, rfl, _, at_, rfl⟩
      rw [run_locking at_, if_pos holds, locked, take]
    · cases h
  · cases h

/-- A command that starts on a connection that is up gets the next id, and its
caller waits for a place in the queue. -/
theorem starting_up (h : c.starting n = some (command, purpose)) (up : c.connected = true) :
    (c.act (.run n)).callers[n]? = some (.sending c.commands.nextId command purpose) ∧
      (c.act (.run n)).commands = c.commands.register ∧
      (c.act (.run n)).outbox.messages = c.outbox.messages ∧
      (c.act (.run n)).connected = true := by
  obtain ⟨c₀, run, same, callers, outbox, s, at_, -⟩ := starting_run h
  have issue : c.act (.run n) = c₀.issue n command purpose := by
    refine run.trans ?_
    rw [startCommand, if_pos (same.connected.trans up)]
  rw [issue]
  refine ⟨?_, congrArg PendingCommands.register same.commands,
    congrArg (fun o : Outbox => (o.wait n).messages) outbox, same.connected.trans up⟩
  show (c₀.callers.set n (.sending c₀.commands.nextId command purpose))[n]? = _
  rw [callers, getElem?_set_caller at_, if_pos rfl, same.commands]

/-- A command that starts on a connection that is down is lost. -/
theorem starting_down (h : c.starting n = some (command, purpose)) (down : c.connected = false) :
    (c.act (.run n)).callers[n]? =
      some (.done (purpose.answer (.error (.connectionLost "client is closed")))) := by
  obtain ⟨c₀, run, same, callers, outbox, s, at_, -⟩ := starting_run h
  have lost : c.act (.run n) = c₀.lose n purpose "client is closed" := by
    refine run.trans ?_
    rw [startCommand, if_neg (by rw [same.connected, down]; exact Bool.false_ne_true)]
  rw [lost]
  show (c₀.callers.set n _)[n]? = _
  rw [callers, getElem?_set_caller at_, if_pos rfl]
  rfl

theorem tracked_start (reachable : c.Reachable) (h : c.starting n = some (command, purpose))
    (up : c.connected = true) :
    Tracked (c.act (.run n)) [] n c.commands.nextId command purpose := by
  obtain ⟨at_, commands, messages, -⟩ := starting_up h up
  have mine : (c.act (.run n)).commandOf n = some c.commands.nextId := commandOf_of_caller at_
  refine ⟨.sending at_ (sometime_nil _ _), ?_, fun _ => ?_, fun left => absurd mine left, ?_⟩
  · rw [actAll_nil, commands]
    exact Nat.lt_succ_self _
  · show _ ∈ (c.act (.run n)).commands.entries
    rw [commands]
    exact List.mem_append_right _ (List.mem_singleton.2 rfl)
  · rw [actAll_nil, messages]
    exact fun _ hm => Nat.lt_irrefl _ (reachable.given_of_message hm)

theorem Tracked.actAll (reachable : c.Reachable) (h : Tracked c [] n id command purpose)
    (rest : List Action) : Tracked c rest n id command purpose := by
  -- By one action after another, as the fate speaks of the run from its start.
  induction rest using List.reverseRecOn with
  | nil => exact h
  | append_singleton rest a ih =>
    have r := reachable.actAll rest
    exact ih.act r.correlated r.reading a

/-- If the connection goes down in a run, the run has news of every command. -/
theorem verdict_of_down {rest : List Action} (id : Nat) (up : c.connected = true)
    (down : (c.actAll rest).connected = false) : (verdict id c rest).isSome = true := by
  induction rest generalizing c with
  | nil =>
    rw [actAll_nil, up] at down
    cases down
  | cons a rest ih =>
    show ((news id c a).or (verdict id (c.act a) rest)).isSome = true
    rw [Option.isSome_or, Bool.or_eq_true]
    by_cases still : (c.act a).connected = true
    · exact .inr (ih still down)
    · refine .inl ?_
      rw [news, if_pos up, if_neg still, Option.isSome_or]
      exact Bool.or_true _

/-- Every command that a caller has under way was started, and got its id, in a
turn of this caller. -/
theorem starting_of_commandOf {a : Action} (before : c.commandOf n ≠ some id)
    (after : (c.act a).commandOf n = some id) :
    a = .run n ∧ c.connected = true ∧ id = c.commands.nextId ∧
      ∃ command purpose, c.starting n = some (command, purpose) := by
  rcases (c.act_step a).commands with ⟨m, rfl, t⟩ | e
  case inr => exact absurd ((e.owner n).symm.trans after) before
  case inl =>
    by_cases e : n = m
    case neg => exact absurd (by rwa [commandOf, t.caller_other e] at after) before
    case pos =>
      subst e
      -- An id that was given before cannot be new to its caller.
      by_cases given : id < c.commands.nextId
      · exact absurd (t.owner given after) before
      · cases t with
        | issued s command purpose at_ open_ none_ starts callers connected connected' _ _ _ =>
          rw [commandOf_set at_ callers, if_pos rfl] at after
          exact ⟨rfl, connected, (Option.some.inj after).symm, command, purpose, starts⟩
        | aside s s' at_ open_ callers _ none_ unchanged messages =>
          rw [commandOf_set at_ callers, if_pos rfl, none_] at after
          cases after
        | queued i command purpose at_ callers unchanged messages =>
          rw [commandOf_set at_ callers, if_pos rfl] at after
          exact absurd ((commandOf_of_caller at_).trans after) before
        | stranded i command purpose reason at_ callers _ _ _ _ =>
          rw [commandOf_set at_ callers, if_pos rfl] at after
          cases after
        | answered i purpose outcome at_ parked callers _ _ _ _ =>
          rw [commandOf_set at_ callers, if_pos rfl] at after
          cases after
        | closed at_ callers _ _ _ _ =>
          rw [commandOf_set at_ callers, if_pos rfl] at after
          cases after

/-! ### The outcome of every command -/

/-- What holds of a command after a run from the state in which it got its id. -/
structure Settled (c : Connection) (rest : List Action) (n id : Nat) (command : Command)
    (purpose : Purpose) : Prop where
  fate : Fate c rest n id command purpose
  /-- No other command has its id. -/
  own : ∀ m, (c.actAll rest).commandOf m = some id → m = n
  /-- A caller that waits for the hub goes on with the first news, and only then. -/
  goes_on : (c.actAll rest).callers[n]? = some (.awaiting id purpose) →
    ((c.actAll rest).act (.run n)).callers[n]? =
      some ((verdict id c rest).elim (.awaiting id purpose) fun outcome =>
        .done (purpose.answer outcome))
  /-- Text that is no frame, has no outcome for this command or comes after the
  one it had does not change what the run says of it. -/
  unmoved : ∀ stamp text,
    Action.outcomeFor id (.receive stamp (.text text)) = none ∨ (verdict id c rest).isSome →
      verdict id c (rest ++ [.receive stamp (.text text)]) = verdict id c rest
  /-- A command ends once. -/
  final : ∀ result, (c.actAll rest).callers[n]? = some (.done result) →
    ∀ more, (c.actAll (rest ++ more)).callers[n]? = some (.done result)
  /-- Once the connection is down, no command waits in the table, there was news
  of this one, and its caller ends with its next turn after the last write. -/
  down : (c.actAll rest).connected = false →
    (c.actAll rest).commands.entries = [] ∧ (verdict id c rest).isSome ∧
      ((c.actAll rest).canWrite = false →
        ∃ result, ((c.actAll rest).act (.run n)).callers[n]? = some (.done result))

theorem Correlated.find?_parked {outcome : ClientResult Json} (h : c.Correlated)
    (parked : (id, outcome) ∈ c.outcomes) :
    (c.outcomes.find? fun o => o.1 = id) = some (id, outcome) := by
  cases hf : c.outcomes.find? fun o => o.1 = id with
  | none => simpa using List.find?_eq_none.1 hf _ parked
  | some p =>
    obtain ⟨i, other⟩ := p
    obtain rfl : i = id := find?_outcomes hf
    rw [h.parked_unique (List.mem_of_find?_eq_some hf) parked]

/-- A caller that waits for the hub takes what there is for it. -/
theorem Correlated.awaiting_run {v : Option (ClientResult Json)} (h : c.Correlated)
    (at_ : c.callers[n]? = some (.awaiting id purpose)) (u : c.UnderWay id v) :
    (c.act (.run n)).callers[n]? =
      some (v.elim (.awaiting id purpose) fun outcome => .done (purpose.answer outcome)) := by
  have run := run_awaiting at_
  cases v with
  | none =>
    have absent : (c.outcomes.find? fun o => o.1 = id) = none := by
      refine List.find?_eq_none.2 fun p hp => ?_
      simp only [decide_eq_true_eq]
      exact fun e => h.parked_gone p hp (e ▸ u)
    rw [run, collect, absent]
    exact at_
  | some outcome =>
    rw [run, collect, h.find?_parked u]
    show (c.callers.set n (.done (purpose.answer ((outcome.map _).map Prod.snd))))[n]? = _
    rw [map_snd_withId, getElem?_set_caller at_, if_pos rfl]
    rfl

/-- With a writing side that stopped, a caller that waits for a place goes on. -/
theorem sending_run_stopped (at_ : c.callers[n]? = some (.sending id command purpose))
    (stopped : c.writer.isStopped = true) :
    (c.act (.run n)).callers[n]? =
      some (.done (purpose.answer (.error (.connectionLost "writer task has stopped")))) := by
  have run : c.act (.run n) = { c with commands := (c.commands.forget id).1 }.lose n purpose
      "writer task has stopped" := (run_sending at_).trans (if_pos stopped)
  rw [run]
  show (c.callers.set n _)[n]? = _
  rw [getElem?_set_caller at_, if_pos rfl]
  rfl

theorem Tracked.settled {rest : List Action} (t : Tracked c rest n id command purpose)
    (h : (c.actAll rest).Correlated) (up : c.connected = true) :
    Settled c rest n id command purpose where
  fate := t.fate
  own := by
    intro m hm
    by_cases mine : (c.actAll rest).commandOf n = some id
    · exact h.given_once m n id hm mine
    · exact absurd hm (t.gone mine m)
  goes_on := fun at_ => h.awaiting_run at_ (t.underWay (commandOf_of_caller at_))
  unmoved := fun _ _ => verdict_text
  final := by
    intro result at_ more
    rw [actAll_append]
    exact done_actAll more at_
  down := by
    intro down
    have heard := verdict_of_down id up down
    refine ⟨h.down down, heard, fun still => ?_⟩
    -- It can go on: the writing side stopped, or the loss is parked for it.
    cases t.fate with
    | sending at_ out => exact ⟨_, sending_run_stopped at_ (isStopped_of_down down still)⟩
    | awaiting at_ entered =>
      obtain ⟨outcome, hv⟩ := Option.isSome_iff_exists.1 heard
      refine ⟨purpose.answer outcome, ?_⟩
      rw [h.awaiting_run at_ (t.underWay (commandOf_of_caller at_)), hv]
      rfl
    | answered outcome at_ entered first => exact ⟨_, done_act _ at_⟩
    | lost reason at_ out => exact ⟨_, done_act _ at_⟩

/-- Every command that a caller starts in any run ends at most once. If it got
into the queue, it ends with the first news of it after it got its id: the
hub's first answer with that id, or the loss of the connection. If it did not
get there, it is lost. Nothing else that the hub sends changes that, and no
command outlives the connection. -/
theorem command_outcome (reachable : c.Reachable) (starts : c.starting n = some (command, purpose))
    (rest : List Action) :
    (c.connected = true →
      Settled (c.act (.run n)) rest n c.commands.nextId command purpose) ∧
    (c.connected = false →
      ((c.act (.run n)).actAll rest).callers[n]? =
        some (.done (purpose.answer (.error (.connectionLost "client is closed")))) ∧
      ((c.act (.run n)).actAll rest).commands.entries = []) := by
  constructor
  · intro up
    have t := (tracked_start reachable starts up).actAll (reachable.act _) rest
    exact t.settled ((reachable.act _).actAll rest).correlated (starting_up starts up).2.2.2
  · intro down
    constructor
    · exact done_actAll rest (starting_down starts down)
    · refine ((reachable.act _).actAll rest).correlated.down ?_
      exact connected_actAll c (.run n :: rest) down

/-- A ping whose answer is lost with the connection. -/
theorem command_outcome_ping :
    let c := (start 4 none).actAll [.call (.command .ping)]
    let stamp : Stamp := ⟨⟨⟨2024, 1, 1⟩, 0, 0, 0, 0⟩, 0⟩
    c.Reachable ∧ c.starting 0 = some (.ping, .plain) ∧
      Settled (c.act (.run 0)) [.run 0, .receive stamp .ended, .run 0] 0 1 .ping .plain :=
  ⟨⟨4, none, [.call (.command .ping)], rfl⟩, rfl,
    (command_outcome ⟨4, none, [.call (.command .ping)], rfl⟩ rfl _).1 rfl⟩

end Connection

end HubAutomation
