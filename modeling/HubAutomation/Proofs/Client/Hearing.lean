import HubAutomation.Proofs.Client.Firings
import Mathlib.Data.List.Induction

/-!
# Hearing

As long as nobody ends a subscription, every event frame is heard by the
listeners of one type, and what was done before it arrives tells which: it is
the type that its subscription was sent for, whether or not the hub has answered
yet. A frame that names no subscription, or one that no listener sent, or one
whose listener was told that it is refused, is heard by the listeners of its
event's own type.

- `Connection.sent`, `Connection.refused`: the subscriptions that were sent in a
  run, and those whose callers were told that they are refused.
- `Connection.Hears`: whether listeners of a type hear a frame.
- `Connection.RouteStep`: what an action does to routes.
- `Connection.Steady.mem_routes`: routes are what was sent and not refused.
- `Connection.heard`: the frames of a run that listeners of a type hear.
- `Connection.listeners_hear`: what a listener gets.
-/

namespace HubAutomation

namespace CallerState

/-- The subscription that a listening caller sends, with its id and its type. -/
def subscribes? : CallerState → Option (Nat × String)
  | .sending id (.subscribeEvents _) (.subscribe type _) => some (id, type)
  | _ => none

/-- The subscription whose answer a listening caller waits for. -/
def awaits? : CallerState → Option Nat
  | .awaiting id (.subscribe _ _) => some id
  | _ => none

/-- A caller that is not in line asks for no subscription. -/
theorem subscribes?_of_not_inLine {s : CallerState} (h : s.inLine = false) :
    s.subscribes? = none := by
  unfold subscribes?
  split
  · cases h
  · rfl

/-- A caller that is not in line waits for no subscription. -/
theorem awaits?_of_not_inLine {s : CallerState} (h : s.inLine = false) : s.awaits? = none := by
  unfold awaits?
  split
  · cases h
  · rfl

/-- A caller that waits for a subscription listens. -/
theorem awaits?_eq_some {s : CallerState} {id : Nat} (h : s.awaits? = some id) :
    ∃ type r, s = .awaiting id (.subscribe type r) := by
  unfold awaits? at h
  split at h
  · cases h
    exact ⟨_, _, rfl⟩
  · cases h

end CallerState

namespace Connection

variable {c c' : Connection} {n k id : Nat} {type : String} {a : Action} {past : List Action}

/-! ### What listeners sent -/

/-- The subscription that a listening caller sends in an action. -/
def sent? (c : Connection) : Action → Option (Nat × String)
  | .run n =>
    if (c.view n CallerState.subscribes?).isNone then
      (c.act (.run n)).view n CallerState.subscribes?
    else none
  | _ => none

/-- The subscription of which a listening caller is told in an action that it is
refused. -/
def refused? (c : Connection) : Action → Option Nat
  | .run n =>
    (c.view n CallerState.awaits?).filter fun id => c.outcomes.any fun o => o.1 = id && !o.2.isOk
  | _ => none

/-- What the actions of a run show, one after another. -/
def shown {α : Type} (f : Connection → Action → Option α) : Connection → List Action → List α
  | _, [] => []
  | c, a :: rest => (f c a).toList ++ shown f (c.act a) rest

/-- The subscriptions that listening callers sent in a run. -/
def sent (c : Connection) (actions : List Action) : List (Nat × String) := shown sent? c actions

/-- The subscriptions that were refused in a run. -/
def refused (c : Connection) (actions : List Action) : List Nat := shown refused? c actions

/-- The subscriptions that were sent in a run and not refused. -/
def served (c : Connection) (actions : List Action) : List (Nat × String) :=
  (sent c actions).filter fun p => p.1 ∉ refused c actions

/-- Whether listeners of a type hear a frame that arrives after a run: their
subscription, or no subscription and the event is of that type. -/
def Hears (type : String) (c : Connection) (past : List Action) (frame : EventFrame) : Prop :=
  (∃ p ∈ served c past, frame.id = some p.1 ∧ p.2 = type) ∨
    (∀ p ∈ served c past, frame.id ≠ some p.1) ∧ frame.event.type = type

instance (type : String) (c : Connection) (past : List Action) (frame : EventFrame) :
    Decidable (Hears type c past frame) :=
  inferInstanceAs (Decidable (_ ∨ _))

/-- What is shown in a run was shown before the last action or by it. -/
theorem mem_shown_concat {α : Type} {f : Connection → Action → Option α} {x : α} :
    x ∈ shown f c (past ++ [a]) ↔ x ∈ shown f c past ∨ f (c.actAll past) a = some x := by
  induction past generalizing c with
  | nil =>
    show x ∈ (f c a).toList ++ [] ↔ x ∈ [] ∨ _
    simp
  | cons b rest ih =>
    show x ∈ (f c b).toList ++ shown f (c.act b) (rest ++ [a]) ↔
      x ∈ (f c b).toList ++ shown f (c.act b) rest ∨ _
    rw [List.mem_append, ih, List.mem_append, or_assoc]
    rfl

/-- A subscription is served after an action if it was sent and not refused, before it
or by it. -/
theorem mem_served_concat {p : Nat × String} :
    p ∈ served c (past ++ [a]) ↔ (p ∈ sent c past ∨ (c.actAll past).sent? a = some p) ∧
      p.1 ∉ refused c past ∧ (c.actAll past).refused? a ≠ some p.1 := by
  simp only [served, sent, refused, List.mem_filter, mem_shown_concat, decide_eq_true_eq, not_or]

/-! ### Routes, step by step -/

/-- A turn sends a request if its caller begins to wait with one. -/
theorem sent?_run {s s' : CallerState} (at_ : c.callers[n]? = some s)
    (callers : (c.act (.run n)).callers = c.callers.set n s') :
    c.sent? (.run n) = if s.subscribes?.isNone then s'.subscribes? else none := by
  rw [sent?, view_set _ at_ callers, if_pos rfl, view, at_]
  rfl

/-- A turn refuses a request if its caller collects an error. -/
theorem refused?_run {s : CallerState} (at_ : c.callers[n]? = some s) :
    c.refused? (.run n) =
      s.awaits?.filter fun id => c.outcomes.any fun o => o.1 = id && !o.2.isOk := by
  rw [refused?, view, at_]
  rfl

/-- What an action does to routes. -/
inductive RouteStep (c : Connection) (a : Action) (c' : Connection) : Prop where
  | same (sent : c.sent? a = none) (refused : c.refused? a = none)
      (routes : c'.subscriptions.routes = c.subscriptions.routes)
  | sends (type : String) (sent : c.sent? a = some (c.commands.nextId, type))
      (refused : c.refused? a = none)
      (routes : ∀ p, p ∈ c'.subscriptions.routes ↔
        p ∈ c.subscriptions.routes ∨ p = (c.commands.nextId, type))
  | refuses (id : Nat) (given : id < c.commands.nextId) (sent : c.sent? a = none)
      (refused : c.refused? a = some id)
      (routes : ∀ p, p ∈ c'.subscriptions.routes ↔ p ∈ c.subscriptions.routes ∧ p.1 ≠ id)

/-- A caller that neither sends nor waits for an answer changes no route. -/
theorem RouteStep.of_aside {s s' : CallerState} (at_ : c.callers[n]? = some s)
    (callers : (c.act (.run n)).callers = c.callers.set n s') (before : s.awaits? = none)
    (after : s'.subscribes? = none)
    (routes : (c.act (.run n)).subscriptions.routes = c.subscriptions.routes) :
    RouteStep c (.run n) (c.act (.run n)) := by
  refine .same ?_ ?_ routes
  · rw [sent?_run at_ callers, after]
    exact ite_self _
  · rw [refused?_run at_, before]
    rfl

/-- A subscription is answered: it loses its route if it is refused. -/
theorem RouteStep.of_answer {r : Receiver} {outcome : ClientResult Json}
    {result : ClientResult CallValue} (sound : c.Correlated)
    (at_ : c.callers[n]? = some (.awaiting id (.subscribe type r)))
    (parked : (id, outcome) ∈ c.outcomes)
    (callers : (c.act (.run n)).callers = c.callers.set n (.done result))
    (subs : (c.act (.run n)).subscriptions = c.subscriptions.answered id type r outcome) :
    RouteStep c (.run n) (c.act (.run n)) := by
  have sent : c.sent? (.run n) = none := by
    rw [sent?_run at_ callers]
    rfl
  have refused : c.refused? (.run n) =
      if c.outcomes.any fun o => o.1 = id && !o.2.isOk then some id else none := by
    rw [refused?_run at_]
    rfl
  cases outcome with
  | ok value =>
    refine .same sent ?_ ?_
    · rw [refused, if_neg]
      intro refusal
      obtain ⟨⟨i, o⟩, mem, is_⟩ := List.any_eq_true.1 refusal
      rw [Bool.and_eq_true, decide_eq_true_eq] at is_
      obtain ⟨rfl, bad⟩ := is_
      obtain rfl := sound.parked_unique parked mem
      cases bad
    · rw [subs]
      rfl
  | error e =>
    refine .refuses id (sound.parked_lt _ parked) sent ?_ fun p => ?_
    · rw [refused, if_pos]
      exact List.any_eq_true.2 ⟨_, parked, by simp [Except.isOk, Except.toBool]⟩
    · rw [subs, Subscriptions.mem_answered]
      refine and_congr_right fun _ => ⟨fun h same => ?_, fun other same => absurd same other⟩
      obtain ⟨value, is_⟩ := h same
      cases is_

/-- A turn changes the routes as the request that it sends or refuses says. -/
theorem ListenerTurn.routeStep (t : ListenerTurn c n (c.act (.run n))) (reachable : c.Reachable)
    (up : (c.act (.run n)).isUp = true) (stays : ∀ type, ¬ Takes type c (.run n)) :
    RouteStep c (.run n) (c.act (.run n)) := by
  cases t with
  | aside s s' at_ open_ callers before after asks gets lock left =>
    exact .of_aside at_ callers (CallerState.awaits?_of_not_inLine before)
      (CallerState.subscribes?_of_not_inLine after) (by rw [left.of_up up])
  | listen eventType at_ callers lock subs =>
    exact .of_aside at_ callers rfl rfl (by rw [subs, Subscriptions.routes_stream])
  | unlisten eventType at_ callers lock subs => exact .of_aside at_ callers rfl rfl (by rw [subs])
  | join eventType receiver at_ holds recorded callers lock left =>
    exact .of_aside at_ callers rfl rfl (by rw [left.of_up up])
  | subscribe eventType receiver at_ holds unrecorded connected callers commands lock subs =>
    refine .sends eventType ?_ ?_ fun p => ?_
    · rw [sent?_run at_ callers]
      rfl
    · rw [refused?_run at_]
      rfl
    · rw [subs, Subscriptions.mem_route]
      refine or_congr_left (and_iff_left_of_imp fun hp => ?_)
      exact Nat.ne_of_lt (reachable.routed.given p.1 p.2 hp)
  | lost s eventType receiver reason at_ asked lost callers lock left =>
    have down := reachable.writing.down_of_lost lost
    rw [(c.act_step (.run n)).isUp up] at down
    cases down
  | untaken eventType at_ holds unrecorded callers lock left =>
    exact .of_aside at_ callers rfl rfl (by rw [left.of_up up])
  | taken eventType subscriptions handle s' at_ holds take callers after gets lock left =>
    have recorded : c.subscriptions.isSubscribed eventType = true := by
      rw [Subscriptions.isSubscribed, Dict.mem, find?_of_take take]
      rfl
    exact absurd ⟨view_eq_some.2 ⟨_, at_, rfl⟩, holds, recorded⟩ (stays eventType)
  | queued id command eventType receiver at_ callers lock subs =>
    exact .of_aside at_ callers rfl rfl (by rw [subs])
  | answered id eventType receiver outcome at_ parked callers lock left =>
    exact .of_answer reachable.correlated at_ parked callers (left.of_up up)

/-- A caller whose answer is there waits no longer after its turn. -/
theorem not_awaiting_of_parked {purpose : Purpose} {o : Nat × ClientResult Json}
    (at_ : c.callers[n]? = some (.awaiting id purpose)) (parked : o ∈ c.outcomes) (mine : o.1 = id) :
    (c.act (.run n)).callers[n]? ≠ some (.awaiting id purpose) := by
  cases found : c.outcomes.find? fun o => o.1 = id with
  | none => exact absurd mine (by simpa using List.find?_eq_none.1 found o parked)
  | some p =>
    rw [run_awaiting at_, collect, found]
    show (c.callers.set n (.done _))[n]? ≠ _
    rw [getElem?_set_caller at_, if_pos rfl]
    intro still
    cases still

/-- What happens beside turns leaves the routes alone. -/
theorem ListenerEvent.routeStep (e : ListenerEvent c a (c.act a)) (up : (c.act a).isUp = true) :
    RouteStep c a (c.act a) := by
  refine .same ?_ ?_ ?_
  · -- Without a turn, no caller begins to send.
    cases a with
    | run n =>
      cases after : (c.act (.run n)).view n CallerState.subscribes? with
      | none =>
        rw [sent?, after]
        exact ite_self _
      | some p =>
        rw [sent?, e.view (fun _ => rfl) after]
        rfl
    | _ => rfl
  · -- A caller whose answer is there takes a turn.
    cases a with
    | run n =>
      refine Option.eq_none_iff_forall_ne_some.2 fun id told => ?_
      obtain ⟨waits, refusal⟩ := Option.filter_eq_some_iff.1 told
      obtain ⟨s, at_, is_⟩ := view_eq_some.1 waits
      obtain ⟨type, r, rfl⟩ := CallerState.awaits?_eq_some is_
      obtain ⟨o, parked, mine⟩ := List.any_eq_true.1 refusal
      rw [Bool.and_eq_true, decide_eq_true_eq] at mine
      have still := (e.caller_iff (fun request is_ => by cases is_) n).2 at_
      exact not_awaiting_of_parked at_ parked mine.1 still
    | _ => rfl
  · cases e with
    | quiet silent callers lock left => rw [left.of_up up]
    | event frame reading brings callers lock subs => rw [subs, Subscriptions.routes_dispatch]

/-- In a run that goes on, routes are added by requests and removed by refusals. -/
theorem Reachable.routeStep (reachable : c.Reachable) (up : (c.act a).isUp = true)
    (stays : ∀ type, ¬ Takes type c a) : RouteStep c a (c.act a) := by
  rcases (c.act_step a).listeners with ⟨n, rfl, t⟩ | e
  · exact t.routeStep reachable up stays
  · exact e.routeStep up

/-! ### Runs in which nobody ends a subscription -/

/-- Whether an action brings a caller that wants to end a subscription. -/
def Action.isUnlisten : Action → Bool
  | .call (.unlisten _) => true
  | _ => false

/-- Nobody wants to end a subscription. -/
def Lasting (c : Connection) : Prop :=
  ∀ (n : Nat) (type : String), c.view n CallerState.unlistens? ≠ some type ∧
    c.view n CallerState.ending? ≠ some type

/-- Where nobody ends a subscription, nobody begins to. -/
theorem Lasting.not_beginsEnding (h : c.Lasting) (type : String) (a : Action) :
    ¬ BeginsEnding type c a := by
  cases a with
  | run m => exact (h m type).1
  | _ => exact id

/-- Where nobody ends a subscription, none is taken out. -/
theorem Lasting.not_takes (h : c.Lasting) (type : String) (a : Action) : ¬ Takes type c a :=
  not_takes_of_nobody (fun m => (h m type).2) a

/-- Nobody ends a subscription until somebody is told to. -/
theorem Lasting.act (h : c.Lasting) (stays : a.isUnlisten = false) : (c.act a).Lasting := by
  refine fun n type => ⟨fun wants => ?_, fun ends => ?_⟩
  · obtain ⟨s, at', is_⟩ := view_eq_some.1 wants
    rw [CallerState.unlistens?_eq_some.1 is_] at at'
    rcases ready_act at' with at_ | rfl
    · exact (h n type).1 (view_eq_some.2 ⟨_, at_, rfl⟩)
    · cases stays
  · exact (h n type).2 (ending_act (h.not_beginsEnding type a) ends)

/-- In a run without such calls, all subscriptions last. -/
theorem lasting_actAll (h : c.Lasting) {actions : List Action}
    (stays : ∀ a ∈ actions, a.isUnlisten = false) :
    (c.actAll actions).Lasting ∧ ∀ type, ¬ Sometime (BeginsEnding type) c actions := by
  induction actions generalizing c with
  | nil => exact ⟨h, fun _ => id⟩
  | cons a rest ih =>
    obtain ⟨now, later⟩ := List.forall_mem_cons.1 stays
    obtain ⟨last, none_⟩ := ih (h.act now) later
    exact ⟨last, fun type begins => begins.elim (h.not_beginsEnding type a) (none_ type)⟩

/-- At first there is nothing that could end. -/
theorem lasting_start (capacity : Nat) (broken : Option String) : (start capacity broken).Lasting :=
  fun _ _ => ⟨nofun, nofun⟩

/-- A run after the handshake in which nobody wants to end a subscription, and
that leaves the connection up. -/
structure Steady (init : Connection) (past : List Action) : Prop where
  fresh : ∃ capacity broken, init = start capacity broken
  stays : ∀ a ∈ past, a.isUnlisten = false
  up : (init.actAll past).isUp = true

namespace Steady

variable {init : Connection} {rest : List Action}

/-- A steady run is a run. -/
theorem reachable (h : Steady init past) : (init.actAll past).Reachable := by
  obtain ⟨capacity, broken, rfl⟩ := h.fresh
  exact ⟨capacity, broken, past, rfl⟩

/-- The first part of a steady run is steady. -/
theorem before (h : Steady init (past ++ rest)) : Steady init past where
  fresh := h.fresh
  stays := fun a ha => h.stays a (List.mem_append_left _ ha)
  up := by
    have up := h.up
    rw [actAll_append] at up
    exact isUp_of_actAll _ rest up

/-- Any beginning of a steady run is steady. -/
theorem of_part {actions : List Action} (h : Steady init actions) (part : past <+: actions) :
    Steady init past := by
  obtain ⟨later, rfl⟩ := part
  exact h.before

/-- In a steady run subscriptions last. -/
theorem lasting (h : Steady init past) : (init.actAll past).Lasting := by
  obtain ⟨capacity, broken, rfl⟩ := h.fresh
  exact (lasting_actAll (lasting_start capacity broken) h.stays).1

/-- A steady run changes the routes step by step. -/
theorem routeStep (h : Steady init (past ++ [a])) :
    RouteStep (init.actAll past) a ((init.actAll past).act a) := by
  have up := h.up
  rw [actAll_append] at up
  exact h.before.reachable.routeStep up fun type => h.before.lasting.not_takes type a

end Steady

/-! ### Routes after a run -/

/-- A subscription is served if it was sent and not refused. -/
theorem mem_served {init : Connection} {p : Nat × String} :
    p ∈ served init past ↔ p ∈ sent init past ∧ p.1 ∉ refused init past := by
  rw [served, List.mem_filter, decide_eq_true_eq]

/-- Only requests that were sent are refused. -/
theorem RouteStep.refused_lt (step : RouteStep c a c') (told : c.refused? a = some id) :
    id < c.commands.nextId := by
  cases step with
  | same sent kept routes =>
    rw [kept] at told
    cases told
  | sends type sent kept routes =>
    rw [kept] at told
    cases told
  | refuses i given sent refused routes =>
    rw [refused] at told
    cases told
    exact given

/-- What was refused got its id before. -/
theorem Steady.refused_lt {init : Connection} (h : Steady init past) (mem : id ∈ refused init past) :
    id < (init.actAll past).commands.nextId := by
  induction past using List.reverseRecOn with
  | nil => cases mem
  | append_singleton rest a ih =>
    rw [actAll_append]
    refine Nat.lt_of_lt_of_le ?_ ((init.actAll rest).nextId_le_act a)
    exact (mem_shown_concat.1 mem).elim (ih h.before) h.routeStep.refused_lt

/-- While the connection is up and nobody ends a subscription, the routes are the
subscriptions that were sent and not refused. -/
theorem Steady.mem_routes {init : Connection} (h : Steady init past) (p : Nat × String) :
    p ∈ (init.actAll past).subscriptions.routes ↔ p ∈ served init past := by
  induction past using List.reverseRecOn with
  | nil =>
    obtain ⟨capacity, broken, rfl⟩ := h.fresh
    exact Iff.rfl
  | append_singleton rest a ih =>
    have routes := ih h.before
    rw [mem_served] at routes
    rw [actAll_append, mem_served_concat]
    show p ∈ ((init.actAll rest).act a).subscriptions.routes ↔ _
    cases h.routeStep with
    | same none_ kept same =>
      rw [same, routes, none_, kept]
      simp
    | sends type new kept more =>
      rw [more, routes, new, kept]
      constructor
      · rintro (⟨mem, fine⟩ | rfl)
        · exact ⟨.inl mem, fine, nofun⟩
        · -- What is new has not been refused, as it has just got its id.
          exact ⟨.inr rfl, fun mem => absurd (h.before.refused_lt mem) (Nat.lt_irrefl _), nofun⟩
      · rintro ⟨mem | e, fine, -⟩
        · exact .inl ⟨mem, fine⟩
        · exact .inr (Option.some.inj e).symm
    | refuses i old none_ told less =>
      rw [less, routes, none_, told]
      constructor
      · rintro ⟨⟨mem, fine⟩, other⟩
        exact ⟨.inl mem, fine, fun e => other (Option.some.inj e).symm⟩
      · rintro ⟨mem | e, fine, other⟩
        · exact ⟨⟨mem, fine⟩, fun e => other (congrArg some e.symm)⟩
        · cases e

/-- A subscription that the hub has not refused yet is not counted as refused. -/
theorem Steady.not_refused {init : Connection} (h : Steady init past)
    (accepted : ∀ a ∈ past, a.refuses id = false) : id ∉ refused init past := by
  induction past using List.reverseRecOn with
  | nil => exact List.not_mem_nil
  | append_singleton rest a ih =>
    obtain ⟨before, -⟩ := List.forall_mem_append.1 accepted
    intro mem
    rcases mem_shown_concat.1 mem with mem | told
    · exact ih h.before before mem
    · cases a with
      | run n =>
        obtain ⟨-, refusal⟩ := Option.filter_eq_some_iff.1 told
        obtain ⟨⟨i, outcome⟩, parked, is_⟩ := List.any_eq_true.1 refusal
        rw [Bool.and_eq_true, decide_eq_true_eq] at is_
        obtain ⟨rfl, bad⟩ := is_
        -- Only the hub can have left a refusal for the caller.
        have accepts : Accepts (init.actAll rest) i := by
          obtain ⟨capacity, broken, rfl⟩ := h.fresh
          have reachable : (start capacity broken).Reachable := ⟨capacity, broken, [], rfl⟩
          exact accepts_run reachable (fun _ _ => List.not_mem_nil) before
        cases outcome with
        | ok value => cases bad
        | error e => exact accepts (isUp_iff.1 h.before.up).1 e parked
      | _ => cases told

/-! ### Who hears a frame -/

/-- A frame goes to the stream of the type whose listeners hear it. -/
theorem Steady.target {init : Connection} (h : Steady init past) (frame : EventFrame) :
    (init.actAll past).subscriptions.target frame.id frame.event = type ↔
      Hears type init past frame := by
  have keys := h.reachable.routed.keys
  have routes := h.mem_routes
  by_cases known : ∃ p ∈ served init past, frame.id = some p.1
  · obtain ⟨p, mem, tag⟩ := known
    have mem' := (routes p).2 mem
    rw [tag, Subscriptions.target_of_mem keys mem']
    constructor
    · exact fun is_ => .inl ⟨p, mem, tag, is_⟩
    · rintro (⟨q, hq, tag', is_⟩ | ⟨none_, -⟩)
      · have same := List.inj_on_of_nodup_map keys mem' ((routes q).2 hq)
          (Option.some.inj (tag.symm.trans tag'))
        rw [same]
        exact is_
      · exact absurd tag (none_ p mem)
  · have none_ : ∀ p ∈ served init past, frame.id ≠ some p.1 := fun p mem tag => known ⟨p, mem, tag⟩
    have own : (init.actAll past).subscriptions.target frame.id frame.event = frame.event.type := by
      cases tag : frame.id with
      | none => rfl
      | some id =>
        refine Subscriptions.target_of_unrouted (fun type mem => ?_) _
        exact none_ _ ((routes _).1 mem) tag
    rw [own]
    constructor
    · exact fun is_ => .inr ⟨none_, is_⟩
    · rintro (⟨p, mem, tag, -⟩ | ⟨-, is_⟩)
      · exact absurd tag (none_ p mem)
      · exact is_

/-- The event frame that an action brings. -/
def Action.event? (a : Action) : Option EventFrame :=
  match a.frame? with
  | some (.event frame) => some frame
  | _ => none

/-- The event frames of a run that listeners of a type hear, by what was done
before it and in it. -/
def heard (type : String) (c : Connection) : List Action → List Action → List EventFrame
  | _, [] => []
  | past, a :: rest =>
    (a.event?.toList.filter fun frame => Hears type c past frame) ++
      heard type c (past ++ [a]) rest

/-- What an action brings to the channel of a stream, the listeners of its type
hear. -/
theorem Steady.delivery {init : Connection} (h : Steady init past)
    (found : (init.actAll past).subscriptions.streams.find? type = some k) (a : Action) :
    Connection.delivery k (init.actAll past) a =
      a.event?.toList.filter fun frame => Hears type init past frame := by
  unfold Connection.delivery Action.event?
  cases brings : a.frame? with
  | none => rfl
  | some frame =>
    cases frame with
    | event frame =>
      have goes : ((init.actAll past).reading = true ∧ (init.actAll past).subscriptions.streams.find?
          ((init.actAll past).subscriptions.target frame.id frame.event) = some k) ↔
            Hears type init past frame := by
        rw [← h.target frame]
        refine ⟨fun ⟨_, there⟩ => h.reachable.streams.injective _ _ k there found, fun is_ => ?_⟩
        rw [is_]
        exact ⟨h.reachable.reading h.up, found⟩
      dsimp only
      rw [Option.toList_some, List.filter_singleton, Bool.cond_decide]
      exact if_congr goes rfl rfl
    | _ => rfl

/-- What a run brings to the channel of a stream, the listeners of its type
hear. -/
theorem Steady.delivered {init : Connection} {rest : List Action} (h : Steady init (past ++ rest))
    (found : (init.actAll past).subscriptions.streams.find? type = some k) :
    Connection.delivered k (init.actAll past) rest = heard type init past rest := by
  induction rest generalizing past with
  | nil => rfl
  | cons a rest ih =>
    have split : past ++ a :: rest = (past ++ [a]) ++ rest := by simp
    have next : Steady init (past ++ [a]) := (split ▸ h).before
    have found' : (init.actAll (past ++ [a])).subscriptions.streams.find? type = some k := by
      have up := next.up
      rw [actAll_append] at up ⊢
      exact stream_act up (h.before.lasting.not_takes type a) found
    have later := ih (split ▸ h) found'
    rw [actAll_append] at later
    exact congrArg₂ (· ++ ·) (h.before.delivery found a) later

/-! ### What a listener gets -/

/-- A listener in line has a receiver. -/
theorem Waiting.receiver? {r : Receiver} (w : Waiting c n type r) :
    c.view n CallerState.receiver? = some r := by
  obtain ⟨s, at_, kind⟩ := w.caller
  refine view_eq_some.2 ⟨s, at_, ?_⟩
  rcases kind with rfl | ⟨id, asked⟩
  · rfl
  · unfold CallerState.subscribing? at asked
    split at asked <;> cases asked <;> rfl

/-- What a caller that waits with a receiver gets is that receiver. -/
theorem Waiting.gets {r r' : Receiver} {type' : String} {actions : List Action}
    (w : Waiting c n type r) (reachable : c.Reachable)
    (stays : ¬ Sometime (BeginsEnding type) c actions)
    (gets : (c.actAll actions).view n CallerState.listener? = some (type', r')) :
    type' = type ∧ r' = r := by
  obtain ⟨s, at_, is_⟩ := view_eq_some.1 gets
  rw [CallerState.listener?_eq_some.1 is_] at at_
  rcases waiting_or_returned actions reachable (.inl w) stays with w | done
  · obtain ⟨s, at', kind⟩ := w.caller
    cases at_.symm.trans at'
    rcases kind with kind | ⟨id, kind⟩ <;> cases kind
  · obtain ⟨result, at', kind⟩ := done.caller
    cases at_.symm.trans at'
    rcases kind with ⟨kind, -⟩ | ⟨e, kind⟩ <;> cases kind
    exact ⟨rfl, rfl⟩

/-- While the connection is up and nobody ends a subscription, a caller that
begins to listen to a type has a receiver from then on, and that is what it gets
in the end. Unless the receiver falls behind, it gets, once and in the order in
which they arrive, the frames that listeners of its type hear and that arrive
from then on, whether or not the hub has answered by then. Each frame is heard
by the listeners of exactly one type; and what was sent is counted as refused
only if the hub refused it. -/
theorem listeners_hear {init : Connection} {before : List Action} {n : Nat} {type : String}
    {moves : List Move} (steady : Steady init (before ++ .run n :: Move.actions moves))
    (begins : (init.actAll before).view n CallerState.listens? = some type) :
    let opened := init.actAll (before ++ [.run n])
    let last := opened.actAll (Move.actions moves)
    (∃ r, opened.view n CallerState.receiver? = some r ∧
      (∀ type' r', last.view n CallerState.listener? = some (type', r') → type' = type ∧ r' = r) ∧
      (KeepsUp opened r moves →
        (follow Subscriptions.receiveKept opened r moves).1.filterMap Received.event? ++
            (last.subscriptions.channelOf r).events.drop
              (follow Subscriptions.receiveKept opened r moves).2.next =
          (heard type init (before ++ [.run n]) (Move.actions moves)).map EventFrame.event)) ∧
    ∀ past, past <+: before ++ .run n :: Move.actions moves →
      (∀ frame, ∃! type', Hears type' init past frame) ∧
      ∀ id type', (id, type') ∈ sent init past → (∀ a ∈ past, a.refuses id = false) →
        (id, type') ∈ served init past := by
  intro opened last
  have split : Steady init ((before ++ [.run n]) ++ Move.actions moves) := by
    rw [List.append_assoc]
    exact steady
  have reachable : opened.Reachable := split.before.reachable
  have opens : opened = (init.actAll before).act (.run n) := actAll_append _ _ _
  -- From its first turn on the caller has its receiver.
  obtain ⟨r, waiting, found, next⟩ := waiting_of_listens steady.before.reachable begins
  rw [← opens] at waiting found next
  refine ⟨⟨r, waiting.receiver?, fun type' r' gets => ?_, fun keepsUp => ?_⟩, fun past part => ?_⟩
  · obtain ⟨-, none_⟩ := lasting_actAll split.before.lasting
      fun a ha => split.stays a (List.mem_append_right _ ha)
    exact waiting.gets reachable (none_ type) gets
  · -- The receiver began at the end of its channel.
    obtain ⟨ch, hch, -⟩ := reachable.streams.isOpen type r.channel found
    obtain ⟨ch', hch', all⟩ := follow_events hch (Nat.le_of_eq (next ch hch)) keepsUp
    rw [Subscriptions.channelOf_eq hch', all, next ch hch, List.drop_length, List.nil_append,
      split.delivered found]
  · have here : Steady init past := steady.of_part part
    refine ⟨fun frame => ?_, fun id type' mem accepted => ?_⟩
    · exact ⟨_, (here.target frame).1 rfl, fun type' h => ((here.target frame).2 h).symm⟩
    · exact mem_served.2 ⟨mem, here.not_refused accepted⟩

/-- A first listener to all events hears one that arrives before the hub has
answered. -/
theorem listeners_hear_unanswered :
    let text (s : String) := Action.receive ⟨⟨⟨2024, 1, 1⟩, 0, 0, 0, 0⟩, 0⟩ (.text s)
    let before := [.call (.listen "*")]
    let moves := [.act (.run 0), .act (.run 0), .act .write, .act .write,
      .act (text "[\"event\",1,[\"t\",0]]"), .act (text "[\"result\",1,true]"), .act (.run 0), .read]
    let opened := (start 4 none).actAll (before ++ [.run 0])
    (heard "*" (start 4 none) (before ++ [.run 0]) (Move.actions moves)).length = 1 ∧
      (heard "t" (start 4 none) (before ++ [.run 0]) (Move.actions moves)).length = 0 ∧
      ((follow Subscriptions.receiveKept opened ⟨0, 0⟩ moves).1.filterMap Received.event? ++
        ((opened.actAll (Move.actions moves)).subscriptions.channelOf ⟨0, 0⟩).events.drop
          (follow Subscriptions.receiveKept opened ⟨0, 0⟩ moves).2.next).length = 1 := by
  intro text before moves opened
  have one : (heard "*" (start 4 none) (before ++ [.run 0]) (Move.actions moves)).length = 1 := by
    decide +kernel
  have steady : Steady (start 4 none) (before ++ .run 0 :: Move.actions moves) :=
    ⟨⟨4, none, rfl⟩, by decide +kernel, by decide +kernel⟩
  have begins : ((start 4 none).actAll before).view 0 CallerState.listens? = some "*" := by
    decide +kernel
  obtain ⟨⟨r, has, -, hears⟩, -⟩ := listeners_hear steady begins
  have mine : opened.view 0 CallerState.receiver? = some ⟨0, 0⟩ := by decide +kernel
  obtain rfl : (⟨0, 0⟩ : Receiver) = r := Option.some.inj (mine.symm.trans has)
  refine ⟨one, by decide +kernel, ?_⟩
  rw [hears ⟨by decide +kernel, trivial⟩, List.length_map]
  exact one

end Connection

end HubAutomation
