import HubAutomation.Proofs.Trigger.OwnClocks

/-!
# Handlers do not see each other

Handlers come and go, are shown events and wait for their windows. Where no
callback takes time or changes the set, a handler is delivered what it is
delivered alone, and fails where it fails alone.

- `Dispatcher.Request.Quiet`, `Dispatcher.Request.LeavesIn`: the requests that
  leave a handler in the set.
- `Dispatcher.Attends.actAll`: what a run is to a handler on its own clock.
- `Dispatcher.Joins`: a handler comes into a set.
- `Dispatcher.siblings_do_not_matter`: a handler among others and alone.
-/

namespace HubAutomation

namespace Dispatcher

variable {d : Dispatcher} {a : Attachment} {h : TriggerHandler} {w : Watch}

/-! ### Requests -/

namespace Request

/-- The callbacks that come with a request take no time and leave the set alone. -/
def Quiet : Request → Prop
  | .attach _ _ callback | .replace _ _ _ callback => callback.Quiet
  | _ => True

/-- Nothing is done to the handler behind an id. -/
def LeavesIn (id : Nat) : Request → Prop
  | .detach other | .replace other _ _ _ => other ≠ id
  | _ => True

/-- What a request is to the handlers that stay in the set: an event that they
are shown, or time that passes. -/
def act? : Request → Option Watch.Act
  | .dispatch event => some (.event event)
  | .advance milliseconds => some (.advance milliseconds)
  | _ => none

end Request

/-- A settled set stays so with one quiet handler more. -/
theorem Settled.attach (settled : d.Settled) (quiet : h.callback.Quiet) :
    (d.attach h).Settled where
  quiet := ⟨List.forall_mem_append.2 ⟨settled.quiet.callbacks, by simpa using quiet⟩,
    settled.quiet.windows⟩
  rested := settled.rested
  calm := settled.calm
  set := (keeps_attach d h).set settled.set
  fresh := by
    intro serial le
    have longer : d.handlers.length ≤ (d.handlers ++ [h]).length := by simp
    exact settled.fresh serial (longer.trans le)

/-- A settled set stays so with one handler less. -/
theorem Settled.detach (settled : d.Settled) (id : Nat) : (d.detach id).Settled := by
  have set := (keeps_detach d id).set settled.set
  unfold Dispatcher.detach at set ⊢
  split
  · rename_i b found
    have quiet := settled.quiet.cancel b.serial
    rw [found] at set
    refine ⟨⟨quiet.callbacks, quiet.windows⟩, settled.rested, settled.calm, set, ?_⟩
    intro serial le
    exact settled.fresh serial (length_modify d _ _ ▸ le)
  · exact settled

theorem Settled.replace (settled : d.Settled) (quiet : h.callback.Quiet) (id : Nat) :
    (d.replace id h).Settled := by
  have set := (keeps_replace d id h).set settled.set
  unfold Dispatcher.replace at set ⊢
  split
  · rename_i b found
    have attached := settled.attach quiet
    have quiet := attached.quiet.cancel b.serial
    rw [found] at set
    refine ⟨⟨quiet.callbacks, quiet.windows⟩, settled.rested, settled.calm, set, ?_⟩
    intro serial le
    exact attached.fresh serial (length_modify (d.attach h) _ _ ▸ le)
  · exact settled

/-- A settled set stays so after a quiet request. -/
theorem Settled.act (settled : d.Settled) {request : Request} (quiet : request.Quiet) :
    (d.act request).Settled := by
  cases request with
  | attach rules timeout callback => exact settled.attach quiet
  | detach id => exact settled.detach id
  | replace id rules timeout callback =>
    exact settled.replace (h := .ofRules rules timeout callback) quiet id
  | dispatch event => exact (settled.dispatch event).1
  | advance milliseconds => exact (settled.advance milliseconds).1

theorem Follows.lt {serial : Nat} (follows : d.Follows serial w) : serial < d.handlers.length :=
  (List.getElem?_eq_some_iff.1 follows.handler).1

/-- A handler does not notice that another one is attached. -/
theorem Attends.attach (attends : d.Attends a w) (h : TriggerHandler) :
    (d.attach h).Attends a w where
  within := List.mem_append_left _ attends.within
  clock := attends.clock
  follows := attends.follows.congr (List.getElem?_append_left attends.follows.lt) rfl rfl

/-- A handler does not notice that another one is taken out. -/
theorem Attends.detach (attends : d.Attends a w) (settled : d.Settled) {id : Nat}
    (other : id ≠ a.id) : (d.detach id).Attends a w := by
  unfold Dispatcher.detach
  split
  · rename_i b found
    obtain ⟨there, rfl⟩ := HandlerSet.find?_eq_some found
    have otherSerial : b.serial ≠ a.serial := fun same => other
      (congrArg _ (List.inj_on_of_nodup_map settled.set.serials there attends.within same))
    refine ⟨?_, attends.clock, attends.follows.congr ?_ rfl rfl⟩
    · exact List.mem_filter.2 ⟨attends.within, by simpa using Ne.symm other⟩
    · exact (getElem?_modify d _ _ _).trans (if_neg otherSerial)
  · exact attends

/-- A handler does not notice that another one is replaced. -/
theorem Attends.replace (attends : d.Attends a w) (settled : d.Settled) {id : Nat}
    (other : id ≠ a.id) (h : TriggerHandler) : (d.replace id h).Attends a w := by
  unfold Dispatcher.replace
  split
  · rename_i b found
    obtain ⟨there, rfl⟩ := HandlerSet.find?_eq_some found
    have otherSerial : b.serial ≠ a.serial := fun same => other
      (congrArg _ (List.inj_on_of_nodup_map settled.set.serials there attends.within same))
    refine ⟨?_, attends.clock, attends.follows.congr ?_ rfl rfl⟩
    · exact List.mem_map.2 ⟨a, attends.within, if_neg (Ne.symm other)⟩
    · exact ((getElem?_modify (d.attach h) _ _ _).trans (if_neg otherSerial)).trans
        (List.getElem?_append_left attends.follows.lt)
  · exact attends

/-- A request is to a handler of the set what it is on its own clock. -/
theorem Attends.act (attends : d.Attends a w) (settled : d.Settled) {request : Request}
    (leaves : request.LeavesIn a.id) : (d.act request).Attends a (request.act?.elim w w.act) := by
  cases request with
  | attach rules timeout callback => exact attends.attach _
  | detach id => exact attends.detach settled leaves
  | replace id rules timeout callback => exact attends.replace settled leaves _
  | dispatch event => exact ((settled.dispatch event).2 a w attends).1
  | advance milliseconds => exact (settled.advance milliseconds).2 a w attends

/-! ### Runs -/

/-- The reports of the dispatches of a run. -/
def reportsOf : Dispatcher → List Request → List DispatchReport
  | _, [] => []
  | d, .dispatch event :: rest => (d.dispatch event).2 :: reportsOf (d.dispatch event).1 rest
  | d, request :: rest => reportsOf (d.act request) rest

/-- What comes of a handler in the dispatches of a run: whether it fails. -/
def failures (d : Dispatcher) (id : Nat) (requests : List Request) : List Bool :=
  (d.reportsOf requests).map fun report => decide (id ∈ report.failed)

end Dispatcher

/-- Whether a handler fails, for the events of a run. -/
def Watch.failures : Watch → List Act → List Bool
  | _, [] => []
  | w, .event event :: rest =>
    decide (w.verdict event.data = .contradiction) :: failures (w.act (.event event)) rest
  | w, a :: rest => failures (w.act a) rest

namespace Dispatcher

variable {d : Dispatcher} {a : Attachment} {w : Watch} {requests : List Request}

theorem Settled.actAll (settled : d.Settled) (quiet : ∀ r ∈ requests, r.Quiet) :
    (d.actAll requests).Settled := by
  induction requests generalizing d with
  | nil => exact settled
  | cons request rest ih =>
    obtain ⟨first, others⟩ := List.forall_mem_cons.1 quiet
    exact ih (settled.act first) others

/-- In a run a handler of a set does what it does on its own clock, and fails
where it fails there. -/
theorem Attends.actAll (attends : d.Attends a w) (settled : d.Settled)
    (quiet : ∀ r ∈ requests, r.Quiet) (leaves : ∀ r ∈ requests, r.LeavesIn a.id) :
    (d.actAll requests).Attends a (w.actAll (requests.filterMap Request.act?)) ∧
      d.failures a.id requests = w.failures (requests.filterMap Request.act?) := by
  induction requests generalizing d w with
  | nil => exact ⟨attends, rfl⟩
  | cons request rest ih =>
    obtain ⟨calm, quiet⟩ := List.forall_mem_cons.1 quiet
    obtain ⟨here, leaves⟩ := List.forall_mem_cons.1 leaves
    obtain ⟨attends', failures⟩ := ih (attends.act settled here) (settled.act calm) quiet leaves
    cases request with
    | attach | detach | replace => exact ⟨attends', failures⟩
    | advance milliseconds => exact ⟨attends', failures⟩
    | dispatch event =>
      refine ⟨attends', ?_⟩
      have own := ((settled.dispatch event).2 a w attends).2
      show decide _ :: _ = decide _ :: _
      rw [decide_eq_decide.2 own]
      exact congrArg _ failures

/-- A handler comes into a set: it is attached, or takes the place of another. -/
inductive Joins (d : Dispatcher) (rules : RuleSet) (timeout : Nat) (callback : Callback) :
    Request → Attachment → Prop
  | attach : Joins d rules timeout callback (.attach rules timeout callback)
      ⟨d.set.lastId + 1, d.handlers.length⟩
  | replace {id : Nat} (found : d.set.contains id = true) :
      Joins d rules timeout callback (.replace id rules timeout callback) ⟨id, d.handlers.length⟩

/-- A handler on a clock that shows some time. -/
def watchFrom (now : Nat) (rules : RuleSet) (timeout : Nat) (callback : Callback) : Watch :=
  ⟨rules, callback, ⟨⟨now, []⟩, .new timeout, callback.delivery, []⟩⟩

/-- A handler that joins begins on a clock of its own. -/
theorem Joins.attends {rules : RuleSet} {timeout : Nat} {callback : Callback}
    {request : Request} (joins : d.Joins rules timeout callback request a) (settled : d.Settled) :
    (d.act request).Attends a (watchFrom d.now rules timeout callback) := by
  obtain ⟨noWindow, nothing⟩ := settled.fresh d.handlers.length (Nat.le_refl _)
  have new : (d.handlers ++ [TriggerHandler.ofRules rules timeout callback])[d.handlers.length]? =
      some (watchFrom d.now rules timeout callback).handler := by
    rw [List.getElem?_append_right (Nat.le_refl _), Nat.sub_self]
    rfl
  cases joins with
  | attach =>
    exact ⟨List.mem_append_right _ List.mem_cons_self, rfl, new, noWindow, nothing, rfl⟩
  | @replace id found =>
    obtain ⟨b, found⟩ := Option.isSome_iff_exists.1 found
    obtain ⟨there, isId⟩ := HandlerSet.find?_eq_some found
    show (d.replace id _).Attends _ _
    unfold Dispatcher.replace
    rw [found]
    have known := settled.set.known b there
    refine ⟨?_, rfl, ?_, noWindow, nothing, rfl⟩
    · refine List.mem_map.2 ⟨b, there, ?_⟩
      rw [if_pos isId, isId]
    · exact ((getElem?_modify _ _ _ _).trans (if_neg known.ne)).trans new

theorem settled_new (now : Nat) : (new now).Settled where
  quiet := ⟨fun _ mem => absurd mem List.not_mem_nil, fun _ mem => absurd mem List.not_mem_nil⟩
  rested := fun _ mem => absurd mem List.not_mem_nil
  calm := rfl
  set := (sound_new now).set
  fresh := fun _ _ => ⟨rfl, rfl⟩

/-- The deliveries to a handler that comes into a set at some time, by the
requests that follow. -/
def deliveries (now : Nat) (rules : RuleSet) (timeout : Nat) (callback : Callback)
    (requests : List Request) : List (Nat × Event StateChange) :=
  ((watchFrom now rules timeout callback).actAll (requests.filterMap Request.act?)).calls.begun

/-- The dispatches of a run, and the time that passes. -/
def plain (requests : List Request) : List Request := requests.filter fun r => r.act?.isSome

theorem filterMap_plain (requests : List Request) :
    (plain requests).filterMap Request.act? = requests.filterMap Request.act? := by
  rw [plain, List.filterMap_filter]
  refine List.filterMap_congr fun r _ => ?_
  cases r <;> rfl

theorem plain_leaves (id : Nat) {requests : List Request} :
    ∀ r ∈ plain requests, r.Quiet ∧ r.LeavesIn id := by
  intro r mem
  have isSome := (List.mem_filter.1 mem).2
  cases r with
  | attach | detach | replace => cases isSome
  | dispatch | advance => exact ⟨trivial, trivial⟩

/-- A handler that comes into a set, however that came about and whatever else
comes and goes later, is delivered the same events at the same times as if it were
alone, and fails in the same dispatches. -/
theorem siblings_do_not_matter {now timeout : Nat} {rules : RuleSet} {callback : Callback}
    {before after : List Request} {request : Request}
    (joins : ((new now).actAll before).Joins rules timeout callback request a)
    (quiet : ∀ r ∈ before ++ request :: after, r.Quiet)
    (leaves : ∀ r ∈ after, r.LeavesIn a.id) :
    let there := (new now).actAll before
    let among := there.act request
    let alone := (new there.now).attach (.ofRules rules timeout callback)
    let delivered := deliveries there.now rules timeout callback after
    (among.actAll after).heard a.serial = (alone.actAll (plain after)).heard 0 ∧
      among.failures a.id after = alone.failures 1 (plain after) ∧
      (among.actAll after).heard a.serial =
        delivered.flatMap fun x => callback.delivery.start x.1 x.2 := by
  intro there among alone delivered
  obtain ⟨quietBefore, quietRequest, quietAfter⟩ :
      (∀ r ∈ before, r.Quiet) ∧ request.Quiet ∧ ∀ r ∈ after, r.Quiet := by
    simpa [or_imp, forall_and] using quiet
  have settled : there.Settled := (settled_new now).actAll quietBefore
  have calm : callback.Quiet := by cases joins <;> exact quietRequest
  obtain ⟨ended, failures⟩ := (joins.attends settled).actAll (settled.act quietRequest) quietAfter
    leaves
  have joinsAlone : (new there.now).Joins rules timeout callback
      (.attach rules timeout callback) ⟨1, 0⟩ := .attach
  obtain ⟨ended', failures'⟩ := (joinsAlone.attends (settled_new there.now)).actAll
    ((settled_new there.now).attach calm) (fun r mem => (plain_leaves 1 r mem).1)
    fun r mem => (plain_leaves 1 r mem).2
  rw [filterMap_plain] at ended' failures'
  refine ⟨?_, failures.trans failures'.symm, ?_⟩
  · exact ended.follows.heard.trans ended'.follows.heard.symm
  · rw [ended.follows.heard, Watch.callback_actAll]
    rfl

/-- A callback that panics when it is called. -/
def shaky : Callback := .script ⟨"shaky", none, some .other, none, .success⟩

/-- A handler has a sibling that panics in the middle of a dispatch, and another
one whose window ends with its own. -/
theorem siblings_do_not_matter_shaky :
    ∃ before request after a,
      ((new 0).actAll before).Joins .empty 10 (.script (.plain "lamp")) request a ∧
      (∀ r ∈ before ++ request :: after, r.Quiet) ∧ (∀ r ∈ after, r.LeavesIn a.id) ∧
      ((((new 0).actAll before).act request).actAll after).heard a.serial =
        [.called "lamp" 17 bareChange] ∧
      (((new 7).attach (.ofRules .empty 10 (.script (.plain "lamp")))).actAll
        (plain after)).heard 0 = [.called "lamp" 17 bareChange] := by
  have calm (s : Script) (leaves : s.detaches = none) (awake : s.sleeps = none) :
      (Callback.script s).Quiet :=
    ⟨fun _ _ => by simp [Callback.delivery, Delivery.ofScripts, Script.takes?, awake], leaves⟩
  have joins : ((new 0).actAll [.attach .empty 0 shaky, .advance 7]).Joins .empty 10
      (.script (.plain "lamp")) (.attach .empty 10 (.script (.plain "lamp"))) ⟨2, 1⟩ := .attach
  have quiet : ∀ r ∈ [Request.attach .empty 0 shaky, .advance 7] ++
      .attach .empty 10 (.script (.plain "lamp")) ::
        [.attach .empty 10 shaky, .dispatch bareChange, .advance 20], r.Quiet := by
    simp [Request.Quiet, shaky, calm, Script.plain]
  have leaves : ∀ r ∈ [Request.attach .empty 10 shaky, .dispatch bareChange, .advance 20],
      r.LeavesIn 2 := by simp [Request.LeavesIn]
  obtain ⟨same, -, heard⟩ := siblings_do_not_matter joins quiet leaves
  exact ⟨_, _, _, _, joins, quiet, leaves, heard.trans rfl, same.symm.trans (heard.trans rfl)⟩

end Dispatcher

end HubAutomation
