import HubAutomation.Client.Call
import HubAutomation.Proofs.Client.SentMessages
import HubAutomation.Proofs.Shorthands
import HubAutomation.Proofs.Wire.CommandTexts

/-!
# Calls by shorthand

A client that is given a shorthand sends the service call that the shorthand
names, once. It sends nothing for a text that is no shorthand.

- `Call.ServiceFrame`: the frame of a service call.
- `Call.ShorthandRun`: what the call of a shorthand comes to in a run.
- `Call.sent_as_named`: what a shorthand names is what is sent.
-/

namespace HubAutomation

namespace Call

open Connection ServiceCall

variable {c : Connection} {shorthand : String} {data : Json} {call : ServiceCall}
  {e : ShorthandError}

/-! ### The frame of a service call -/

/-- A frame whose members are the kind, the id and the parts of a call. -/
def ServiceFrame (call : ServiceCall) (id : Nat) (frame : String) : Prop :=
  ∃ members : Dict Json, frame = (Json.object members).text ∧
    (∀ key, key ∈ members.keys ↔ key ∈ ["id", "type", "domain", "service", "service_data"]) ∧
    members.find? "id" = some (.nat id) ∧
    members.find? "type" = some (.string "call_service") ∧
    members.find? "domain" = some (.string call.domain) ∧
    members.find? "service" = some (.string call.service) ∧
    members.find? "service_data" = some call.data

/-- The frame of a service call names the service and carries its data. -/
theorem serviceFrame (call : ServiceCall) (id : Nat) :
    ServiceFrame call id ((serviceCommand call).frame id) := by
  refine ⟨(serviceCommand call).members id, rfl, fun key => ?_, Command.find?_members_id _ _,
    Command.find?_members_type _ _, ?_, ?_, ?_⟩
  · rw [Command.mem_keys_members, List.mem_cons, List.mem_cons]
    rfl
  · rw [Command.find?_members]
    rfl
  · rw [Command.find?_members]
    rfl
  · rw [Command.find?_members]
    rfl

/-! ### The run of a call -/

/-- A shorthand that names a service becomes a command. -/
theorem request_of_ok (named : ServiceCall.ofShorthand shorthand data = .ok call) :
    (callShorthand shorthand data).request = .command (serviceCommand call) := by
  have ok : Call.ofShorthand shorthand data = .ok call := congrArg (Except.mapError _) named
  unfold request
  dsimp only
  rw [ok]

/-- A shorthand that names none sends nothing. -/
theorem request_of_error (unnamed : ServiceCall.ofShorthand shorthand data = .error e) :
    (callShorthand shorthand data).request = .nothing := by
  have error : Call.ofShorthand shorthand data = .error (.invalidRequest e.message) :=
    congrArg (Except.mapError _) unnamed
  unfold request
  dsimp only
  rw [error]

/-- The caller of a shorthand that names no service is told so. -/
theorem answer_of_error (unnamed : ServiceCall.ofShorthand shorthand data = .error e)
    (stamp : Stamp) (result : ClientResult CallValue) :
    (callShorthand shorthand data).answer stamp result = .error (.invalidRequest e.message) := by
  have error : Call.ofShorthand shorthand data = .error (.invalidRequest e.message) :=
    congrArg (Except.mapError _) unnamed
  show (Call.ofShorthand shorthand data >>= fun _ => _) = _
  rw [error]
  rfl

theorem answer_of_lost (named : ServiceCall.ofShorthand shorthand data = .ok call)
    (stamp : Stamp) (reason : String) :
    (callShorthand shorthand data).answer stamp (.error (.connectionLost reason)) =
      .error (.connectionLost reason) := by
  have ok : Call.ofShorthand shorthand data = .ok call := congrArg (Except.mapError _) named
  show (Call.ofShorthand shorthand data >>= fun _ => _) = _
  rw [ok]
  rfl

/-- The messages that the caller of a shorthand sends, from its arrival on. -/
def sentFor (c : Connection) (shorthand : String) (data : Json) (rest : List Action) :
    List Outgoing :=
  sentBy c.callers.length (c.act (.call (callShorthand shorthand data).request)) rest

/-- What the call of a shorthand comes to in a run of a connection. -/
structure ShorthandRun (c : Connection) (shorthand : String) (data : Json) (rest : List Action)
    (after : Connection) : Prop where
  /-- A text that is no shorthand sends nothing, and the caller is told so. -/
  refused : ∀ e, ServiceCall.ofShorthand shorthand data = .error e →
    e = ⟨shorthand⟩ ∧ sentFor c shorthand data rest = [] ∧
      ∀ stamp result, after.callers[c.callers.length]? = some (.done result) →
        (callShorthand shorthand data).answer stamp result = .error (.invalidRequest e.message)
  /-- Nothing but the call is sent, and it is sent once. -/
  sent : ∀ call, ServiceCall.ofShorthand shorthand data = .ok call →
    sentFor c shorthand data rest = [] ∨
      ∃ id, sentFor c shorthand data rest = [.command id (serviceCommand call)]
  /-- A call that came back was sent, unless it was lost with the connection. -/
  returned : ∀ call, ServiceCall.ofShorthand shorthand data = .ok call → ∀ stamp result,
    after.callers[c.callers.length]? = some (.done result) →
      (∃ id, sentFor c shorthand data rest = [.command id (serviceCommand call)]) ∨
      sentFor c shorthand data rest = [] ∧ after.isUp = false ∧
        ∃ reason, (callShorthand shorthand data).answer stamp result =
          .error (.connectionLost reason)
  /-- When nobody can go on and the connection is up, the call was written once. -/
  written : ∀ call, ServiceCall.ofShorthand shorthand data = .ok call → after.isUp = true →
    (∀ m, after.canRun m = false) → after.canWrite = false →
      ∃ id, sentFor c shorthand data rest = [.command id (serviceCommand call)] ∧
        .command id (serviceCommand call) ∈ after.wire ∧
        (after.wire.filterMap Outgoing.id?).count id = 1

/-- A new caller is the last one. -/
theorem caller_of_call (held : c.isHeld = true) (request : Request) :
    (c.act (.call request)).callers[c.callers.length]? = some (.ready request) := by
  have call : c.act (.call request) = { c with callers := c.callers ++ [.ready request] } :=
    if_pos held
  rw [call]
  exact List.getElem?_concat_length

theorem sent_of_ok (reachable : c.Reachable) (held : c.isHeld = true)
    (named : ServiceCall.ofShorthand shorthand data = .ok call) (rest : List Action) :
    Sent (serviceCommand call) c.callers.length
      ((c.act (.call (callShorthand shorthand data).request)).actAll rest)
      (sentFor c shorthand data rest) := by
  have at_ := caller_of_call held (callShorthand shorthand data).request
  rw [request_of_ok named] at at_
  have sent := (Sent.ready at_).actAll (reachable.act _) rest
  rw [← request_of_ok named, List.nil_append] at sent
  exact sent

/-- A call by shorthand goes as its shorthand says. -/
theorem shorthandRun (reachable : c.Reachable) (held : c.isHeld = true) (shorthand : String)
    (data : Json) (rest : List Action) :
    ShorthandRun c shorthand data rest
      ((c.act (.call (callShorthand shorthand data).request)).actAll rest) where
  refused e unnamed := by
    -- The caller of such a text asks for nothing, whatever it is answered.
    refine ⟨ofShorthand_error unnamed, ?_, fun stamp result _ => answer_of_error unnamed _ _⟩
    have at_ := caller_of_call held (callShorthand shorthand data).request
    refine sentBy_of_nothing (.inl ?_) rest
    rwa [request_of_error unnamed] at at_ ⊢
  sent call named := by
    have sent := sent_of_ok reachable held named rest
    generalize sentFor c shorthand data rest = log at sent ⊢
    cases sent with
    | ready | sending | lost => exact .inl rfl
    | awaiting id at_ => exact .inr ⟨id, rfl⟩
    | done id outcome at_ => exact .inr ⟨id, rfl⟩
  returned call named stamp result at_ := by
    have sent := sent_of_ok reachable held named rest
    generalize sentFor c shorthand data rest = log at sent ⊢
    -- A caller that is done took an outcome up, or its command was lost.
    cases sent with
    | ready other => cases at_.symm.trans other
    | sending id other => cases at_.symm.trans other
    | awaiting id other => cases at_.symm.trans other
    | done id outcome other => exact .inl ⟨id, rfl⟩
    | lost reason other down =>
      cases at_.symm.trans other
      exact .inr ⟨rfl, down, reason, answer_of_lost named stamp reason⟩
  written call named up quiet still := by
    have reachable' := (reachable.act (.call (callShorthand shorthand data).request)).actAll rest
    obtain ⟨id, log⟩ := (sent_of_ok reachable held named rest).of_quiet reachable' up quiet still
    have mem : .command id (serviceCommand call) ∈
        ((c.act (.call (callShorthand shorthand data).request)).actAll rest).wire := by
      have mem : .command id (serviceCommand call) ∈ sentFor c shorthand data rest := by
        rw [log]
        exact List.mem_cons_self
      exact (reachable.act _).mem_wire mem up still
    refine ⟨id, log, mem, List.count_eq_one_of_mem reachable'.ids_once ?_⟩
    exact List.mem_filterMap.2 ⟨_, mem, rfl⟩

/-- A text is a shorthand if and only if it is the text of an entity id, a point
and a name without one, which are then the only ones. Its call is for the domain
of the id, with the data that are given and the id, where these have none. That
call is what a client sends, once, and it sends nothing for any other text. -/
theorem sent_as_named (shorthand : String) (data : Json) :
    ((∃ call, ServiceCall.ofShorthand shorthand data = .ok call) ↔
      ∃ id service, Names shorthand id service) ∧
    (∀ id service id' service', Names shorthand id service → Names shorthand id' service' →
      id = id' ∧ service = service') ∧
    (∀ id service, Names shorthand id service → ∃ members : Dict Json,
      ServiceCall.ofShorthand shorthand data = .ok ⟨id.domain, service, .object members⟩ ∧
      members.Sorted ∧ ∀ key, members.find? key =
        (data.entry? key).or (if key = "entity_id" then some (.string id.text) else none)) ∧
    (∀ c : Connection, c.Reachable → c.isHeld = true → ∀ rest, ShorthandRun c shorthand data rest
      ((c.act (.call (callShorthand shorthand data).request)).actAll rest)) ∧
    ∀ call id, ServiceFrame call id ((serviceCommand call).frame id) := by
  refine ⟨⟨?_, ?_⟩, fun _ _ _ _ => Names.unique, fun id service names => ?_,
    fun c reachable held rest => shorthandRun reachable held shorthand data rest, serviceFrame⟩
  · rintro ⟨call, named⟩
    exact names_of_ofShorthand named
  · rintro ⟨id, service, names⟩
    exact ⟨_, ofShorthand_eq names data⟩
  · exact ⟨_, ofShorthand_eq names data, sorted_addressed id data, find?_addressed id data⟩

/-- A lamp is dimmed. The call stands in the queue after two turns of its caller,
and is written after two of the writing side. -/
theorem sent_as_named_turn_on :
    let data := Json.object [("brightness", .int 40)]
    let members := [("brightness", .int 40), ("entity_id", .string "light.kitchen")]
    let call : ServiceCall := ⟨"light", "turn_on", .object members⟩
    let request := (callShorthand "light.kitchen.turn_on" data).request
    let c := ((start 4 none).act (.call request)).actAll [.run 0, .run 0, .write, .write]
    ServiceCall.ofShorthand "light.kitchen.turn_on" data = .ok call ∧
      c.isUp = true ∧ (∀ m, c.canRun m = false) ∧ c.canWrite = false ∧
      ∃ id, .command id (serviceCommand call) ∈ c.wire ∧
        (c.wire.filterMap Outgoing.id?).count id = 1 := by
  intro data members call request c
  obtain ⟨-, -, -, run, -⟩ := sent_as_named "light.kitchen.turn_on" data
  have named : ServiceCall.ofShorthand "light.kitchen.turn_on" data = .ok call := rfl
  have up : c.isUp = true := rfl
  have quiet : ∀ m, c.canRun m = false
    | 0 => rfl
    | _ + 1 => rfl
  have still : c.canWrite = false := rfl
  obtain ⟨id, -, written⟩ :=
    (run (start 4 none) ⟨4, none, [], rfl⟩ rfl _).written call named up quiet still
  exact ⟨named, up, quiet, still, id, written⟩

end Call

end HubAutomation
