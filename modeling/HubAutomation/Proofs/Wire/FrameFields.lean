import HubAutomation.Frame
import HubAutomation.Proofs.Json.Records
import HubAutomation.Proofs.Json.RoundTrip
import HubAutomation.Proofs.Json.TaggedObjects

/-!
# What a frame depends on

A frame is decoded from what stands under the names of its fields. The order of
the members does not matter, neither in the frame nor in the refusal or the
event inside it, and members of other names are skipped. What a document leaves
out is made up on reading, so two readings agree but for that.

- `Frame.Alike`: objects that give a frame the same fields.
- `Frame.Same`: frames that differ in nothing but what was made up.
- `Frame.decode_alike`: frames of texts with the same fields.
-/

namespace HubAutomation

/-! ### The same under the names that count -/

/-- Two documents that are the same to a record with the given fields: they are
equal, or they are objects without repeated keys that have the same under each
of the names. -/
inductive Json.Alike (names : List String) : Json → Json → Prop where
  | same (j : Json) : Json.Alike names j j
  | objects {a b : List (String × Json)} (once : (Dict.keys a).Nodup)
      (once' : (Dict.keys b).Nodup)
      (fields : ∀ name ∈ names, Dict.find? a name = Dict.find? b name) :
      Json.Alike names (.object a) (.object b)

namespace Record

variable {r r' : Record} {name : String} {α : Type} {read : Json → ReadResult α}

/-- A reader asks for nothing but its field. -/
theorem required_congr (same : r.field? name = r'.field? name) :
    r.required name read = r'.required name read := by
  unfold required
  rw [same]

theorem optional_congr (same : r.field? name = r'.field? name) :
    r.optional name read = r'.optional name read := by
  unfold optional
  rw [same]

theorem nullable_congr (same : r.field? name = r'.field? name) :
    r.nullable name read = r'.nullable name read := by
  unfold nullable
  rw [same]

variable {names : List String}

/-- A field is read alike where it holds documents that are alike. -/
theorem required_alike (alike : Option.Rel (Json.Alike names) (r.field? name) (r'.field? name))
    (reads : ∀ {j j'}, Json.Alike names j j' → read j = read j') :
    r.required name read = r'.required name read := by
  unfold required
  generalize r.field? name = field, r'.field? name = field' at alike ⊢
  cases alike with
  | some alike => exact reads alike
  | none => rfl

theorem nullable_alike (alike : Option.Rel (Json.Alike names) (r.field? name) (r'.field? name))
    (reads : ∀ {j j'}, Json.Alike names j j' → read j = read j') :
    r.nullable name read = r'.nullable name read := by
  unfold nullable
  generalize r.field? name = field, r'.field? name = field' at alike ⊢
  cases alike with
  | some alike =>
    cases alike with
    | same j => rfl
    | objects once once' fields =>
      exact congrArg (Except.map some) (reads (.objects once once' fields))
  | none => rfl

/-- The fields of a record are the same in documents that are alike. -/
theorem ofJson_alike {j j' : Json} (alike : Json.Alike names j j') :
    (∃ e, ofJson names j = .error e ∧ ofJson names j' = .error e) ∨
      ∃ r r', ofJson names j = .ok r ∧ ofJson names j' = .ok r' ∧
        ∀ name ∈ names, r.field? name = r'.field? name := by
  cases alike with
  | same j =>
    cases h : ofJson names j with
    | error e => exact .inl ⟨e, rfl, rfl⟩
    | ok r => exact .inr ⟨r, r, rfl, rfl, fun _ _ => rfl⟩
  | objects once once' fields =>
    exact .inr ⟨_, _, ofJson_object names once, ofJson_object names once', fields⟩

end Record

/-- A refusal is read from two fields. -/
theorem Refusal.ofJson_alike {j j' : Json} (alike : Json.Alike ["code", "message"] j j') :
    Refusal.ofJson j = Refusal.ofJson j' := by
  unfold Refusal.ofJson
  rcases Record.ofJson_alike alike with ⟨e, failed, failed'⟩ | ⟨r, r', read, read', same⟩
  · rw [failed, failed']
  · rw [read, read']
    show (r.optional "message" Json.asString >>= fun message => _) = _
    rw [Record.optional_congr (same "message" (by decide)), same "code" (by decide)]
    rfl

/-! ### What a document leaves out -/

/-- What a document says of an event. -/
structure Event.Given where
  type : String
  data : Json
  origin : Option Origin
  timeFired : Option Instant
  context : Option Context

namespace Event

/-- What a document says of an event. -/
def given (j : Json) : ReadResult Given := do
  let r ← Record.ofJson fieldNames j
  let type ← r.required "event_type" Json.asString
  let data ← r.required "data" Json.asValue
  let origin ← r.optional "origin" Origin.ofBuffered
  let timeFired ← r.optional "time_fired" Json.asInstant
  let context ← r.optional "context" Context.ofJson
  pure ⟨type, data, origin, timeFired, context⟩

/-- The event of which something was said, here and now. -/
def Given.event (stamp : Stamp) (g : Given) : Event Json :=
  ⟨g.type, g.data, g.origin.getD .local, g.timeFired.getD stamp.now,
    g.context.getD (Context.fresh stamp)⟩

/-- What an event leaves out is made up behind the reading. -/
theorem ofBuffered_eq (stamp : Stamp) (j : Json) :
    ofBuffered stamp j = (given j).map (Given.event stamp) := by
  unfold ofBuffered ofDocument given
  show _ = Given.event stamp <$> (_ : ReadResult Given)
  simp only [map_bind, map_pure]
  rfl

/-- An event is read from its fields alone. -/
theorem given_alike {j j' : Json} (alike : Json.Alike fieldNames j j') : given j = given j' := by
  unfold given
  rcases Record.ofJson_alike alike with ⟨e, failed, failed'⟩ | ⟨r, r', read, read', same⟩
  · rw [failed, failed']
  · rw [read, read']
    show (r.required "event_type" Json.asString >>= fun type =>
      r.required "data" Json.asValue >>= fun data =>
      r.optional "origin" Origin.ofBuffered >>= fun origin =>
      r.optional "time_fired" Json.asInstant >>= fun timeFired =>
      r.optional "context" Context.ofJson >>= fun context => _) = _
    rw [Record.required_congr (same "event_type" (by decide)),
      Record.required_congr (same "data" (by decide)),
      Record.optional_congr (same "origin" (by decide)),
      Record.optional_congr (same "time_fired" (by decide)),
      Record.optional_congr (same "context" (by decide))]
    rfl

end Event

namespace Frame

variable {a b : List (String × Json)} {stamp stamp' : Stamp}

/-! ### Frames with the same fields -/

/-- The fields of a frame of a type. -/
def fieldNames : (tag : String) → List String
  | "auth_required" | "auth_ok" => ["ha_version"]
  | "auth_invalid" => ["message"]
  | "result" => CommandResult.fieldNames
  | "event" => ["id", "event"]
  | "pong" => ["id"]
  | _ => []

/-- What two frames of a type may have under the name of a field: the same, but
that the members of a refusal and of an event may be moved, and other members
put to them or taken away. -/
def FieldAlike : (tag name : String) → Json → Json → Prop
  | "result", "error" => Json.Alike ["code", "message"]
  | "event", "event" => Json.Alike Event.fieldNames
  | _, _ => Eq

/-- Two frames of one type that have alike under the name of each field. -/
structure Alike (a b : List (String × Json)) : Prop where
  once : (Dict.keys a).Nodup
  once' : (Dict.keys b).Nodup
  tag : Dict.find? a "type" = Dict.find? b "type"
  fields : ∀ tag, Dict.find? a "type" = some (.string tag) → ∀ name ∈ fieldNames tag,
    Option.Rel (FieldAlike tag name) (Dict.find? a name) (Dict.find? b name)

/-- Alike for equality means equal. -/
theorem eq_of_rel {α : Type} {x y : Option α} (h : Option.Rel Eq x y) : x = y := by
  cases h with
  | some same => exact congrArg some same
  | none => rfl

theorem optionalText_alike {name : String} (once : (Dict.keys a).Nodup)
    (once' : (Dict.keys b).Nodup) (same : Dict.find? a name = Dict.find? b name) :
    optionalText name (.object a) = optionalText name (.object b) := by
  unfold optionalText
  rw [Record.ofJson_object _ once, Record.ofJson_object _ once']
  exact Record.nullable_congr same

theorem result_alike (once : (Dict.keys a).Nodup) (once' : (Dict.keys b).Nodup)
    (fields : ∀ name ∈ fieldNames "result",
      Option.Rel (FieldAlike "result" name) (Dict.find? a name) (Dict.find? b name)) :
    CommandResult.ofJson (.object a) = CommandResult.ofJson (.object b) := by
  have id : (Record.mk true a).field? "id" = (Record.mk true b).field? "id" :=
    eq_of_rel (fields "id" (by decide))
  have success : (Record.mk true a).field? "success" = (Record.mk true b).field? "success" :=
    eq_of_rel (fields "success" (by decide))
  have result : (Record.mk true a).field? "result" = (Record.mk true b).field? "result" :=
    eq_of_rel (fields "result" (by decide))
  have error : Option.Rel (Json.Alike ["code", "message"]) ((Record.mk true a).field? "error")
      ((Record.mk true b).field? "error") := fields "error" (by decide)
  unfold CommandResult.ofJson
  rw [Record.ofJson_object _ once, Record.ofJson_object _ once']
  show ((Record.mk true a).required "id" Json.asNat >>= fun id =>
    (Record.mk true a).required "success" Json.asBool >>= fun success =>
    (Record.mk true a).nullable "result" Json.asValue >>= fun result =>
    (Record.mk true a).nullable "error" Refusal.ofJson >>= fun error => _) = _
  rw [Record.required_congr id, Record.required_congr success, Record.nullable_congr result,
    Record.nullable_alike error Refusal.ofJson_alike]
  rfl

theorem event_alike (once : (Dict.keys a).Nodup) (once' : (Dict.keys b).Nodup)
    (fields : ∀ name ∈ fieldNames "event",
      Option.Rel (FieldAlike "event" name) (Dict.find? a name) (Dict.find? b name)) :
    EventFrame.ofJson stamp (.object a) = EventFrame.ofJson stamp (.object b) := by
  have id : (Record.mk true a).field? "id" = (Record.mk true b).field? "id" :=
    eq_of_rel (fields "id" (by decide))
  have event : Option.Rel (Json.Alike Event.fieldNames) ((Record.mk true a).field? "event")
      ((Record.mk true b).field? "event") := fields "event" (by decide)
  have reads : ∀ {j j' : Json}, Json.Alike Event.fieldNames j j' →
      Event.ofBuffered stamp j = Event.ofBuffered stamp j' := by
    intro j j' alike
    rw [Event.ofBuffered_eq, Event.ofBuffered_eq, Event.given_alike alike]
  unfold EventFrame.ofJson
  rw [Record.ofJson_object _ once, Record.ofJson_object _ once']
  show ((Record.mk true a).nullable "id" Json.asNat >>= fun id =>
    (Record.mk true a).required "event" (Event.ofBuffered stamp) >>= fun event => _) = _
  rw [Record.nullable_congr id, Record.required_alike event reads]
  rfl

/-- The frame of an object is decoded from its fields. -/
theorem ofTagged_alike {tag : String} (once : (Dict.keys a).Nodup) (once' : (Dict.keys b).Nodup)
    (fields : ∀ name ∈ fieldNames tag,
      Option.Rel (FieldAlike tag name) (Dict.find? a name) (Dict.find? b name)) :
    ofTagged stamp ⟨tag, .object a⟩ = ofTagged stamp ⟨tag, .object b⟩ := by
  unfold ofTagged
  dsimp only
  split
  · exact congrArg _ (optionalText_alike once once' (eq_of_rel (fields _ List.mem_cons_self)))
  · exact congrArg _ (optionalText_alike once once' (eq_of_rel (fields _ List.mem_cons_self)))
  · exact congrArg _ (optionalText_alike once once' (eq_of_rel (fields _ List.mem_cons_self)))
  · exact congrArg _ (result_alike once once' fields)
  · exact congrArg _ (event_alike once once' fields)
  · have id : (Record.mk true a).field? "id" = (Record.mk true b).field? "id" :=
      eq_of_rel (fields "id" List.mem_cons_self)
    rw [Record.ofJson_object _ once, Record.ofJson_object _ once']
    show ((Record.mk true a).required "id" Json.asNat >>= fun id => _) = _
    rw [Record.required_congr id]
    rfl
  · rfl

theorem ne_tagKey_of_mem_fieldNames {tag name : String} (mem : name ∈ fieldNames tag) :
    name ≠ Tagged.tagKey := by
  rintro rfl
  revert mem
  unfold fieldNames
  split <;> decide

/-- A text that is an object is decoded as the object. -/
theorem decode_object (stamp : Stamp) {text : String}
    (reads : Json.read? text.toList = some (.object a)) (once : (Dict.keys a).Nodup) :
    decode stamp text = Tagged.ofJson (.object a) >>= ofTagged stamp := by
  obtain ⟨rest, ended, read⟩ := Tagged.read_of_read? reads once
  unfold decode
  rw [read]
  cases Tagged.ofJson (.object a) with
  | error e => rfl
  | ok t =>
    show (ofTagged stamp t >>= fun frame => if Json.atEnd rest then pure frame
      else Except.error ReadError.malformed) = ofTagged stamp t
    rw [ended]
    exact bind_pure _

/-- Two objects with the same fields are the same frame. -/
theorem ofJson_alike (alike : Alike a b) :
    Tagged.ofJson (.object a) >>= ofTagged stamp = Tagged.ofJson (.object b) >>= ofTagged stamp := by
  have tag : Dict.find? a Tagged.tagKey = Dict.find? b Tagged.tagKey := alike.tag
  rw [Tagged.ofJson_object, Tagged.ofJson_object, ← tag]
  split
  · rename_i tag found
    refine ofTagged_alike (Dict.nodup_keys_erase alike.once _) (Dict.nodup_keys_erase alike.once' _)
      fun name mem => ?_
    rw [Dict.find?_erase_other _ (ne_tagKey_of_mem_fieldNames mem),
      Dict.find?_erase_other _ (ne_tagKey_of_mem_fieldNames mem)]
    exact alike.fields tag found name mem
  · rfl

theorem decode_congr {text text' : String} (alike : Alike a b)
    (reads : Json.read? text.toList = some (.object a))
    (reads' : Json.read? text'.toList = some (.object b)) :
    decode stamp text = decode stamp text' := by
  rw [decode_object _ reads alike.once, decode_object _ reads' alike.once', ofJson_alike alike]

/-! ### Two readings -/

/-- The same frame, but that what was left out of it was made up by each stamp. -/
inductive Same (stamp stamp' : Stamp) : Frame → Frame → Prop where
  | same (f : Frame) : Same stamp stamp' f f
  | event (id : Option Nat) (type : String) (data : Json) (origin : Origin) {time time' : Instant}
      {context context' : Context}
      (times : time = time' ∨ time = stamp.now ∧ time' = stamp'.now)
      (contexts : context = context' ∨
        context = Context.fresh stamp ∧ context' = Context.fresh stamp') :
      Same stamp stamp' (.event ⟨id, ⟨type, data, origin, time, context⟩⟩)
        (.event ⟨id, ⟨type, data, origin, time', context'⟩⟩)

/-- Two readings give the same frame or fail with the same fault. -/
inductive Agree (stamp stamp' : Stamp) : ReadResult Frame → ReadResult Frame → Prop where
  | ok {f f' : Frame} (same : Same stamp stamp' f f') : Agree stamp stamp' (.ok f) (.ok f')
  | error (e : ReadError) : Agree stamp stamp' (.error e) (.error e)

theorem Agree.refl (r : ReadResult Frame) : Agree stamp stamp' r r := by
  cases r with
  | error e => exact .error e
  | ok f => exact .ok (.same f)

theorem same_given (id : Option Nat) (g : Event.Given) :
    Same stamp stamp' (.event ⟨id, g.event stamp⟩) (.event ⟨id, g.event stamp'⟩) := by
  obtain ⟨type, data, origin, time, context⟩ := g
  refine .event id type data (origin.getD .local) ?_ ?_
  · cases time with
    | some time => exact .inl rfl
    | none => exact .inr ⟨rfl, rfl⟩
  · cases context with
    | some context =>
      show context = context ∨ _
      exact .inl rfl
    | none => exact .inr ⟨rfl, rfl⟩

/-- What a document says of an event frame. -/
def givenEvent (j : Json) : ReadResult (Option Nat × Event.Given) := do
  let r ← Record.ofJson ["id", "event"] j
  let id ← r.nullable "id" Json.asNat
  let event ← r.required "event" Event.given
  pure (id, event)

/-- What an event frame leaves out is made up behind the reading. -/
theorem eventFrame_eq (stamp : Stamp) (j : Json) :
    EventFrame.ofJson stamp j = (givenEvent j).map fun g => ⟨g.1, g.2.event stamp⟩ := by
  have required : ∀ r : Record, r.required "event" (Event.ofBuffered stamp) =
      Event.Given.event stamp <$> r.required "event" Event.given := by
    intro r
    unfold Record.required
    split
    · exact Event.ofBuffered_eq stamp _
    · rfl
  unfold EventFrame.ofJson givenEvent
  show _ = (fun g : Option Nat × Event.Given => (⟨g.1, g.2.event stamp⟩ : EventFrame)) <$>
    (_ : ReadResult (Option Nat × Event.Given))
  simp only [map_bind, map_pure, required, bind_map_left]

/-- Two readings of a frame differ in what is made up, and in nothing else. -/
theorem ofTagged_agree (t : Tagged) : Agree stamp stamp' (ofTagged stamp t) (ofTagged stamp' t) := by
  unfold ofTagged
  split
  case h_5 =>
    rw [eventFrame_eq, eventFrame_eq]
    cases givenEvent t.body with
    | error e => exact .error e
    | ok g => exact .ok (same_given g.1 g.2)
  all_goals exact .refl _

/-- Two texts are decoded to the same message, but for times and ids that were
made up, or fail with the same fault, if they have alike under the names of the
fields, wherever the members stand and whatever stands beside them. -/
theorem decode_alike {text text' : String} (alike : Alike a b)
    (reads : Json.read? text.toList = some (.object a))
    (reads' : Json.read? text'.toList = some (.object b)) (stamp stamp' : Stamp) :
    Agree stamp stamp' (decode stamp text) (decode stamp' text') := by
  rw [decode_congr alike reads reads', decode_object stamp reads' alike.once',
    decode_object stamp' reads' alike.once']
  cases Tagged.ofJson (.object b) with
  | error e => exact .error e
  | ok t => exact ofTagged_agree t

/-- An event frame with its tag in front. -/
def tagFirst : List (String × Json) :=
  [("type", .string "event"), ("id", .nat 2),
    ("event", .object [("event_type", .string "x"), ("data", .object [("n", .nat 1)])])]

/-- The same message with its tag at the end, and with more than it needs. -/
def tagLast : List (String × Json) :=
  [("result", .array [.object []]),
    ("event", .object [("data", .object [("n", .nat 1)]), ("type", .nat 0),
      ("event_type", .string "x")]),
    ("id", .nat 2), ("type", .string "event")]

theorem alike_tagLast : Alike tagFirst tagLast where
  once := by decide
  once' := by decide
  tag := by rfl
  fields := by
    rintro tag found name mem
    obtain rfl : "event" = tag := Json.string.inj (Option.some.inj found)
    rcases List.mem_cons.1 mem with rfl | mem
    · exact .some rfl
    · obtain rfl := List.mem_singleton.1 mem
      exact .some (.objects (by decide) (by decide) (List.forall_mem_cons.2 ⟨rfl,
        List.forall_mem_cons.2 ⟨rfl, List.forall_mem_cons.2 ⟨rfl, List.forall_mem_cons.2 ⟨rfl,
          List.forall_mem_singleton.2 rfl⟩⟩⟩⟩))

theorem decode_alike_tagLast :
    let stamp : Stamp := ⟨⟨⟨2024, 1, 1⟩, 0, 0, 0, 0⟩, 0⟩
    let stamp' : Stamp := ⟨⟨⟨2024, 1, 1⟩, 0, 0, 1, 0⟩, 1⟩
    Alike tagFirst tagLast ∧
      Agree stamp stamp' (decode stamp (Json.object tagFirst).text)
        (decode stamp' (Json.object tagLast).text) :=
  ⟨alike_tagLast, decode_alike alike_tagLast (Json.read?_text (by decide) (by decide))
    (Json.read?_text (by decide) (by decide)) _ _⟩

end Frame

end HubAutomation
