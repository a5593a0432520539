import HubAutomation.Event
import HubAutomation.Proofs.EntityTexts
import HubAutomation.Proofs.Json.Records
import HubAutomation.Proofs.Time.InstantTexts

/-!
# Documents of events

An event of a state change, the states in it and their contexts are read back
from their documents, field by field, whatever parts are left out of a document
and whatever stamp fills in what is missing: nothing has to be filled in.

- `Instant.IsRead`: instants of texts, in years with four digits.
- `State.IsRead`, `Event.IsRead`: states and events with such instants.
- `State.isRead_of_ofJson`: states that were read are of that kind.
- `Event.ofJsonWith_asValue`: an event is read alike with and without its payload.
- `Event.document_faithful`: reading what was written.
-/

namespace HubAutomation

/-! ### Values -/

namespace Instant

variable {t : Instant}

def HasFourDigitYear (t : Instant) : Prop := 0 ≤ t.date.year ∧ t.date.year ≤ 9999

/-- The instant was read from a text, and its year has four digits. -/
def IsRead (t : Instant) : Prop := (∃ s, ofText? s = some t) ∧ t.HasFourDigitYear

/-- A time that was read can be read again from its text. -/
theorem IsRead.asInstant (isRead : t.IsRead) : Json.asInstant t.toJson = .ok t := by
  obtain ⟨⟨s, read⟩, after, before⟩ := isRead
  unfold Json.asInstant toJson
  dsimp only
  rw [ofText?_text (isValid_of_ofText? read) after before]

/-- A time with four digits for its year that can be read again was read. -/
theorem IsRead.of_asInstant (read : ∃ j, Json.asInstant j = .ok t) (year : t.HasFourDigitYear) :
    t.IsRead := by
  refine ⟨?_, year⟩
  obtain ⟨j, read⟩ := read
  unfold Json.asInstant at read
  split at read
  · rename_i s
    split at read
    · rename_i t' found
      exact ⟨s, Except.ok.inj read ▸ found⟩
    · cases read
  · cases read

end Instant

/-- An entity id can be read from its text. -/
theorem EntityId.asEntityId_text (id : EntityId) : Json.asEntityId (.string id.text) = .ok id :=
  asEntityId_ok_iff.2 ⟨id.text, rfl, id.parse_text⟩

/-- An origin can be read from its text. -/
theorem Origin.ofJson_text (o : Origin) : ofJson (.string o.text) = .ok o := by
  cases o <;> rfl

/-! ### Contexts -/

namespace Context

/-- The members of a context's document. -/
def members (c : Context) : Dict Json :=
  [("id", .string c.id)] ++
    (match c.parentId with
      | some p => [("parent_id", .string p)]
      | none => []) ++
    [("user_id", .ofOption .string c.userId)]

/-- The members of a context are in order. -/
theorem sorted_members (c : Context) : c.members.Sorted := by
  obtain ⟨id, userId, parentId⟩ := c
  refine Dict.sorted_of_keys ?_
  cases parentId with
  | none =>
    show (["id", "user_id"] : List String).Pairwise (· < ·)
    decide
  | some p =>
    show (["id", "parent_id", "user_id"] : List String).Pairwise (· < ·)
    decide

/-- A parent that is missing is left out, and read as missing. -/
theorem nullable_parentId (c : Context) :
    (Record.mk true c.members).nullable "parent_id" Json.asString = .ok c.parentId := by
  obtain ⟨id, userId, parentId⟩ := c
  cases parentId with
  | none => exact Record.nullable_of_absent rfl
  | some p => exact Record.nullable_of_find? (j := .string p) rfl Json.noConfusion

/-- The user is always there, if only as null. -/
theorem find?_userId (c : Context) :
    Dict.find? c.members "user_id" = some (.ofOption .string c.userId) := by
  obtain ⟨id, userId, parentId⟩ := c
  cases parentId <;> rfl

/-- A context can be read back from its document. -/
theorem ofJson_toJson (c : Context) : ofJson c.toJson = .ok c := by
  have record : Record.ofJson fieldNames c.toJson = .ok ⟨true, c.members⟩ :=
    Record.ofJson_object fieldNames c.sorted_members.nodup_keys
  have id : (Record.mk true c.members).required "id" Json.asString = .ok c.id :=
    Record.required_of_read (j := .string c.id) rfl rfl
  have userId : (Record.mk true c.members).nullable "user_id" Json.asString = .ok c.userId :=
    Record.nullable_ofOption (f := .string) (fun _ => Json.noConfusion) (fun _ _ => rfl)
      c.find?_userId
  unfold ofJson
  simp only [record, id, userId, c.nullable_parentId, bind, Except.bind]
  rfl

/-- The values in a context's document are texts and `null`. -/
theorem isCanonical_toJson (c : Context) : c.toJson.IsCanonical := by
  refine Json.isCanonical_object c.sorted_members ?_
  obtain ⟨id, userId, parentId⟩ := c
  refine List.forall_mem_append.2 ⟨List.forall_mem_append.2 ⟨List.forall_mem_singleton.2 rfl, ?_⟩,
    List.forall_mem_singleton.2 (Json.isCanonical_ofOption fun _ _ => rfl)⟩
  cases parentId with
  | none => exact List.forall_mem_nil _
  | some p => exact List.forall_mem_singleton.2 rfl

end Context

/-! ### States -/

namespace State

variable {s : State}

/-- A state whose instants were read and whose attributes are canonical. -/
structure IsRead (s : State) : Prop where
  attributes : (Json.object s.attributes).IsCanonical
  lastChanged : s.lastChanged.IsRead
  lastUpdated : s.lastUpdated.IsRead
  lastReported : ∀ t ∈ s.lastReported, t.IsRead

/-- The members of a state's document. -/
def members (s : State) : Dict Json :=
  [("attributes", .object s.attributes), ("context", s.context.toJson),
      ("entity_id", .string s.entityId.text), ("last_changed", s.lastChanged.toJson)] ++
    (match s.lastReported with
      | some t => [("last_reported", t.toJson)]
      | none => []) ++
    [("last_updated", s.lastUpdated.toJson), ("state", .string s.value)]

/-- The members of a state are in order. -/
theorem sorted_members (s : State) : s.members.Sorted := by
  obtain ⟨entityId, value, attributes, lastChanged, lastUpdated, lastReported, context⟩ := s
  refine Dict.sorted_of_keys ?_
  cases lastReported with
  | none =>
    show (["attributes", "context", "entity_id", "last_changed", "last_updated", "state"] :
      List String).Pairwise (· < ·)
    decide
  | some t =>
    show (["attributes", "context", "entity_id", "last_changed", "last_reported", "last_updated",
      "state"] : List String).Pairwise (· < ·)
    decide

theorem find?_value (s : State) : Dict.find? s.members "state" = some (.string s.value) := by
  obtain ⟨entityId, value, attributes, lastChanged, lastUpdated, lastReported, context⟩ := s
  cases lastReported <;> rfl

theorem find?_lastUpdated (s : State) :
    Dict.find? s.members "last_updated" = some s.lastUpdated.toJson := by
  obtain ⟨entityId, value, attributes, lastChanged, lastUpdated, lastReported, context⟩ := s
  cases lastReported <;> rfl

/-- The time of the last report may be missing. -/
theorem nullable_lastReported (isRead : ∀ t ∈ s.lastReported, t.IsRead) :
    (Record.mk true s.members).nullable "last_reported" Json.asInstant = .ok s.lastReported := by
  obtain ⟨entityId, value, attributes, lastChanged, lastUpdated, lastReported, context⟩ := s
  cases lastReported with
  | none => exact Record.nullable_of_absent rfl
  | some t =>
    rw [Record.nullable_of_find? (j := t.toJson) rfl Json.noConfusion]
    exact congrArg (Except.map some) (isRead t rfl).asInstant

/-- A state is read from its document, whatever the stamp. -/
theorem ofJson_toJson (stamp : Stamp) (isRead : s.IsRead) : ofJson stamp s.toJson = .ok s := by
  have record : Record.ofJson fieldNames s.toJson = .ok ⟨true, s.members⟩ :=
    Record.ofJson_object fieldNames s.sorted_members.nodup_keys
  have attributes : (Record.mk true s.members).optional "attributes" Json.asDict =
      .ok (some s.attributes) :=
    Record.optional_of_read (j := .object s.attributes) rfl
      (Json.asDict_of_isCanonical isRead.attributes)
  have context : (Record.mk true s.members).optional "context" Context.ofJson =
      .ok (some s.context) :=
    Record.optional_of_read (j := s.context.toJson) rfl s.context.ofJson_toJson
  have entityId : (Record.mk true s.members).required "entity_id" Json.asEntityId =
      .ok s.entityId :=
    Record.required_of_read (j := .string s.entityId.text) rfl s.entityId.asEntityId_text
  have value : (Record.mk true s.members).required "state" Json.asString = .ok s.value :=
    Record.required_of_read s.find?_value rfl
  have lastChanged : (Record.mk true s.members).required "last_changed" Json.asInstant =
      .ok s.lastChanged :=
    Record.required_of_read (j := s.lastChanged.toJson) rfl isRead.lastChanged.asInstant
  have lastUpdated : (Record.mk true s.members).required "last_updated" Json.asInstant =
      .ok s.lastUpdated :=
    Record.required_of_read s.find?_lastUpdated isRead.lastUpdated.asInstant
  unfold ofJson
  simp only [record, attributes, context, entityId, value, lastChanged, lastUpdated,
    nullable_lastReported isRead.lastReported, bind, Except.bind]
  rfl

/-- A state becomes a document in canonical form. -/
theorem isCanonical_toJson (canonical : (Json.object s.attributes).IsCanonical) :
    s.toJson.IsCanonical := by
  refine Json.isCanonical_object s.sorted_members ?_
  obtain ⟨entityId, value, attributes, lastChanged, lastUpdated, lastReported, context⟩ := s
  refine List.forall_mem_append.2 ⟨List.forall_mem_append.2 ⟨?_, ?_⟩, ?_⟩
  · exact List.forall_mem_cons.2 ⟨canonical, List.forall_mem_cons.2 ⟨context.isCanonical_toJson,
      List.forall_mem_cons.2 ⟨rfl, List.forall_mem_singleton.2 rfl⟩⟩⟩
  · cases lastReported with
    | none => exact List.forall_mem_nil _
    | some t => exact List.forall_mem_singleton.2 rfl
  · exact List.forall_mem_cons.2 ⟨rfl, List.forall_mem_singleton.2 rfl⟩

/-- The attributes and the instants of a state that was read were read from fields. -/
theorem fields_of_ofJson {stamp : Stamp} {j : Json} (read : ofJson stamp j = .ok s) :
    ∃ (r : Record) (attributes : Option (Dict Json)),
      r.optional "attributes" Json.asDict = .ok attributes ∧ s.attributes = attributes.getD [] ∧
      r.required "last_changed" Json.asInstant = .ok s.lastChanged ∧
      r.required "last_updated" Json.asInstant = .ok s.lastUpdated ∧
      r.nullable "last_reported" Json.asInstant = .ok s.lastReported := by
  obtain ⟨r, -, read⟩ := ReadResult.bind_eq_ok read
  replace read := ReadResult.of_tried_first read
  obtain ⟨entityId, -, read⟩ := ReadResult.bind_eq_ok read
  obtain ⟨value, -, read⟩ := ReadResult.bind_eq_ok read
  obtain ⟨attributes, attributesRead, read⟩ := ReadResult.bind_eq_ok read
  obtain ⟨lastChanged, changedRead, read⟩ := ReadResult.bind_eq_ok read
  obtain ⟨lastUpdated, updatedRead, read⟩ := ReadResult.bind_eq_ok read
  obtain ⟨lastReported, reportedRead, read⟩ := ReadResult.bind_eq_ok read
  obtain ⟨context, -, read⟩ := ReadResult.bind_eq_ok read
  cases read
  exact ⟨r, attributes, attributesRead, rfl, changedRead, updatedRead, reportedRead⟩

/-- A state that was read has canonical attributes and instants of texts, and so
it is given back as soon as their years have four digits. -/
theorem isRead_of_ofJson {stamp : Stamp} {j : Json} (read : ofJson stamp j = .ok s)
    (changed : s.lastChanged.HasFourDigitYear) (updated : s.lastUpdated.HasFourDigitYear)
    (reported : ∀ t ∈ s.lastReported, t.HasFourDigitYear) : s.IsRead := by
  obtain ⟨r, attributes, attributesRead, attributesAre, changedRead, updatedRead, reportedRead⟩ :=
    fields_of_ofJson read
  refine ⟨?_, .of_asInstant (Record.read_of_required changedRead) changed,
    .of_asInstant (Record.read_of_required updatedRead) updated,
    fun t mem => .of_asInstant (Record.read_of_nullable reportedRead t mem) (reported t mem)⟩
  rw [attributesAre]
  cases attributes with
  | none => rfl
  | some d =>
    obtain ⟨j, read⟩ := Record.read_of_optional attributesRead d rfl
    exact Json.isCanonical_of_asDict read

end State

/-! ### State changes -/

namespace StateChange

variable {c : StateChange}

/-- The states on both sides were read. -/
structure IsRead (c : StateChange) : Prop where
  old : ∀ s ∈ c.old, s.IsRead
  new : ∀ s ∈ c.new, s.IsRead

/-- The members of a change's document. -/
def members (c : StateChange) : Dict Json :=
  [("entity_id", .string c.entityId.text), ("new_state", .ofOption State.toJson c.new),
    ("old_state", .ofOption State.toJson c.old)]

/-- The members of a change are in order. -/
theorem sorted_members (c : StateChange) : c.members.Sorted := by
  refine Dict.sorted_of_keys ?_
  show (["entity_id", "new_state", "old_state"] : List String).Pairwise (· < ·)
  decide

/-- A state change is read from its document, whatever the stamp. -/
theorem ofJson_toJson (stamp : Stamp) (isRead : c.IsRead) : ofJson stamp c.toJson = .ok c := by
  have record : Record.ofJson fieldNames c.toJson = .ok ⟨true, c.members⟩ :=
    Record.ofJson_object fieldNames c.sorted_members.nodup_keys
  have entityId : (Record.mk true c.members).optional "entity_id" Json.asEntityId =
      .ok (some c.entityId) :=
    Record.optional_of_read (j := .string c.entityId.text) rfl c.entityId.asEntityId_text
  have old : (Record.mk true c.members).nullable "old_state" (State.ofJson (stamp.fork 0)) =
      .ok c.old :=
    Record.nullable_ofOption (fun _ => Json.noConfusion)
      (fun s mem => State.ofJson_toJson _ (isRead.old s mem)) rfl
  have new : (Record.mk true c.members).nullable "new_state" (State.ofJson (stamp.fork 1)) =
      .ok c.new :=
    Record.nullable_ofOption (fun _ => Json.noConfusion)
      (fun s mem => State.ofJson_toJson _ (isRead.new s mem)) rfl
  unfold ofJson
  simp only [record, entityId, old, new, bind, Except.bind]
  rfl

/-- A change becomes a document in canonical form. -/
theorem isCanonical_toJson (isRead : c.IsRead) : c.toJson.IsCanonical := by
  have side : ∀ {o : Option State}, (∀ s ∈ o, s.IsRead) →
      (Json.ofOption State.toJson o).IsCanonical := fun reads =>
    Json.isCanonical_ofOption fun s mem => State.isCanonical_toJson (reads s mem).attributes
  exact Json.isCanonical_object c.sorted_members (List.forall_mem_cons.2 ⟨rfl,
    List.forall_mem_cons.2 ⟨side isRead.new, List.forall_mem_singleton.2 (side isRead.old)⟩⟩)

end StateChange

/-! ### Readings of values that are no entity ids -/

namespace MismatchOnly

/-- A value that is no time is reported as nothing else. -/
theorem asInstant (j : Json) : MismatchOnly j.asInstant := by
  unfold Json.asInstant
  split
  · split
    · exact .ok _
    · exact .mismatch
  · exact .mismatch

/-- A value that is no origin is reported as nothing else. -/
theorem origin (j : Json) : MismatchOnly (Origin.ofJson j) := by
  have named : ∀ s, MismatchOnly (Origin.ofName s) := by
    intro s
    unfold Origin.ofName
    split
    · exact .ok _
    · exact .ok _
    · exact .ok _
    · exact .ok _
    · exact .mismatch
  unfold Origin.ofJson
  split
  · exact named _
  · exact named _
  · exact .mismatch

/-- A value that is no context is reported as nothing else. -/
theorem context (j : Json) : MismatchOnly (Context.ofJson j) :=
  (record _ j).bind fun r => (required r asString).bind fun _ =>
    (nullable r asString).bind fun _ => (nullable r asString).bind fun _ => .ok _

end MismatchOnly

/-! ### Events -/

namespace Event

variable {α : Type}

/-- The states in the event and its own instant were read. -/
structure IsRead (e : Event StateChange) : Prop where
  data : e.data.IsRead
  timeFired : e.timeFired.IsRead

/-- The members of an event's document. -/
def members (e : Event Json) : Dict Json :=
  [("context", e.context.toJson), ("data", e.data), ("event_type", .string e.type),
    ("origin", .string e.origin.text), ("time_fired", e.timeFired.toJson)]

/-- The members of an event are in order. -/
theorem sorted_members (e : Event Json) : e.members.Sorted := by
  refine Dict.sorted_of_keys ?_
  show (["context", "data", "event_type", "origin", "time_fired"] : List String).Pairwise (· < ·)
  decide

/-- An event is read from its document as soon as its payload is, whatever the
stamp. -/
theorem ofJsonWith_toJson {read : Json → ReadResult α} (stamp : Stamp) {e : Event Json} {a : α}
    (timeFired : e.timeFired.IsRead) (reads : read e.data = .ok a) :
    ofJsonWith read stamp e.toJson = .ok (e.map fun _ => a) := by
  have record : Record.ofJson fieldNames e.toJson = .ok ⟨true, e.members⟩ :=
    Record.ofJson_object fieldNames e.sorted_members.nodup_keys
  have type : (Record.mk true e.members).required "event_type" Json.asString = .ok e.type :=
    Record.required_of_read (j := .string e.type) rfl rfl
  have data : (Record.mk true e.members).required "data" read = .ok a :=
    Record.required_of_read (j := e.data) rfl reads
  have origin : (Record.mk true e.members).optional "origin" Origin.ofJson =
      .ok (some e.origin) :=
    Record.optional_of_read (j := .string e.origin.text) rfl e.origin.ofJson_text
  have time : (Record.mk true e.members).optional "time_fired" Json.asInstant =
      .ok (some e.timeFired) :=
    Record.optional_of_read (j := e.timeFired.toJson) rfl timeFired.asInstant
  have context : (Record.mk true e.members).optional "context" Context.ofJson =
      .ok (some e.context) :=
    Record.optional_of_read (j := e.context.toJson) rfl e.context.ofJson_toJson
  unfold ofJsonWith
  simp only [record, type, data, origin, time, context, bind, Except.bind]
  rfl

/-- Reading with the payload as a document is reading the event. -/
theorem ofJsonWith_asValue (stamp : Stamp) (j : Json) :
    ofJsonWith Json.asValue stamp j = ofJson stamp j := by
  unfold ofJsonWith ofJson ofDocument
  cases Record.ofJson fieldNames j with
  | error e => rfl
  | ok r =>
    obtain ⟨keyed, fields⟩ := r
    cases keyed with
    | false => rfl
    | true =>
      have type : MismatchOnly ((Record.mk true fields).required "event_type" Json.asString) :=
        MismatchOnly.required _ MismatchOnly.asString
      have data : MismatchOnly ((Record.mk true fields).required "data" Json.asValue) :=
        MismatchOnly.required _ fun j => .ok j.canonical
      have origin : MismatchOnly ((Record.mk true fields).optional "origin" Origin.ofJson) :=
        MismatchOnly.optional _ MismatchOnly.origin
      have time : MismatchOnly ((Record.mk true fields).optional "time_fired" Json.asInstant) :=
        MismatchOnly.optional _ MismatchOnly.asInstant
      have context : MismatchOnly ((Record.mk true fields).optional "context" Context.ofJson) :=
        MismatchOnly.optional _ MismatchOnly.context
      refine (context.early fun failed => ?_).trans (data.early fun failed => ?_)
      · exact data.bind_mismatch fun _ => type.bind_mismatch fun _ => data.bind_mismatch fun _ =>
          origin.bind_mismatch fun _ => time.bind_mismatch fun _ => by rw [failed]; rfl
      · exact type.bind_mismatch fun _ => by rw [failed]; rfl

variable {e : Event StateChange}

/-- The event of a document whose payload is read later. -/
theorem ofJson_untyped (stamp : Stamp) (isRead : e.IsRead) :
    ofJson stamp e.untyped.toJson = .ok e.untyped := by
  rw [← ofJsonWith_asValue]
  exact ofJsonWith_toJson stamp isRead.timeFired
    (Json.asValue_of_isCanonical (StateChange.isCanonical_toJson isRead.data))

/-- An event whose data were written as a document gets them back. -/
theorem typed_untyped (stamp : Stamp) (isRead : e.IsRead) (type : e.type = stateChanged) :
    e.untyped.typed stamp = .ok e := by
  refine (if_neg (not_not.2 type)).trans ?_
  show (StateChange.ofJson stamp e.data.toJson >>= fun _ => _) = _
  rw [StateChange.ofJson_toJson stamp isRead.data]
  rfl

/-- An event whose instants were read is given back by its document in every
field, at once or with its payload read later; no stamp fills in anything. What
was given back has the same document again. The same goes for the change, the
states and the contexts in it. -/
theorem document_faithful (isRead : e.IsRead) (stamp stamp' : Stamp) :
    ofJsonWith (StateChange.ofJson stamp') stamp e.untyped.toJson = .ok e ∧
    (ofJsonWith (StateChange.ofJson stamp') stamp e.untyped.toJson).map
      (fun e' => e'.untyped.toJson) = .ok e.untyped.toJson ∧
    ofJson stamp e.untyped.toJson = .ok e.untyped ∧
    (e.type = stateChanged → e.untyped.typed stamp' = .ok e) ∧
    Context.ofJson e.context.toJson = .ok e.context ∧
    StateChange.ofJson stamp' e.data.toJson = .ok e.data ∧
    ∀ s, s ∈ e.data.old ∨ s ∈ e.data.new →
      State.ofJson stamp' s.toJson = .ok s ∧ Context.ofJson s.context.toJson = .ok s.context := by
  have change := StateChange.ofJson_toJson stamp' isRead.data
  have event : ofJsonWith (StateChange.ofJson stamp') stamp e.untyped.toJson = .ok e :=
    ofJsonWith_toJson stamp isRead.timeFired change
  refine ⟨event, ?_, ofJson_untyped stamp isRead, typed_untyped stamp' isRead,
    e.context.ofJson_toJson, change, ?_⟩
  · rw [event]
    rfl
  · rintro s (old | new)
    · exact ⟨State.ofJson_toJson stamp' (isRead.data.old s old), s.context.ofJson_toJson⟩
    · exact ⟨State.ofJson_toJson stamp' (isRead.data.new s new), s.context.ofJson_toJson⟩

/-- Half a second into a leap second. -/
def leapSecond : Instant := ⟨⟨2016, 12, 31⟩, 23, 59, 60, 500000000⟩

/-- A clock that was an hour ahead of UTC showed the leap second. -/
theorem isRead_leapSecond : leapSecond.IsRead :=
  ⟨⟨"2017-01-01T00:59:60.5+01:00", by decide⟩, by decide, by decide⟩

/-- An instant with nine digits after the second. -/
def precise : Instant := ⟨⟨2017, 1, 1⟩, 2, 30, 0, 123456789⟩

/-- An instant with a leap second that can be read. -/
theorem isRead_precise : precise.IsRead :=
  ⟨⟨"2016-12-31t18:30:00.123456789-08:00", by decide⟩, by decide, by decide⟩

def hallLamp : EntityId := ⟨"light", "hall", rfl, rfl⟩

def lampAttributes : Dict Json :=
  [("color", .object [("hue", .nat 30), ("name", .null)]), ("friendly_name", .string "Hall")]

/-- The attributes of the example are in canonical form. -/
theorem isCanonical_lampAttributes : (Json.object lampAttributes).IsCanonical := by
  have inner : (["hue", "name"] : List String).Pairwise (· < ·) := by decide
  have outer : (["color", "friendly_name"] : List String).Pairwise (· < ·) := by decide
  refine Json.isCanonical_object (Dict.sorted_of_keys outer) (List.forall_mem_cons.2 ⟨?_,
    List.forall_mem_singleton.2 rfl⟩)
  exact Json.isCanonical_object (Dict.sorted_of_keys inner)
    (List.forall_mem_cons.2 ⟨rfl, List.forall_mem_singleton.2 rfl⟩)

/-- A lamp that went on by hand. One side has every optional part and the other
has none. -/
def lampEvent : Event StateChange where
  type := stateChanged
  data :=
    { entityId := hallLamp
      old := some ⟨hallLamp, "off", [], leapSecond, leapSecond, none, .withId "01HQ"⟩
      new := some ⟨hallLamp, "on", lampAttributes, precise, precise, some leapSecond,
        ⟨"01HR", some "9f2b", some "01HQ"⟩⟩ }
  origin := .remote
  timeFired := precise
  context := ⟨"01HR", some "9f2b", none⟩

/-- Everything in the example can be read. -/
theorem isRead_lampEvent : lampEvent.IsRead where
  data :=
    { old := fun
        | _, rfl => ⟨rfl, isRead_leapSecond, isRead_leapSecond, nofun⟩
      new := fun
        | _, rfl => ⟨isCanonical_lampAttributes, isRead_precise, isRead_precise,
          fun | _, rfl => isRead_leapSecond⟩ }
  timeFired := isRead_precise

theorem document_faithful_lampEvent :
    lampEvent.IsRead ∧ lampEvent.type = stateChanged ∧
    ofJsonWith (StateChange.ofJson ⟨leapSecond, 1⟩) ⟨precise, 0⟩ lampEvent.untyped.toJson =
      .ok lampEvent ∧
    lampEvent.untyped.typed ⟨leapSecond, 1⟩ = .ok lampEvent := by
  obtain ⟨read, -, -, typed, -⟩ :=
    document_faithful isRead_lampEvent ⟨precise, 0⟩ ⟨leapSecond, 1⟩
  exact ⟨isRead_lampEvent, rfl, read, typed rfl⟩

end Event

end HubAutomation
