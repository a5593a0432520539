import HubAutomation.Command
import HubAutomation.Proofs.Json.Records
import HubAutomation.Proofs.Json.RoundTrip
import HubAutomation.Proofs.Json.TaggedObjects

/-!
# The texts of commands

The text of a command is one object with the command's kind, its id and the
fields that it has. Reading the text gives the command back, so no two commands
share a text.

- `Command.Fits`: commands whose numbers and data a text can hold.
- `Command.members`: the members of the object.
- `Command.frame_faithful`: reading what was written.
-/

namespace HubAutomation

namespace Command

open Json (deepest)

variable {id : Nat} {c : Command}

/-- The fields that a command has besides its kind. -/
def fieldNames : Command → List String
  | .subscribeEvents (some _) => ["event_type"]
  | .unsubscribeEvents _ => ["subscription"]
  | .callService _ _ _ => ["domain", "service", "service_data"]
  | .subscribeEvents none | .getStates | .getServices | .getConfig | .getPanels | .ping => []

/-- A subscription has 64 bits. The data of a call are dictionaries without
doubles, and leave one level for the object around them. -/
def Fits : Command → Prop
  | .unsubscribeEvents subscription => subscription < UInt64.size
  | .callService _ _ data => data.IsCanonical ∧ data.isWhole = true ∧ data.depth ≤ 126
  | _ => True

/-! ### The object of a command -/

/-- The kind and the id after the fields, as they are put together. -/
def parts (id : Nat) (c : Command) : List (String × Json) :=
  c.fields ++ [("type", .string c.kind), ("id", .nat id)]

/-- The members of the object, in the order of their keys. -/
def members (id : Nat) (c : Command) : Dict Json := Dict.ofList (parts id c)

theorem keys_parts (id : Nat) (c : Command) :
    Dict.keys (parts id c) = c.fieldNames ++ ["type", "id"] := by
  cases c with
  | subscribeEvents eventType => cases eventType <;> rfl
  | _ => rfl

/-- No key occurs twice in a command. -/
theorem nodup_parts (id : Nat) (c : Command) : (Dict.keys (parts id c)).Nodup := by
  have once : ∀ names ∈ [["event_type"], ["subscription"], ["domain", "service", "service_data"],
      []], (names ++ ["type", "id"]).Nodup := by decide
  rw [keys_parts]
  refine once _ ?_
  cases c with
  | subscribeEvents eventType => cases eventType <;> simp [fieldNames]
  | _ => simp [fieldNames]

theorem nodup_members (id : Nat) (c : Command) : (Dict.keys (members id c)).Nodup :=
  (Dict.sorted_ofList _).nodup_keys

/-- The order of the parts does not matter for what stands under a key. -/
theorem find?_members (id : Nat) (c : Command) (key : String) :
    Dict.find? (members id c) key = Dict.find? (parts id c) key :=
  Dict.find?_ofList (nodup_parts id c) key

theorem mem_keys_members {key : String} :
    key ∈ Dict.keys (members id c) ↔ key = "id" ∨ key = "type" ∨ key ∈ c.fieldNames := by
  rw [Dict.mem_keys_iff, find?_members, ← Dict.mem_keys_iff, keys_parts, List.mem_append,
    List.mem_cons, List.mem_singleton]
  tauto

/-! ### What is known of its values -/

/-- A value that a text gives back inside an object. -/
structure Carried (j : Json) : Prop where
  canonical : j.IsCanonical
  whole : j.isWhole = true
  shallow : j.depth ≤ 126

theorem carried_string (s : String) : Carried (.string s) := ⟨rfl, rfl, Nat.zero_le _⟩

theorem carried_nat {n : Nat} (fits : n < UInt64.size) : Carried (.nat n) :=
  ⟨rfl, Json.isWhole_nat fits, Nat.zero_le _⟩

theorem carried_fields (fits : c.Fits) : ∀ m ∈ c.fields, Carried m.2 := by
  cases c with
  | subscribeEvents eventType =>
    cases eventType with
    | none => exact List.forall_mem_nil _
    | some eventType => exact List.forall_mem_singleton.2 (carried_string _)
  | unsubscribeEvents subscription => exact List.forall_mem_singleton.2 (carried_nat fits)
  | callService domain service data =>
    exact List.forall_mem_cons.2 ⟨carried_string _, List.forall_mem_cons.2 ⟨carried_string _,
      List.forall_mem_singleton.2 ⟨fits.1, fits.2.1, fits.2.2⟩⟩⟩
  | _ => exact List.forall_mem_nil _

theorem carried_members (idFits : id < UInt64.size) (fits : c.Fits) :
    ∀ m ∈ members id c, Carried m.2 := by
  intro m mem
  rcases List.mem_append.1 (Dict.mem_of_mem_ofList mem) with field | added
  · exact carried_fields fits m field
  · rcases List.mem_cons.1 added with rfl | added
    · exact carried_string _
    · rw [List.mem_singleton.1 added]
      exact carried_nat idFits

/-- The document of a command is in canonical form. -/
theorem isCanonical_document (idFits : id < UInt64.size) (fits : c.Fits) :
    (c.document id).IsCanonical :=
  Json.isCanonical_object (Dict.sorted_ofList _) fun m mem =>
    (carried_members idFits fits m mem).canonical

/-- The text of a command is read as the object that was written. -/
theorem read?_frame (idFits : id < UInt64.size) (fits : c.Fits) :
    Json.read? (c.frame id).toList = some (.object (members id c)) := by
  refine Json.read?_text (Json.isWholeMembers_of_all fun m mem =>
    (carried_members idFits fits m mem).whole) ?_
  have shallow := Json.depthMembers_le fun m mem => (carried_members idFits fits m mem).shallow
  exact Nat.succ_le_succ shallow

/-! ### The command of an object -/

/-- What stands beside the kind. -/
def body (id : Nat) (c : Command) : Dict Json := Dict.erase (members id c) Tagged.tagKey

theorem find?_body (id : Nat) (c : Command) {key : String} (other : key ≠ Tagged.tagKey) :
    Dict.find? (body id c) key = Dict.find? (parts id c) key := by
  unfold body
  rw [Dict.find?_erase_other _ other, find?_members]

theorem ofJson_body (id : Nat) (c : Command) (names : List String) :
    Record.ofJson names (.object (body id c)) = .ok ⟨true, body id c⟩ :=
  Record.ofJson_object names (Dict.nodup_keys_erase (nodup_members id c) _)

/-- The command of its kind and of what stands beside it. -/
theorem ofTagged_body (id : Nat) (fits : c.Fits) :
    ofTagged ⟨c.kind, .object (body id c)⟩ = .ok c := by
  cases c with
  | subscribeEvents eventType =>
    show (Record.ofJson ["event_type"] _ >>= fun r => _) = _
    rw [ofJson_body]
    show ((Record.mk true _).nullable "event_type" Json.asString >>= fun e => _) = _
    cases eventType with
    | some eventType =>
      rw [Record.nullable_of_find? ((find?_body _ _ (by decide)).trans rfl) Json.noConfusion]
      rfl
    | none =>
      rw [Record.nullable_of_absent ((find?_body _ _ (by decide)).trans rfl)]
      rfl
  | unsubscribeEvents subscription =>
    show (Record.ofJson ["subscription"] _ >>= fun r => _) = _
    rw [ofJson_body]
    show ((Record.mk true _).required "subscription" Json.asNat >>= fun e => _) = _
    rw [Record.required_of_find? ((find?_body _ _ (by decide)).trans rfl), Json.asNat_nat fits]
    rfl
  | callService domain service data =>
    show (Record.ofJson ["domain", "service", "service_data"] _ >>= fun r => _) = _
    rw [ofJson_body]
    show ((Record.mk true _).required "domain" Json.asString >>= fun domain =>
      (Record.mk true _).required "service" Json.asString >>= fun service =>
      (Record.mk true _).optional "service_data" Json.asValue >>= fun data => _) = _
    rw [Record.required_of_find? ((find?_body _ _ (by decide)).trans rfl),
      Record.required_of_find? ((find?_body _ _ (by decide)).trans rfl),
      Record.optional_of_find? ((find?_body _ _ (by decide)).trans rfl)]
    show (Json.asValue data).map some >>= (fun data => _) = _
    rw [Json.asValue_of_isCanonical fits.1]
    rfl
  | _ => rfl

/-- The tag of a command is its type. -/
theorem ofJson_tagged (id : Nat) (c : Command) :
    Tagged.ofJson (.object (members id c)) = .ok ⟨c.kind, .object (body id c)⟩ := by
  have kind : Dict.find? (members id c) Tagged.tagKey = some (.string c.kind) := by
    rw [find?_members]
    cases c with
    | subscribeEvents eventType => cases eventType <;> rfl
    | _ => rfl
  rw [Tagged.ofJson_object, kind]
  rfl

/-- A command is read from its members. -/
theorem ofJson_members (id : Nat) (fits : c.Fits) : ofJson (.object (members id c)) = .ok c := by
  unfold ofJson
  rw [ofJson_tagged]
  exact ofTagged_body id fits

/-! ### Reading what was written -/

/-- The command of a text, read on the way. What follows the document is looked
at last. -/
def ofText (text : String) : ReadResult Command := do
  let (t, rest) ← Tagged.read text.toList
  let c ← ofTagged t
  if Json.atEnd rest then pure c else .error .malformed

/-- A command is read from its frame. -/
theorem ofText_frame (idFits : id < UInt64.size) (fits : c.Fits) :
    ofText (c.frame id) = .ok c := by
  obtain ⟨rest, ended, read⟩ := Tagged.read_of_read? (read?_frame idFits fits) (nodup_members id c)
  unfold ofText
  rw [read, ofJson_tagged]
  show (ofTagged ⟨c.kind, .object (body id c)⟩ >>= fun c => _) = _
  rw [ofTagged_body id fits]
  exact if_pos ended

theorem find?_members_id (id : Nat) (c : Command) :
    Dict.find? (members id c) "id" = some (.nat id) := by
  rw [find?_members]
  cases c with
  | subscribeEvents eventType => cases eventType <;> rfl
  | _ => rfl

theorem find?_members_type (id : Nat) (c : Command) :
    Dict.find? (members id c) "type" = some (.string c.kind) := by
  rw [find?_members]
  cases c with
  | subscribeEvents eventType => cases eventType <;> rfl
  | _ => rfl

/-- The text of a command is one object in the order of its keys, which are the
id, the kind and the fields of the command. Its id and its command are read back
from it, from the document as well as on the way, and so no other command and no
other id has the same text. -/
theorem frame_faithful (idFits : id < UInt64.size) (fits : c.Fits) :
    (∃ members : Dict Json,
      Json.read? (c.frame id).toList = some (.object members) ∧
      Json.ofText? (c.frame id) = some (.object members) ∧
      members.Sorted ∧
      (∀ key, key ∈ members.keys ↔ key = "id" ∨ key = "type" ∨ key ∈ c.fieldNames) ∧
      members.find? "id" = some (.nat id) ∧
      members.find? "type" = some (.string c.kind) ∧
      ofJson (.object members) = .ok c) ∧
    ofText (c.frame id) = .ok c ∧
    ∀ {id' : Nat} {c' : Command}, id' < UInt64.size → c'.Fits →
      c'.frame id' = c.frame id → id' = id ∧ c' = c := by
  refine ⟨⟨members id c, read?_frame idFits fits, ?_, Dict.sorted_ofList _,
    fun key => mem_keys_members, find?_members_id id c, find?_members_type id c,
    ofJson_members id fits⟩, ofText_frame idFits fits, ?_⟩
  · unfold Json.ofText?
    rw [read?_frame idFits fits]
    exact congrArg some (isCanonical_document idFits fits)
  · intro id' c' idFits' fits' same
    have texts := (congrArg (fun text => Json.read? text.toList) same).symm
    have objects : members id c = members id' c' := by
      rw [read?_frame idFits fits, read?_frame idFits' fits'] at texts
      exact Json.object.inj (Option.some.inj texts)
    have ids : some (Json.nat id') = some (.nat id) := by
      rw [← find?_members_id id' c', ← objects, find?_members_id]
    have commands : (Except.ok c' : ReadResult Command) = .ok c := by
      rw [← ofText_frame idFits' fits', same, ofText_frame idFits fits]
    refine ⟨?_, Except.ok.inj commands⟩
    exact Int.ofNat.inj (Number.int.inj (Json.number.inj (Option.some.inj ids)))

/-- A call with quotes, control characters, a character beyond sixteen bits and
the first and the last integer, under the last id. -/
def extremeCall : Command :=
  .callService "li\"ght" "a\\b\n\u0001" (.object
    [("limits", .array [.int (-9223372036854775808), .nat 18446744073709551615]),
      ("\u007f😀", .object [])])

/-- The largest numbers and any text fit. -/
theorem fits_extremeCall : extremeCall.Fits := by
  have sorted : (["limits", "\u007f😀"] : List String).Pairwise (· < ·) := by decide
  exact ⟨Json.isCanonical_object (Dict.sorted_of_keys sorted)
    (List.forall_mem_cons.2 ⟨rfl, List.forall_mem_singleton.2 rfl⟩), by decide, by decide⟩

theorem frame_faithful_extremeCall :
    18446744073709551615 < UInt64.size ∧ extremeCall.Fits ∧
      ofText (extremeCall.frame 18446744073709551615) = .ok extremeCall :=
  ⟨by decide, fits_extremeCall, (frame_faithful (by decide) fits_extremeCall).2.1⟩

end Command

end HubAutomation
