import HubAutomation.Proofs.EntityTexts
import HubAutomation.Proofs.Json.CanonicalDocuments
import HubAutomation.ServiceCall
import Mathlib.Data.List.TakeWhile

/-!
# Shorthands of service calls

A shorthand is the text of an entity id, a point and the name of a service. It
is taken apart at its last point, and the id at its first one; the name has no
point, so there is one way to do it.

- `ServiceCall.Names`: an entity and a service, as a shorthand names them.
- `ServiceCall.ofShorthand_eq`: the call of a shorthand.
- `ServiceCall.find?_addressed`: the data of the call.
-/

namespace HubAutomation

/-- What stands behind the last point has none. -/
theorem splitLast?_append {front back : List Char} (noPoint : '.' ∉ back) :
    ServiceCall.splitLast? (front ++ '.' :: back) = some (front, back) := by
  have behind : ∀ c ∈ back.reverse, decide (c ≠ '.') = true := by
    intro c mem
    exact decide_eq_true fun point => noPoint (List.mem_reverse.1 (point ▸ mem))
  have backwards : (front ++ '.' :: back).reverse = back.reverse ++ '.' :: front.reverse := by simp
  have rest : (front ++ '.' :: back).reverse.dropWhile (· ≠ '.') = '.' :: front.reverse := by
    rw [backwards, List.dropWhile_append_of_pos behind]
    rfl
  have last : (front ++ '.' :: back).reverse.takeWhile (· ≠ '.') = back.reverse := by
    rw [backwards, List.takeWhile_append_of_pos behind]
    exact List.append_nil _
  unfold ServiceCall.splitLast?
  rw [rest, last]
  simp

/-- The last point splits a text: none follows it. -/
theorem splitLast?_eq_some {cs front back : List Char}
    (split : ServiceCall.splitLast? cs = some (front, back)) :
    cs = front ++ '.' :: back ∧ '.' ∉ back := by
  unfold ServiceCall.splitLast? at split
  -- Backwards, what is dropped ends at the first point.
  split at split
  · cases split
  · rename_i c before rest
    cases split
    have stops := List.head?_dropWhile_not (· ≠ '.') cs.reverse
    rw [rest] at stops
    obtain rfl : c = '.' := by simpa using stops
    constructor
    · rw [← List.reverse_inj, List.reverse_append, List.reverse_cons, List.reverse_reverse,
        List.reverse_reverse, List.append_assoc, List.singleton_append, ← rest,
        List.takeWhile_append_dropWhile]
    · intro mem
      have notPoint := List.mem_takeWhile_imp (List.mem_reverse.1 mem)
      exact of_decide_eq_true notPoint rfl

/-- The value of a key in an object. Of two members with the key the last one
counts; a document as it is kept has one. -/
def Json.entry? (j : Json) (key : String) : Option Json :=
  match j with
  | .object members => (Dict.ofList members).find? key
  | _ => none

namespace ServiceCall

variable {shorthand service service' : String} {id id' : EntityId} {data : Json}
  {call : ServiceCall}

/-- A shorthand is the text of an id, a point and a name without one. -/
structure Names (shorthand : String) (id : EntityId) (service : String) : Prop where
  text : shorthand = id.text ++ "." ++ service
  nonempty : service ≠ ""
  noPoint : '.' ∉ service.toList

theorem Names.toList (names : Names shorthand id service) :
    shorthand.toList = id.text.toList ++ '.' :: service.toList := by
  rw [names.text]
  simp

/-- Both ids end at the last point, for neither service has one. -/
theorem Names.unique (names : Names shorthand id service) (names' : Names shorthand id' service') :
    id = id' ∧ service = service' := by
  have split : some (id.text.toList, service.toList) = some (id'.text.toList, service'.toList) := by
    rw [← splitLast?_append names.noPoint, ← splitLast?_append names'.noPoint, ← names.toList,
      names'.toList]
  rw [Option.some.injEq, Prod.mk.injEq, String.toList_inj, String.toList_inj] at split
  exact ⟨EntityId.text_injective split.1, split.2⟩

/-- A shorthand that names a service gives a call of it, for its entity. -/
theorem ofShorthand_eq (names : Names shorthand id service) (data : Json) :
    ofShorthand shorthand data = .ok ⟨id.domain, service, .object (addressed id data)⟩ := by
  have entity : EntityId.parseChars id.text.toList = .ok id := id.parse_text
  have someService : ¬ service.toList.isEmpty = true := by
    rw [List.isEmpty_iff, String.toList_eq_nil_iff]
    exact names.nonempty
  unfold ofShorthand
  rw [names.toList, splitLast?_append names.noPoint]
  dsimp only
  rw [entity]
  dsimp only
  rw [if_neg someService, String.ofList_toList]

/-- A shorthand that gives a call names a service. -/
theorem names_of_ofShorthand (done : ofShorthand shorthand data = .ok call) :
    ∃ id service, Names shorthand id service := by
  unfold ofShorthand at done
  -- Each of the three tests is one part of what names a call.
  split at done
  · cases done
  · rename_i entity service split
    obtain ⟨chars, noPoint⟩ := splitLast?_eq_some split
    split at done
    · cases done
    · rename_i id read
      split at done
      · cases done
      · rename_i someService
        rw [← String.toList_ofList (l := entity)] at read
        have text : id.text = String.ofList entity := EntityId.parse_ok_iff.1 read
        refine ⟨id, String.ofList service, ?_, ?_, by rwa [String.toList_ofList]⟩
        · refine String.toList_inj.1 ?_
          rw [text, chars]
          simp
        · rw [← String.ofList_nil, Ne, String.ofList_inj]
          exact fun nothing => someService (List.isEmpty_iff.2 nothing)

/-- An error quotes the shorthand. -/
theorem ofShorthand_error {e : ShorthandError} (failed : ofShorthand shorthand data = .error e) :
    e = ⟨shorthand⟩ := by
  unfold ofShorthand at failed
  split at failed
  · exact (Except.error.inj failed).symm
  · split at failed
    · exact (Except.error.inj failed).symm
    · split at failed
      · exact (Except.error.inj failed).symm
      · cases failed

theorem sorted_addressed (id : EntityId) (data : Json) : (addressed id data).Sorted :=
  Dict.Sorted.extend (List.pairwise_singleton _ _) _

/-- What the caller gives counts; the id is added if it gives none. -/
theorem find?_addressed (id : EntityId) (data : Json) (key : String) :
    (addressed id data).find? key =
      (data.entry? key).or (if key = "entity_id" then some (.string id.text) else none) := by
  unfold addressed Json.entry?
  rw [Dict.find?_extend, Dict.find?_cons]
  have own : (if "entity_id" = key then some (Json.string id.text) else Dict.find? [] key) =
      if key = "entity_id" then some (.string id.text) else none := by
    rw [Dict.find?_nil]
    exact if_congr eq_comm rfl rfl
  rw [own]
  cases data with
  | object members => rfl
  | _ => rfl

end ServiceCall

end HubAutomation
