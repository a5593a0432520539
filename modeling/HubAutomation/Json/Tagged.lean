import HubAutomation.Json.Reader
import HubAutomation.Json.ReadError

/-!
# Tagged documents

A tagged document is an object with a member `type`, or an array whose first
item takes its place. The tag must be a text and must not be repeated. This is
found out on the way: a wrong tag is reported even if the text after it is not
JSON. What follows the document is the caller's business.

- `Tagged`: the tag and the rest of the document.
- `Tagged.read`: the tagged document at the start of a text.
- `Tagged.ofJson`: the tagged document in a document.
-/

namespace HubAutomation

/-- A tag, and the document without it. -/
structure Tagged where
  tag : String
  body : Json

namespace Tagged

def tagKey : String := "type"

/-- The fault of a text where a tag should stand and no quote does. A value of
another kind is a mismatch as soon as its kind is known. -/
def faultOf (cs : List Char) : ReadError :=
  match cs with
  | '[' :: _ => .mismatch
  | '\x7b' :: _ => .mismatch
  | cs => if (Json.readValue 1 0 cs).isSome then .mismatch else .malformed

/-- A tag, blanks before it skipped. -/
def readTag (cs : List Char) : ReadResult (String × List Char) :=
  match Json.skipBlanks cs with
  | '"' :: rest =>
    match Json.readString rest with
    | some r => .ok r
    | none => .error .malformed
  | cs => .error (faultOf cs)

/-- What an object gives up to its end: a tag, if there is one, and the other
members. -/
structure Members where
  tag : Option String
  others : List (String × Json)
  rest : List Char

/-- The levels that are left inside the outermost array or object. -/
def innerDepth : Nat := Json.deepest - 1

/-- The members of an object from a key on, after those in `others` (the last
one first). -/
def readMembers : (fuel : Nat) → (tag : Option String) → (others : List (String × Json)) →
    List Char → ReadResult Members
  | 0, _, _, _ => .error .malformed
  | fuel + 1, tag, others, cs =>
    match Json.readName cs with
    | none => .error .malformed
    | some (key, rest) =>
      if key = tagKey then
        if tag.isSome then .error .mismatch
        else
          match Json.readColon rest with
          | none => .error .malformed
          | some rest => do
            let (tag, rest) ← readTag rest
            next fuel (some tag) others rest
      else
        match (Json.readColon rest).bind fun cs => Json.readValue (Json.fuelFor cs) innerDepth cs with
        | none => .error .malformed
        | some (j, rest) => next fuel tag ((key, j) :: others) rest
where
  /-- Go on after a member. -/
  next (fuel : Nat) (tag : Option String) (others : List (String × Json)) (cs : List Char) :
      ReadResult Members :=
    match Json.readComma '\x7d' cs with
    | none => .error .malformed
    | some (true, rest) => readMembers fuel tag others rest
    | some (false, rest) => .ok ⟨tag, others.reverse, rest⟩

/-- The tagged document at the start of a text, and the text after it. -/
def read (cs : List Char) : ReadResult (Tagged × List Char) :=
  match Json.skipBlanks cs with
  | '\x7b' :: rest =>
    match Json.skipBlanks rest with
    | '\x7d' :: _ => .error .mismatch
    | rest => do
      let m ← readMembers rest.length none [] rest
      match m.tag with
      | some tag => .ok (⟨tag, .object m.others⟩, m.rest)
      | none => .error .mismatch
  | '[' :: rest =>
    match Json.skipBlanks rest with
    | ']' :: _ => .error .mismatch
    | rest => do
      let (tag, rest) ← readTag rest
      match Json.readComma ']' rest with
      | none => .error .malformed
      | some (false, rest) => .ok (⟨tag, .array []⟩, rest)
      | some (true, rest) =>
        match Json.readItems (Json.fuelFor rest) innerDepth rest with
        | some (items, rest) => .ok (⟨tag, .array items⟩, rest)
        | none => .error .malformed
  | cs =>
    match Json.readValue 1 0 cs with
    | some _ => .error .mismatch
    | none => .error .malformed

/-- The tagged document in a canonical document. -/
def ofJson (j : Json) : ReadResult Tagged :=
  match j with
  | .object members =>
    match Dict.find? members tagKey with
    | some (.string tag) => .ok ⟨tag, .object (Dict.erase members tagKey)⟩
    | _ => .error .mismatch
  | .array (.string tag :: items) => .ok ⟨tag, .array items⟩
  | _ => .error .mismatch

end Tagged

end HubAutomation
