import Mathlib.Data.List.TakeWhile
import HubAutomation.Client.Handshake

/-!
# What decides a handshake

A handshake is decided at one of two points: by what the hub says first or, if
that is the question for a token and there is one to give, by what it says then.
At each point it says a frame, or a text that is none, or the stream ends, or it
falls silent. Noise in front of that does not count.

- `Incoming.isNoise`: messages that say nothing.
- `Hears`, `Garbled`, `Breaks`, `Silent`: what the hub says at a point.
- `Saying`: what comes of waiting for a frame is what the hub says.
- `Handshake.Judged`: a handshake that is decided at a point.
- `ConnectOptions.Asked`: the hub asks for a token, and there is one to give.
- `Handshake.Decided`: the handshake that belongs to what the hub says.
- `Handshake.authenticate_decided`: a handshake is that one, with noise or without.
-/

namespace HubAutomation

namespace Incoming

/-- Whether a message is neither a text nor an end of the stream. -/
def isNoise : Incoming → Bool
  | .binary | .ping => true
  | _ => false

/-- Whether the stream ends with a message: the hub says goodbye, reading fails
or nothing more can come. -/
def isEnd : Incoming → Bool
  | .close _ | .fault _ | .ended => true
  | _ => false

/-- All that is not noise. -/
def audible (items : List Incoming) : List Incoming := items.filter fun m => !m.isNoise

end Incoming

open Incoming

/-! ### What the hub says at a point -/

/-- A message comes behind nothing but noise, and `rest` behind the message. -/
def ComesFirst (items : List Incoming) (message : Incoming) (rest : List Incoming) : Prop :=
  ∃ noise, (∀ m ∈ noise, m.isNoise = true) ∧ items = noise ++ message :: rest

/-- The first text is a frame. -/
def Hears (stamp : Stamp) (items : List Incoming) (frame : Frame) (rest : List Incoming) : Prop :=
  ∃ text, ComesFirst items (.text text) rest ∧ Frame.decode stamp text = .ok frame

/-- The first text is not a frame. -/
def Garbled (stamp : Stamp) (items : List Incoming) (cause : ReadError) : Prop :=
  ∃ text rest, ComesFirst items (.text text) rest ∧ Frame.decode stamp text = .error cause

/-- The stream ends before a text. -/
def Breaks (items : List Incoming) : Prop :=
  ∃ m rest, ComesFirst items m rest ∧ m.isEnd = true

/-- Nothing comes but noise. -/
def Silent (items : List Incoming) : Prop := ∀ m ∈ items, m.isNoise = true

variable {stamp : Stamp} {items rest later : List Incoming} {m : Incoming} {frame : Frame}
  {cause : ReadError} {token : String}

/-- What comes first is what is left when the noise is dropped. -/
theorem ComesFirst.dropWhile (first : ComesFirst items m rest) (loud : m.isNoise = false) :
    items.dropWhile isNoise = m :: rest := by
  obtain ⟨noise, quiet, rfl⟩ := first
  rw [List.dropWhile_append_of_pos quiet, List.dropWhile_cons_of_neg (by simp [loud])]

/-- What is left when the noise is dropped comes first. -/
theorem comesFirst_of_dropWhile (after : items.dropWhile isNoise = m :: rest) :
    ComesFirst items m rest :=
  ⟨items.takeWhile isNoise, fun _ h => List.mem_takeWhile_imp h, by
    rw [← after, List.takeWhile_append_dropWhile]⟩

/-! ### The next frame -/

/-- The next frame does not depend on noise in front. -/
theorem nextFrame_dropWhile (stamp : Stamp) (items : List Incoming) :
    nextFrame stamp (items.dropWhile isNoise) = nextFrame stamp items := by
  fun_induction nextFrame stamp items <;>
    simp_all [List.dropWhile_cons, isNoise, nextFrame]

/-- A frame that is heard is the next frame. -/
theorem Hears.nextFrame (hears : Hears stamp items frame rest) :
    nextFrame stamp items = .frame frame rest := by
  obtain ⟨text, first, decoded⟩ := hears
  rw [← nextFrame_dropWhile, first.dropWhile rfl, HubAutomation.nextFrame, decoded]

/-- A text that cannot be read makes the handshake fail. -/
theorem Garbled.nextFrame (garbled : Garbled stamp items cause) :
    nextFrame stamp items = .failed (.codec cause) := by
  obtain ⟨text, rest, first, decoded⟩ := garbled
  rw [← nextFrame_dropWhile, first.dropWhile rfl, HubAutomation.nextFrame, decoded]

/-- Where the hub breaks off, the connection fails. -/
theorem Breaks.nextFrame (stamp : Stamp) (breaks : Breaks items) :
    ∃ reason, nextFrame stamp items = .failed (.connection reason) := by
  obtain ⟨m, rest, first, last⟩ := breaks
  cases m with
  | text | binary | ping => simp [isEnd] at last
  | close | fault | ended =>
    exact ⟨_, by rw [← nextFrame_dropWhile, first.dropWhile rfl, HubAutomation.nextFrame]⟩

/-- Where the hub says no more, there is only silence. -/
theorem Silent.nextFrame (stamp : Stamp) (silent : Silent items) :
    nextFrame stamp items = .silence := by
  rw [← nextFrame_dropWhile, List.dropWhile_eq_nil_iff.2 silent, HubAutomation.nextFrame]

/-- What the hub says, by what comes of waiting for a frame. -/
inductive Saying (stamp : Stamp) (items : List Incoming) : NextFrame → Prop
  | hears {frame : Frame} {rest : List Incoming} (hears : Hears stamp items frame rest) :
    Saying stamp items (.frame frame rest)
  | garbled {cause : ReadError} (garbled : Garbled stamp items cause) :
    Saying stamp items (.failed (.codec cause))
  | breaks {reason : String} (breaks : Breaks items) :
    Saying stamp items (.failed (.connection reason))
  | silent (silent : Silent items) : Saying stamp items .silence

/-- The next frame is one of the four things that a hub can say. -/
theorem saying_nextFrame (stamp : Stamp) (items : List Incoming) :
    Saying stamp items (nextFrame stamp items) := by
  cases after : items.dropWhile isNoise with
  | nil =>
    have silent : Silent items := List.dropWhile_eq_nil_iff.1 after
    exact silent.nextFrame stamp ▸ .silent silent
  | cons m rest =>
    have first := comesFirst_of_dropWhile after
    cases m with
    | text text =>
      cases decoded : Frame.decode stamp text with
      | ok frame =>
        have hears : Hears stamp items frame rest := ⟨text, first, decoded⟩
        exact hears.nextFrame ▸ .hears hears
      | error cause =>
        have garbled : Garbled stamp items cause := ⟨text, rest, first, decoded⟩
        exact garbled.nextFrame ▸ .garbled garbled
    | close | fault | ended =>
      have breaks : Breaks items := ⟨_, rest, first, rfl⟩
      obtain ⟨_, failed⟩ := breaks.nextFrame stamp
      exact failed ▸ .breaks breaks
    | binary | ping =>
      have loud := List.head?_dropWhile_not isNoise items
      rw [after] at loud
      simp [isNoise] at loud

/-- The hub says at a point what its next frame is. -/
theorem hears_iff : Hears stamp items frame rest ↔ nextFrame stamp items = .frame frame rest := by
  refine ⟨Hears.nextFrame, fun next => ?_⟩
  cases next ▸ saying_nextFrame stamp items with
  | hears hears => exact hears

theorem garbled_iff :
    Garbled stamp items cause ↔ nextFrame stamp items = .failed (.codec cause) := by
  refine ⟨Garbled.nextFrame, fun next => ?_⟩
  cases next ▸ saying_nextFrame stamp items with
  | garbled garbled => exact garbled

theorem breaks_iff (stamp : Stamp) :
    Breaks items ↔ ∃ reason, nextFrame stamp items = .failed (.connection reason) := by
  refine ⟨Breaks.nextFrame stamp, fun ⟨_, next⟩ => ?_⟩
  cases next ▸ saying_nextFrame stamp items with
  | breaks breaks => exact breaks

theorem silent_iff (stamp : Stamp) : Silent items ↔ nextFrame stamp items = .silence := by
  refine ⟨Silent.nextFrame stamp, fun next => ?_⟩
  cases next ▸ saying_nextFrame stamp items with
  | silent silent => exact silent

/-- Whether a frame ends the handshake. -/
def Frame.isVerdict : Frame → Bool
  | .authOk _ | .authInvalid _ => true
  | _ => false

/-- Whether a frame asks for a token. -/
def Frame.isQuestion : Frame → Bool
  | .authRequired _ => true
  | _ => false

/-! ### One point -/

namespace Handshake

/-- A handshake that is decided by the next frame of one point. Some frames are
out of place there, and there may be a want of a token. -/
structure Judged (next : NextFrame) (stray : Frame → Prop) (wanting : Prop) (h : Handshake) :
    Prop where
  accepts : ∀ version rest, h.outcome = .ok version ∧ h.rest = rest ↔
    next = .frame (.authOk version) rest
  refuses : (∃ reason, h.outcome = .error (.authentication reason)) ↔
    (∃ message rest, next = .frame (.authInvalid message) rest) ∨ wanting
  garbles : ∀ cause, h.outcome = .error (.codec cause) ↔ next = .failed (.codec cause)
  strays : (∃ reason, h.outcome = .error (.protocol reason)) ↔
    ∃ frame rest, next = .frame frame rest ∧ stray frame
  breaks : (∃ reason, h.outcome = .error (.connection reason)) ↔
    (∃ reason, next = .failed (.connection reason)) ∨ next = .silence
  late : h.timedOut = true ↔ next = .silence
  fails : ∀ e, h.outcome = .error e → (∃ reason, e = .authentication reason) ∨
    (∃ cause, e = .codec cause) ∨ (∃ reason, e = .protocol reason) ∨
    ∃ reason, e = .connection reason

/-- The answer to a token is judged by the next frame alone. -/
theorem judged_answer (stamp : Stamp) (written : List Written) (items : List Incoming) :
    Judged (nextFrame stamp items) (·.isVerdict = false) False (answer stamp written items) := by
  have saying := saying_nextFrame stamp items
  rw [answer]
  generalize nextFrame stamp items = next at saying ⊢
  cases saying with
  | @hears frame =>
    cases frame <;> constructor <;> simp [accepted, failed, Frame.isVerdict]
  | garbled | breaks => constructor <;> simp [failed]
  | silent => constructor <;> simp [late]

/-- Without a token to give, the handshake is decided at the start. -/
theorem judged_authenticate_none (stamp : Stamp) (items : List Incoming) :
    Judged (nextFrame stamp items)
      (fun frame => frame.isVerdict = false ∧ frame.isQuestion = false)
      (∃ version later, nextFrame stamp items = .frame (.authRequired version) later)
      (authenticate stamp none none items) := by
  have saying := saying_nextFrame stamp items
  rw [authenticate]
  generalize nextFrame stamp items = next at saying ⊢
  cases saying with
  | @hears frame =>
    cases frame <;> constructor <;>
      simp [accepted, failed, Frame.isVerdict, Frame.isQuestion]
  | garbled | breaks => constructor <;> simp [failed]
  | silent => constructor <;> simp [late]

/-- A client that is asked sends its token and listens to the answer. -/
theorem authenticate_of_asked {version : Option String}
    (asked : nextFrame stamp items = .frame (.authRequired version) later) :
    authenticate stamp (some token) none items = answer stamp [.token token] later := by
  rw [authenticate, asked]

/-- Where the hub does not ask, a token does not matter. -/
theorem authenticate_of_not_asked
    (unasked : ¬ ∃ version later, nextFrame stamp items = .frame (.authRequired version) later)
    (token : Option String) :
    authenticate stamp token none items = authenticate stamp none none items := by
  rw [authenticate, authenticate]
  generalize nextFrame stamp items = next at unasked
  rcases next with ⟨frame, rest⟩ | failure | _
  · cases frame with
    | authRequired version => exact absurd ⟨version, rest, rfl⟩ unasked
    | _ => rfl
  · rfl
  · rfl

/-- An answer does not make the client write anything more. -/
theorem written_answer (stamp : Stamp) (written : List Written) (items : List Incoming) :
    (answer stamp written items).written = written := by
  rw [answer]
  split <;> rfl

/-- A client without a token writes nothing. -/
theorem written_authenticate_none (stamp : Stamp) (items : List Incoming) :
    (authenticate stamp none none items).written = [] := by
  rw [authenticate]
  split <;> rfl

end Handshake

/-! ### Two points -/

namespace ConnectOptions

variable {o : ConnectOptions}

/-- The hub asks for a token first, and there is one to give. -/
def Asked (o : ConnectOptions) (stamp : Stamp) (items : List Incoming) (token : String)
    (later : List Incoming) : Prop :=
  (∃ version, Hears stamp items (.authRequired version) later) ∧
    o.token = some token ∧ token ≠ ""

/-- The hub asks for a token first, and there is none or an empty one. -/
def AskedInVain (o : ConnectOptions) (stamp : Stamp) (items : List Incoming) : Prop :=
  (∃ version later, Hears stamp items (.authRequired version) later) ∧
    (o.token = none ∨ o.token = some "")

/-- Something holds at the start or behind the question for the token. -/
def AtAPoint (o : ConnectOptions) (stamp : Stamp) (items : List Incoming)
    (holds : List Incoming → Prop) : Prop :=
  holds items ∨ ∃ token later, o.Asked stamp items token later ∧ holds later

/-- A token can be used if it is not empty. -/
theorem usableToken_eq_some : o.usableToken = some token ↔ o.token = some token ∧ token ≠ "" := by
  simp [usableToken, Option.filter_eq_some_iff]

theorem usableToken_eq_none : o.usableToken = none ↔ o.token = none ∨ o.token = some "" := by
  cases given : o.token <;> simp [usableToken, given]

/-- A client is asked if the hub wants a token and there is one to use. -/
theorem asked_iff : o.Asked stamp items token later ↔
    (∃ version, nextFrame stamp items = .frame (.authRequired version) later) ∧
      o.usableToken = some token := by
  simp only [Asked, hears_iff, usableToken_eq_some]

/-- There is one token and one point at which a client is asked. -/
theorem Asked.iff (asked : o.Asked stamp items token later) {token' : String}
    {later' : List Incoming} :
    o.Asked stamp items token' later' ↔ token' = token ∧ later' = later := by
  constructor
  · intro asked'
    obtain ⟨⟨_, next⟩, given⟩ := asked_iff.1 asked
    obtain ⟨⟨_, next'⟩, given'⟩ := asked_iff.1 asked'
    cases given.symm.trans given'
    cases next.symm.trans next'
    exact ⟨rfl, rfl⟩
  · rintro ⟨rfl, rfl⟩
    exact asked

/-- A client that is asked listens at two points. -/
theorem Asked.atAPoint (asked : o.Asked stamp items token later)
    {holds : List Incoming → Prop} :
    o.AtAPoint stamp items holds ↔ holds items ∨ holds later := by
  simp [AtAPoint, asked.iff, and_assoc]

/-- A client that is not asked listens at one point. -/
theorem atAPoint_of_not_asked (unasked : ¬ ∃ token later, o.Asked stamp items token later)
    {holds : List Incoming → Prop} : o.AtAPoint stamp items holds ↔ holds items :=
  or_iff_left fun ⟨token, later, asked, _⟩ => unasked ⟨token, later, asked⟩

/-- Where there is no token to give, any question is in vain. -/
theorem askedInVain_iff (unasked : ¬ ∃ token later, o.Asked stamp items token later) :
    o.AskedInVain stamp items ↔
      ∃ version later, nextFrame stamp items = .frame (.authRequired version) later := by
  simp only [AskedInVain, hears_iff, ← usableToken_eq_none]
  refine and_iff_left_of_imp fun ⟨version, later, next⟩ => ?_
  refine Option.eq_none_iff_forall_ne_some.2 fun token given => ?_
  exact unasked ⟨token, later, asked_iff.2 ⟨⟨version, next⟩, given⟩⟩

end ConnectOptions

/-! ### The decision -/

namespace Handshake

open ConnectOptions

/-- The handshake that belongs to what the hub says. -/
structure Decided (o : ConnectOptions) (stamp : Stamp) (items : List Incoming) (h : Handshake) :
    Prop where
  /-- The hub is heard to accept; what it says behind that is not read. -/
  accepts : ∀ version rest, h.outcome = .ok version ∧ h.rest = rest ↔
    o.AtAPoint stamp items (Hears stamp · (.authOk version) rest)
  refuses : (∃ reason, h.outcome = .error (.authentication reason)) ↔
    o.AtAPoint stamp items (fun said => ∃ message rest,
      Hears stamp said (.authInvalid message) rest) ∨ o.AskedInVain stamp items
  garbles : ∀ cause, h.outcome = .error (.codec cause) ↔
    o.AtAPoint stamp items (Garbled stamp · cause)
  /-- A second question is out of place, the first one is not. -/
  strays : (∃ reason, h.outcome = .error (.protocol reason)) ↔
    (∃ frame rest, Hears stamp items frame rest ∧ frame.isVerdict = false ∧
      frame.isQuestion = false) ∨
    ∃ token later, o.Asked stamp items token later ∧
      ∃ frame rest, Hears stamp later frame rest ∧ frame.isVerdict = false
  breaks : (∃ reason, h.outcome = .error (.connection reason)) ↔
    o.AtAPoint stamp items fun said => Breaks said ∨ Silent said
  late : h.timedOut = true ↔ o.AtAPoint stamp items Silent
  /-- There is no other way to fail. -/
  fails : ∀ e, h.outcome = .error e → (∃ reason, e = .authentication reason) ∨
    (∃ cause, e = .codec cause) ∨ (∃ reason, e = .protocol reason) ∨
    ∃ reason, e = .connection reason
  /-- The token is written where the hub asks for it and can have it. -/
  answers : ∀ token, h.written = [.token token] ↔ ∃ later, o.Asked stamp items token later
  /-- Nothing else is written. -/
  writesNothing : h.written = [] ↔ ¬ ∃ token later, o.Asked stamp items token later

/-- Where the hub asks and there is a token, the second point decides. -/
theorem Judged.decided_of_asked {o : ConnectOptions} {h : Handshake}
    (judged : Judged (nextFrame stamp later) (·.isVerdict = false) False h)
    (written : h.written = [.token token]) (asked : o.Asked stamp items token later) :
    Decided o stamp items h := by
  obtain ⟨⟨version, next⟩, given⟩ := asked_iff.1 asked
  have vain : ¬ (o.token = none ∨ o.token = some "") := by
    rw [← usableToken_eq_none, given]
    nofun
  constructor
  case accepts => simp [asked.atAPoint, hears_iff, next, judged.accepts]
  case refuses => simp [asked.atAPoint, hears_iff, next, judged.refuses, AskedInVain, vain]
  case garbles => simp [asked.atAPoint, garbled_iff, next, judged.garbles]
  case strays =>
    simp [asked.iff, and_assoc, hears_iff, next, judged.strays, Frame.isQuestion]
  case breaks =>
    simp [asked.atAPoint, breaks_iff stamp, silent_iff stamp, next, judged.breaks]
  case late => simp [asked.atAPoint, silent_iff stamp, next, judged.late]
  case fails => exact judged.fails
  case answers => simp [asked.iff, written, eq_comm]
  case writesNothing => simp [asked.iff, written]

/-- In all other cases the first one does. -/
theorem Judged.decided_of_not_asked {o : ConnectOptions} {h : Handshake}
    (judged : Judged (nextFrame stamp items)
      (fun frame => frame.isVerdict = false ∧ frame.isQuestion = false)
      (o.AskedInVain stamp items) h)
    (written : h.written = []) (unasked : ¬ ∃ token later, o.Asked stamp items token later) :
    Decided o stamp items h := by
  constructor
  case accepts => simp [atAPoint_of_not_asked unasked, hears_iff, judged.accepts]
  case refuses => simp [atAPoint_of_not_asked unasked, hears_iff, judged.refuses]
  case garbles => simp [atAPoint_of_not_asked unasked, garbled_iff, judged.garbles]
  case strays =>
    rw [judged.strays]
    simp only [hears_iff]
    exact (or_iff_left fun ⟨token, later, asked, _⟩ => unasked ⟨token, later, asked⟩).symm
  case breaks =>
    simp [atAPoint_of_not_asked unasked, breaks_iff stamp, silent_iff stamp, judged.breaks]
  case late => simp [atAPoint_of_not_asked unasked, silent_iff stamp, judged.late]
  case fails => exact judged.fails
  case answers =>
    simp only [written, List.nil_eq, reduceCtorEq, false_iff]
    exact fun token asked => unasked ⟨token, asked⟩
  case writesNothing => exact iff_of_true written unasked

/-- Every handshake is decided as its first loud items say. -/
theorem decided_authenticate (o : ConnectOptions) (stamp : Stamp) (items : List Incoming) :
    Decided o stamp items (authenticate stamp o.usableToken none items) := by
  by_cases asked : ∃ token later, o.Asked stamp items token later
  · obtain ⟨token, later, asked⟩ := asked
    obtain ⟨⟨version, next⟩, given⟩ := asked_iff.1 asked
    rw [given, authenticate_of_asked next]
    exact (judged_answer stamp _ later).decided_of_asked (written_answer stamp _ later) asked
  · have same :
        authenticate stamp o.usableToken none items = authenticate stamp none none items := by
      cases given : o.usableToken with
      | none => rfl
      | some token =>
        exact authenticate_of_not_asked (fun ⟨version, later, next⟩ =>
          asked ⟨token, later, asked_iff.2 ⟨⟨version, next⟩, given⟩⟩) _
    rw [same]
    refine Judged.decided_of_not_asked ?_ (written_authenticate_none stamp items) asked
    rw [askedInVain_iff asked]
    exact judged_authenticate_none stamp items

/-! ### Noise -/

/-- Without noise the hub says the same. -/
theorem nextFrame_audible (stamp : Stamp) (items : List Incoming) :
    nextFrame stamp (audible items) =
      match nextFrame stamp items with
      | .frame frame rest => .frame frame (audible rest)
      | other => other := by
  fun_induction nextFrame stamp items <;>
    simp_all [audible, isNoise, nextFrame]

/-- Without noise a token gets the same answer. -/
theorem answer_audible (stamp : Stamp) (written : List Written) (items : List Incoming) :
    answer stamp written (audible items) =
      { answer stamp written items with rest := audible (answer stamp written items).rest } := by
  rw [answer, answer, nextFrame_audible]
  cases nextFrame stamp items with
  | frame frame rest => cases frame <;> rfl
  | failed | silence => rfl

/-- Noise changes nothing but what is left of it. -/
theorem authenticate_audible (stamp : Stamp) (token : Option String) (items : List Incoming) :
    authenticate stamp token none (audible items) =
      { authenticate stamp token none items with
        rest := audible (authenticate stamp token none items).rest } := by
  rw [authenticate, authenticate, nextFrame_audible]
  cases nextFrame stamp items with
  | frame frame rest =>
    cases frame with
    | authRequired =>
      cases token with
      | none => rfl
      | some token => exact answer_audible stamp [.token token] rest
    | _ => rfl
  | failed | silence => rfl

/-- A handshake is decided by what the hub says at one of two points. Noise does
not count. -/
theorem authenticate_decided (o : ConnectOptions) (stamp : Stamp) (items : List Incoming) :
    Decided o stamp items (authenticate stamp o.usableToken none items) ∧
      authenticate stamp o.usableToken none (audible items) =
        { authenticate stamp o.usableToken none items with
          rest := audible (authenticate stamp o.usableToken none items).rest } :=
  ⟨decided_authenticate o stamp items, authenticate_audible stamp o.usableToken items⟩

end Handshake

end HubAutomation
