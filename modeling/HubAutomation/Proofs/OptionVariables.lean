import HubAutomation.Proofs.EntityTexts
import HubAutomation.Proofs.Json.DoubleTexts
import HubAutomation.Settings

/-!
# Options from variables

What the variables have to be for options to come of them, and what the options
are then. Each variable is read on its own; a blank one is one that is not set.

- `Text.Trimmed`: a text without the blanks around it.
- `Settings.Given`: a variable has a value that is not blank.
- `Settings.ReadsPort`, `Settings.ReadsSwitch`, `Settings.ReadsUrl`: what a value
  stands for.
- `Settings.Chosen`: an option is what its variable stands for, or the default.
- `ConnectOptions.settled_by_variables`: faults, options and the location.
-/

namespace HubAutomation

/-! ### Trimming -/

namespace Text

variable {core cs : List Char}

/-- A text without the blanks around it: at neither end it has a blank itself. -/
structure Trimmed (core cs : List Char) : Prop where
  around : ∃ front back, cs = front ++ (core ++ back) ∧ (∀ c ∈ front, isBlank c = true) ∧
    ∀ c ∈ back, isBlank c = true
  starts : ∀ c ∈ core.head?, isBlank c = false
  ends : ∀ c ∈ core.getLast?, isBlank c = false

/-- Blanks in front are cut off, up to the first character that is none. -/
theorem trimStart_append {front rest : List Char} (blank : ∀ c ∈ front, isBlank c = true)
    (starts : ∀ c ∈ rest.head?, isBlank c = false) : trimStart (front ++ rest) = rest := by
  unfold trimStart
  rw [List.dropWhile_append_of_pos blank]
  cases rest with
  | nil => rfl
  | cons c rest =>
    have notBlank : ¬ isBlank c = true := Bool.eq_false_iff.1 (starts c rfl)
    exact List.dropWhile_cons_of_neg notBlank

/-- A text is blanks and what is left without them. -/
theorem exists_trimStart (cs : List Char) :
    ∃ front, cs = front ++ trimStart cs ∧ (∀ c ∈ front, isBlank c = true) ∧
      ∀ c ∈ (trimStart cs).head?, isBlank c = false := by
  refine ⟨cs.takeWhile isBlank, List.takeWhile_append_dropWhile.symm, ?_, fun c first => ?_⟩
  · exact fun c mem => List.mem_takeWhile_imp mem
  · have stops := List.head?_dropWhile_not isBlank cs
    unfold trimStart at first
    rw [Option.mem_def.1 first] at stops
    exact stops

/-- What is left of a text after trimming is its core. -/
theorem trimmed_trim (cs : List Char) : Trimmed (trim cs) cs := by
  obtain ⟨front, isFront, frontBlank, starts⟩ := exists_trimStart cs
  obtain ⟨back, isBack, backBlank, ends⟩ := exists_trimStart (trimStart cs).reverse
  have whole : trimStart cs = trim cs ++ back.reverse := by
    unfold trim
    rw [← List.reverse_append, ← isBack, List.reverse_reverse]
  refine ⟨⟨front, back.reverse, whole ▸ isFront, frontBlank, fun c mem => ?_⟩, fun c first => ?_,
    fun c last => ?_⟩
  · exact backBlank c (List.mem_reverse.1 mem)
  · refine starts c ?_
    rw [whole, List.head?_append, Option.mem_def.1 first]
    rfl
  · refine ends c ?_
    unfold trim at last
    rwa [List.getLast?_reverse] at last

/-- The core of a text is what trimming leaves. -/
theorem trim_of_trimmed (trimmed : Trimmed core cs) : trim cs = core := by
  obtain ⟨front, back, rfl, frontBlank, backBlank⟩ := trimmed.around
  have backwards : trimStart (back.reverse ++ core.reverse) = core.reverse :=
    trimStart_append (fun c mem => backBlank c (List.mem_reverse.1 mem)) fun c first =>
      trimmed.ends c (List.head?_reverse ▸ first)
  unfold trim
  by_cases nothing : core = []
  · -- The front goes on behind the missing core, so all is trimmed at once.
    subst nothing
    have all : trimStart (front ++ back) = [] := by
      have blank : ∀ c ∈ front ++ back, isBlank c = true := fun c mem =>
        (List.mem_append.1 mem).elim (frontBlank c) (backBlank c)
      exact List.dropWhile_eq_nil_iff.2 blank
    rw [List.nil_append, all]
    rfl
  · obtain ⟨c, rest, isCons⟩ := List.exists_cons_of_ne_nil nothing
    have forwards : trimStart (front ++ (core ++ back)) = core ++ back := by
      refine trimStart_append frontBlank fun c first => trimmed.starts c ?_
      rw [isCons] at first ⊢
      exact first
    rw [forwards, List.reverse_append, backwards, List.reverse_reverse]

/-- Trimming finds the core of a text, and nothing else. -/
theorem trimmed_iff : Trimmed core cs ↔ trim cs = core :=
  ⟨trim_of_trimmed, fun same => same ▸ trimmed_trim cs⟩

end Text

namespace Settings

open Text (Trimmed)

variable {α : Type} {lookup : String → Option String} {key value : String}

/-! ### What a value stands for -/

/-- Perhaps a plus, and decimal digits behind it, for a number of sixteen bits. -/
def ReadsPort (value : String) (port : Nat) : Prop :=
  ∃ sign digits, Trimmed (sign ++ digits) value.toList ∧ (sign = [] ∨ sign = ['+']) ∧
    digits ≠ [] ∧ (∀ c ∈ digits, c.isDigit = true) ∧ Text.digitsValue digits = port ∧ port ≤ 65535

/-- One of four words for yes, or of four for no; case does not count. -/
def ReadsSwitch (value : String) (on : Bool) : Prop :=
  ∃ word, Trimmed word value.toList ∧ String.ofList (word.map Char.toLower) ∈
    if on then ["1", "true", "yes", "on"] else ["0", "false", "no", "off"]

/-- A location of a websocket. -/
def ReadsUrl (value : String) (url : Option String) : Prop :=
  url = some value ∧ ∃ rest, value = "ws://" ++ rest ∨ value = "wss://" ++ rest

/-- Digits are read one after another, and no number gets too large on the way if the
last one is none. -/
theorem portOfDigits_ok_iff {n port : Nat} {cs : List Char} (small : n ≤ largestPort) :
    portOfDigits n cs = .ok port ↔ (∀ c ∈ cs, c.isDigit = true) ∧
      cs.foldl (fun n d => n * 10 + Text.digitValue d) n = port ∧ port ≤ largestPort := by
  -- Along the digits: what was read so far only grows.
  induction cs generalizing n with
  | nil =>
    unfold portOfDigits
    constructor
    · rintro ⟨⟩
      exact ⟨List.forall_mem_nil _, rfl, small⟩
    · rintro ⟨-, rfl, -⟩
      rfl
  | cons c rest ih =>
    unfold portOfDigits
    rw [List.forall_mem_cons, List.foldl_cons]
    split
    · rename_i noDigit
      exact iff_of_false nofun fun reads => noDigit reads.1.1
    · rename_i digit
      split
      · -- More digits do not make the number smaller.
        rename_i large
        refine iff_of_false nofun ?_
        rintro ⟨-, rfl, fits⟩
        have grows := Text.le_foldl_digits rest (n * 10 + Text.digitValue c)
        omega
      · rename_i notLarge
        rw [ih (Nat.le_of_not_lt notLarge), and_iff_right (not_not.1 digit)]

/-- A port is a row of digits that is not too large, with a plus in front or without
one. -/
theorem parsePort_ok_iff {cs : List Char} {port : Nat} :
    parsePort cs = .ok port ↔ ∃ sign digits, cs = sign ++ digits ∧ (sign = [] ∨ sign = ['+']) ∧
      digits ≠ [] ∧ (∀ c ∈ digits, c.isDigit = true) ∧ Text.digitsValue digits = port ∧
      port ≤ 65535 := by
  have plus : ¬ '+'.isDigit = true := by decide
  unfold parsePort
  -- A plus is no digit, so the sign can be told from what comes behind it.
  split
  · refine iff_of_false nofun ?_
    rintro ⟨sign, digits, all, -, some_, -⟩
    exact some_ (List.append_eq_nil_iff.1 all.symm).2
  · refine iff_of_false nofun ?_
    rintro ⟨sign, digits, all, rfl | rfl, some_, digit, -⟩
    · obtain rfl : ['+'] = digits := all
      exact plus (digit '+' List.mem_cons_self)
    · exact some_ (List.cons.inj all).2.symm
  · rename_i rest more
    rw [portOfDigits_ok_iff (Nat.zero_le _)]
    constructor
    · rintro ⟨digit, value, fits⟩
      exact ⟨['+'], rest, rfl, .inr rfl, fun nothing => more (nothing ▸ rfl), digit, value, fits⟩
    · rintro ⟨sign, digits, all, rfl | rfl, some_, digit, value, fits⟩
      · obtain rfl : '+' :: rest = digits := all
        exact absurd (digit '+' List.mem_cons_self) plus
      · obtain rfl := (List.cons.inj all).2
        exact ⟨digit, value, fits⟩
  · rename_i some_ _ unsigned
    rw [portOfDigits_ok_iff (Nat.zero_le _)]
    constructor
    · rintro ⟨digit, value, fits⟩
      exact ⟨[], cs, rfl, .inl rfl, some_, digit, value, fits⟩
    · rintro ⟨sign, digits, all, rfl | rfl, -, digit, value, fits⟩
      · obtain rfl : cs = digits := all
        exact ⟨digit, value, fits⟩
      · exact absurd all (unsigned digits)

/-- The reader of ports accepts what stands for a port. -/
theorem portNumber_ok_iff {port : Nat} : portNumber value = .ok port ↔ ReadsPort value port := by
  have parsed : portNumber value = .ok port ↔ parsePort (Text.trim value.toList) = .ok port := by
    unfold portNumber
    split <;> simp [*]
  unfold ReadsPort
  rw [parsed, parsePort_ok_iff]
  simp only [Text.trimmed_iff]

/-- The reader of switches accepts the words for on and off in any case. -/
theorem parseSwitch_ok_iff {on : Bool} : parseSwitch value = .ok on ↔ ReadsSwitch value on := by
  have apart : ∀ word ∈ trueWords, word ∉ falseWords := by decide
  have reads : ReadsSwitch value on ↔
      String.ofList ((Text.trim value.toList).map Char.toLower) ∈
        if on then trueWords else falseWords := by
    constructor
    · rintro ⟨word, trimmed, mem⟩
      rw [Text.trimmed_iff.1 trimmed]
      exact mem
    · exact fun mem => ⟨_, Text.trimmed_trim _, mem⟩
  rw [reads]
  unfold parseSwitch
  dsimp only
  generalize String.ofList ((Text.trim value.toList).map Char.toLower) = word
  split
  · rename_i yes
    cases on with
    | true => exact iff_of_true rfl yes
    | false => exact iff_of_false nofun (apart word yes)
  · rename_i notYes
    split
    · rename_i no
      cases on with
      | true => exact iff_of_false nofun notYes
      | false => exact iff_of_true rfl no
    · rename_i notNo
      cases on with
      | true => exact iff_of_false nofun notYes
      | false => exact iff_of_false nofun notNo

/-- A text begins with another one if it is that one and a rest. -/
theorem isPrefixOf_iff {front s : String} :
    front.toList.isPrefixOf s.toList = true ↔ ∃ rest, s = front ++ rest := by
  rw [List.isPrefixOf_iff_prefix]
  constructor
  · rintro ⟨rest, chars⟩
    refine ⟨String.ofList rest, EntityId.eq_append_iff.2 ?_⟩
    rw [String.toList_ofList, chars]
  · rintro ⟨rest, rfl⟩
    exact ⟨rest.toList, String.toList_append.symm⟩

/-- The two schemes of websockets. -/
theorem hasWebsocketScheme_iff :
    hasWebsocketScheme value = true ↔
      ∃ rest, value = "ws://" ++ rest ∨ value = "wss://" ++ rest := by
  unfold hasWebsocketScheme
  rw [Bool.or_eq_true, isPrefixOf_iff, isPrefixOf_iff, exists_or]

/-- The reader of locations accepts those with a scheme, and takes blank ones for
none. -/
theorem url_ok_iff {url : Option String} :
    (Settings.url value).map some = .ok url ↔ ReadsUrl value url := by
  unfold Settings.url ReadsUrl
  rw [← hasWebsocketScheme_iff]
  split
  · rename_i scheme
    rw [and_iff_left scheme]
    constructor
    · rintro ⟨⟩
      rfl
    · rintro rfl
      rfl
  · rename_i noScheme
    exact iff_of_false nofun fun reads => noScheme reads.2

/-! ### Variables -/

/-- A variable has a value that is not blank. -/
def Given (lookup : String → Option String) (key value : String) : Prop :=
  lookup key = some value ∧ ∃ c ∈ value.toList, Text.isBlank c = false

/-- A variable has a value that does not stand for anything. -/
def Unusable (lookup : String → Option String) (key : String) (reads : String → α → Prop) : Prop :=
  ∃ value, Given lookup key value ∧ ¬ ∃ a, reads value a

/-- An option is what its variable stands for; without one, it is the default. -/
def Chosen (lookup : String → Option String) (key : String) (reads : String → α → Prop)
    (default a : α) : Prop :=
  (∃ value, Given lookup key value ∧ reads value a) ∨
    (¬ ∃ value, Given lookup key value) ∧ a = default

/-- Two sources give a variable the same value, or none that is not blank. -/
def Alike (v v' : Option String) : Prop :=
  v = v' ∨ ∀ value, v = some value ∨ v' = some value → ∀ c ∈ value.toList, Text.isBlank c = true

/-- A variable counts if it is set to something that is not blank. -/
theorem value?_eq_some_iff : value? lookup key = some value ↔ Given lookup key value := by
  unfold value? Given
  rw [Option.filter_eq_some_iff, Bool.not_eq_true', ← Bool.not_eq_true, List.all_eq_true]
  simp only [not_forall, Bool.not_eq_true, exists_prop]

/-- A variable that is unset or blank does not count. -/
theorem value?_eq_none_iff : value? lookup key = none ↔ ¬ ∃ value, Given lookup key value := by
  simp only [← value?_eq_some_iff, ← Option.isSome_iff_exists, Option.not_isSome_iff_eq_none]

/-- Variables that are alike in the way that counts have the same value. -/
theorem value?_alike {lookup' : String → Option String} (alike : Alike (lookup key) (lookup' key)) :
    value? lookup key = value? lookup' key := by
  unfold value?
  rcases alike with same | blank
  · rw [same]
  · have unset (v : Option String)
        (blank : ∀ value, v = some value → ∀ c ∈ value.toList, Text.isBlank c = true) :
        (v.filter fun v => !v.toList.all Text.isBlank) = none := by
      refine Option.filter_eq_none_iff.2 fun value given => ?_
      rw [List.all_eq_true.2 (blank value given)]
      exact Bool.false_ne_true
    rw [unset _ fun value given => blank value (.inl given),
      unset _ fun value given => blank value (.inr given)]

/-! ### Reading one variable -/

/-- A reader of a variable goes by what the values stand for, and its faults name
the variable. -/
structure Reading (key : String) (read : String → Except SettingError α)
    (reads : String → α → Prop) : Prop where
  ok : ∀ value a, read value = .ok a ↔ reads value a
  error : ∀ value e, read value = .error e → e.key = key

namespace Reading

variable {read : String → Except SettingError α} {reads : String → α → Prop} {default : α}

/-- What is read of a variable is what its value stands for, or the default. -/
theorem chosen_iff (reading : Reading key read reads) {a : α} :
    orDefault default read (value? lookup key) = .ok a ↔ Chosen lookup key reads default a := by
  unfold Chosen
  rw [← value?_eq_none_iff]
  simp only [← value?_eq_some_iff]
  cases value? lookup key with
  | none =>
    constructor
    · rintro ⟨⟩
      exact .inr ⟨rfl, rfl⟩
    · rintro (⟨_, ⟨⟩, _⟩ | ⟨-, rfl⟩)
      rfl
  | some value =>
    constructor
    · intro same
      exact .inl ⟨value, rfl, (reading.ok value a).1 same⟩
    · rintro (⟨_, ⟨⟩, meant⟩ | ⟨⟨⟩, _⟩)
      exact (reading.ok value a).2 meant

/-- Only a value that stands for nothing is a fault. -/
theorem error_iff (reading : Reading key read reads) :
    (∃ e, orDefault default read (value? lookup key) = .error e) ↔ Unusable lookup key reads := by
  unfold Unusable
  simp only [← value?_eq_some_iff, ← reading.ok]
  cases value? lookup key with
  | none => exact iff_of_false (fun ⟨_, e⟩ => nomatch e) fun ⟨_, given, _⟩ => nomatch given
  | some value =>
    constructor
    · rintro ⟨e, fault⟩
      refine ⟨value, rfl, fun ⟨a, meant⟩ => ?_⟩
      cases fault.symm.trans meant
    · rintro ⟨_, ⟨⟩, meaningless⟩
      show ∃ e, read value = .error e
      cases result : read value with
      | error e => exact ⟨e, rfl⟩
      | ok a => exact absurd ⟨a, result⟩ meaningless

/-- A variable can be read unless it is set to something of no use. -/
theorem ok_iff (reading : Reading key read reads) :
    (∃ a, orDefault default read (value? lookup key) = .ok a) ↔ ¬ Unusable lookup key reads := by
  have errors : (∃ e, orDefault default read (value? lookup key) = .error e) ↔ _ :=
    reading.error_iff
  rw [← errors]
  cases orDefault default read (value? lookup key) with
  | ok a => simp
  | error e => simp

/-- An error names the variable that it is about. -/
theorem key_of_error (reading : Reading key read reads) {e : SettingError}
    (failed : orDefault default read (value? lookup key) = .error e) : e.key = key := by
  cases value : value? lookup key with
  | none =>
    rw [value] at failed
    cases failed
  | some value' =>
    rw [value] at failed
    exact reading.error value' e failed

end Reading

/-- How the port is read. -/
theorem reading_portNumber : Reading "HASS_PORT" portNumber ReadsPort where
  ok _ _ := portNumber_ok_iff
  error value e failed := by
    unfold portNumber at failed
    split at failed <;> cases failed
    rfl

/-- How the switch is read. -/
theorem reading_parseSwitch : Reading "HASS_SECURE" parseSwitch ReadsSwitch where
  ok _ _ := parseSwitch_ok_iff
  error value e failed := by
    unfold parseSwitch at failed
    dsimp only at failed
    split at failed
    · cases failed
    · split at failed <;> cases failed
      rfl

/-- How the location is read. -/
theorem reading_url : Reading "HASS_URL" (fun value => (Settings.url value).map some) ReadsUrl where
  ok _ _ := url_ok_iff
  error value e failed := by
    unfold Settings.url at failed
    split at failed <;> cases failed
    rfl

end Settings

namespace ConnectOptions

open Settings

variable {lookup : String → Option String} {o : ConnectOptions} {e : SettingError}

/-- Every option is what its variable stands for, or the default. -/
structure AreChosen (lookup : String → Option String) (o : ConnectOptions) : Prop where
  host : Chosen lookup "HASS_HOST" (fun value host => host = value) "hassio.local" o.host
  portNumber : Chosen lookup "HASS_PORT" ReadsPort 8123 o.portNumber
  path : Chosen lookup "HASS_PATH" (fun value path => path = value) "/api/websocket" o.path
  secure : Chosen lookup "HASS_SECURE" ReadsSwitch false o.secure
  url : Chosen lookup "HASS_URL" ReadsUrl none o.url
  token : Chosen lookup "HASS_TOKEN" (fun value token => token = some value) none o.token
  handshakeTimeout : o.handshakeTimeout = 10000
  channelCapacity : o.channelCapacity = 1024

/-- The variable that is at fault first: the number, then the switch, then the
location. -/
inductive FirstFault (lookup : String → Option String) : String → Prop where
  | portNumber (fault : Unusable lookup "HASS_PORT" ReadsPort) : FirstFault lookup "HASS_PORT"
  | secure (before : ¬ Unusable lookup "HASS_PORT" ReadsPort)
      (fault : Unusable lookup "HASS_SECURE" ReadsSwitch) : FirstFault lookup "HASS_SECURE"
  | url (before : ¬ Unusable lookup "HASS_PORT" ReadsPort)
      (before' : ¬ Unusable lookup "HASS_SECURE" ReadsSwitch)
      (fault : Unusable lookup "HASS_URL" ReadsUrl) : FirstFault lookup "HASS_URL"

/-- An option that is taken from its variable as it is. -/
theorem chosen_verbatim_iff {α : Type} {key : String} {f : String → α} {default a : α} :
    Chosen lookup key (fun value a => a = f value) default a ↔
      a = ((value? lookup key).map f).getD default := by
  unfold Chosen
  rw [← value?_eq_none_iff]
  simp only [← value?_eq_some_iff]
  cases value? lookup key with
  | none => simp
  | some value => simp

/-- The options of the values that were read. -/
def assembled (lookup : String → Option String) (portNumber : Nat) (secure : Bool)
    (url : Option String) : ConnectOptions where
  host := (value? lookup "HASS_HOST").getD "hassio.local"
  portNumber
  path := (value? lookup "HASS_PATH").getD "/api/websocket"
  secure
  url
  token := value? lookup "HASS_TOKEN"

/-- Port, switch and location are read in this order, and then put together. -/
theorem ofVariables_eq (lookup : String → Option String) :
    ofVariables lookup =
      (orDefault 8123 Settings.portNumber (value? lookup "HASS_PORT")).bind fun n =>
        (orDefault false parseSwitch (value? lookup "HASS_SECURE")).bind fun on =>
          (orDefault none (fun v => (Settings.url v).map some) (value? lookup "HASS_URL")).bind
            fun url => .ok (assembled lookup n on url) := rfl

/-- Options are chosen by what the three variables stand for. -/
theorem areChosen_iff : AreChosen lookup o ↔ ∃ n on url,
    Chosen lookup "HASS_PORT" ReadsPort 8123 n ∧ Chosen lookup "HASS_SECURE" ReadsSwitch false on ∧
      Chosen lookup "HASS_URL" ReadsUrl none url ∧ o = assembled lookup n on url := by
  have verbatim (key default : String) (a : String) :
      Chosen lookup key (fun value a => a = value) default a ↔
        a = (value? lookup key).getD default := by
    rw [chosen_verbatim_iff (f := fun value => value), Option.map_id']
  have token (t : Option String) :
      Chosen lookup "HASS_TOKEN" (fun value t => t = some value) none t ↔
        t = value? lookup "HASS_TOKEN" := by
    rw [chosen_verbatim_iff]
    cases value? lookup "HASS_TOKEN" <;> rfl
  constructor
  · intro chosen
    refine ⟨_, _, _, chosen.portNumber, chosen.secure, chosen.url, ?_⟩
    unfold assembled
    rw [← (verbatim _ _ _).1 chosen.host, ← (verbatim _ _ _).1 chosen.path,
      ← (token _).1 chosen.token, ← chosen.handshakeTimeout, ← chosen.channelCapacity]
  · rintro ⟨n, on, url, portNumber, secure, url_, rfl⟩
    exact ⟨(verbatim _ _ _).2 rfl, portNumber, (verbatim _ _ _).2 rfl, secure, url_,
      (token _).2 rfl, rfl, rfl⟩

/-- The options are those that the variables choose. -/
theorem ofVariables_ok_iff : ofVariables lookup = .ok o ↔ AreChosen lookup o := by
  rw [ofVariables_eq, areChosen_iff]
  simp only [← reading_portNumber.chosen_iff, ← reading_parseSwitch.chosen_iff,
    ← reading_url.chosen_iff]
  generalize orDefault 8123 _ _ = n
  generalize orDefault false _ _ = on
  generalize orDefault none _ _ = url
  cases n <;> cases on <;> cases url <;> simp [Except.bind, eq_comm]

/-- The number is read first, then the switch, then the location, and what cannot
be read ends it. -/
theorem ofVariables_error_iff : ofVariables lookup = .error e ↔
    orDefault 8123 Settings.portNumber (value? lookup "HASS_PORT") = .error e ∨
    (∃ n, orDefault 8123 Settings.portNumber (value? lookup "HASS_PORT") = .ok n) ∧
      (orDefault false parseSwitch (value? lookup "HASS_SECURE") = .error e ∨
      (∃ on, orDefault false parseSwitch (value? lookup "HASS_SECURE") = .ok on) ∧
        orDefault none (fun v => (Settings.url v).map some) (value? lookup "HASS_URL") =
          .error e) := by
  rw [ofVariables_eq]
  generalize orDefault 8123 _ _ = n
  generalize orDefault false _ _ = on
  generalize orDefault none _ _ = url
  cases n <;> cases on <;> cases url <;> simp [Except.bind]

/-- A fault has the name of the first variable that stands for nothing. -/
theorem names_firstFault (lookup : String → Option String) (key : String) :
    (∃ e, ofVariables lookup = .error e ∧ e.key = key) ↔ FirstFault lookup key := by
  simp only [ofVariables_error_iff]
  constructor
  · rintro ⟨e, failed | ⟨portNumber, failed | ⟨secure, failed⟩⟩, rfl⟩
    · rw [reading_portNumber.key_of_error failed]
      exact .portNumber (reading_portNumber.error_iff.1 ⟨e, failed⟩)
    · rw [reading_parseSwitch.key_of_error failed]
      exact .secure (reading_portNumber.ok_iff.1 portNumber)
        (reading_parseSwitch.error_iff.1 ⟨e, failed⟩)
    · rw [reading_url.key_of_error failed]
      exact .url (reading_portNumber.ok_iff.1 portNumber) (reading_parseSwitch.ok_iff.1 secure)
        (reading_url.error_iff.1 ⟨e, failed⟩)
  · intro fault
    cases fault with
    | portNumber fault =>
      obtain ⟨e, failed⟩ := reading_portNumber.error_iff.2 fault
      exact ⟨e, .inl failed, reading_portNumber.key_of_error failed⟩
    | secure before fault =>
      obtain ⟨e, failed⟩ := reading_parseSwitch.error_iff.2 fault
      exact ⟨e, .inr ⟨reading_portNumber.ok_iff.2 before, .inl failed⟩,
        reading_parseSwitch.key_of_error failed⟩
    | url before before' fault =>
      obtain ⟨e, failed⟩ := reading_url.error_iff.2 fault
      refine ⟨e, .inr ⟨reading_portNumber.ok_iff.2 before, .inr ⟨?_, failed⟩⟩,
        reading_url.key_of_error failed⟩
      exact reading_parseSwitch.ok_iff.2 before'

/-- There is a first fault if there is any. -/
theorem exists_firstFault_iff : (∃ key, FirstFault lookup key) ↔
    Unusable lookup "HASS_PORT" ReadsPort ∨ Unusable lookup "HASS_SECURE" ReadsSwitch ∨
      Unusable lookup "HASS_URL" ReadsUrl := by
  constructor
  · rintro ⟨_, fault | ⟨_, fault⟩ | ⟨_, _, fault⟩⟩
    · exact .inl fault
    · exact .inr (.inl fault)
    · exact .inr (.inr fault)
  · intro fault
    by_cases portNumber : Unusable lookup "HASS_PORT" ReadsPort
    · exact ⟨_, .portNumber portNumber⟩
    · by_cases secure : Unusable lookup "HASS_SECURE" ReadsSwitch
      · exact ⟨_, .secure portNumber secure⟩
      · have url := (fault.resolve_left portNumber).resolve_left secure
        exact ⟨_, .url portNumber secure url⟩

/-- The variables that options come of. -/
def keys : List String :=
  ["HASS_HOST", "HASS_PORT", "HASS_PATH", "HASS_SECURE", "HASS_URL", "HASS_TOKEN"]

/-- Variables that are alike give the same options, and the same errors. -/
theorem ofVariables_alike {lookup' : String → Option String}
    (alike : ∀ key ∈ keys, Alike (lookup key) (lookup' key)) :
    ofVariables lookup' = ofVariables lookup := by
  have same (key : String) (mem : key ∈ keys) : value? lookup' key = value? lookup key :=
    (value?_alike (alike key mem)).symm
  rw [ofVariables_eq, ofVariables_eq]
  unfold assembled
  rw [same "HASS_HOST" (by decide), same "HASS_PORT" (by decide), same "HASS_PATH" (by decide),
    same "HASS_SECURE" (by decide), same "HASS_URL" (by decide), same "HASS_TOKEN" (by decide)]

/-! ### The location -/

/-- A location of the parts, with a slash before the path that starts with none. -/
def LocatedBy (o : ConnectOptions) (location : String) : Prop :=
  ∃ slash, location = (if o.secure then "wss" else "ws") ++ "://" ++ o.host ++ ":" ++
      toString o.portNumber ++ (slash ++ o.path) ∧
    ((∃ rest, o.path = "/" ++ rest) ∧ slash = "" ∨ (¬ ∃ rest, o.path = "/" ++ rest) ∧ slash = "/")

/-- A path with a slash in front. -/
theorem starts_with_slash_iff {path : String} :
    path.toList.head? = some '/' ↔ ∃ rest, path = "/" ++ rest := EntityId.head?_eq_iff

/-- Without a location of its own, a client asks at the address that is put together
from its options. -/
theorem locatedBy_websocketUrl (unset : o.url = none) : LocatedBy o o.websocketUrl := by
  unfold websocketUrl
  rw [unset]
  dsimp only
  by_cases slash : o.path.toList.head? = some '/'
  · rw [if_pos slash]
    exact ⟨"", by rw [String.empty_append], .inl ⟨starts_with_slash_iff.1 slash, rfl⟩⟩
  · rw [if_neg slash]
    exact ⟨"/", rfl, .inr ⟨fun starts => slash (starts_with_slash_iff.2 starts), rfl⟩⟩

/-- Where a client asks, it asks with a websocket. -/
theorem LocatedBy.scheme {location : String} (located : LocatedBy o location) :
    ∃ rest, location = "ws://" ++ rest ∨ location = "wss://" ++ rest := by
  obtain ⟨slash, rfl, -⟩ := located
  refine ⟨o.host ++ ":" ++ toString o.portNumber ++ (slash ++ o.path), ?_⟩
  cases o.secure with
  | false => exact .inl (by simp [← String.append_assoc])
  | true => exact .inr (by simp [← String.append_assoc])

/-- Variables have a fault if and only if one of three has a value that stands
for nothing, and the first of them is named. Otherwise every option is what its
variable stands for, or the default; blank variables are as good as none. The
location is the one that is given, or one of the parts. -/
theorem settled_by_variables (lookup : String → Option String) :
    ((∃ e, ofVariables lookup = .error e) ↔
      Unusable lookup "HASS_PORT" ReadsPort ∨ Unusable lookup "HASS_SECURE" ReadsSwitch ∨
        Unusable lookup "HASS_URL" ReadsUrl) ∧
    (∀ key, (∃ e, ofVariables lookup = .error e ∧ e.key = key) ↔ FirstFault lookup key) ∧
    (∀ o, ofVariables lookup = .ok o ↔ AreChosen lookup o) ∧
    (∀ lookup', (∀ key ∈ keys, Alike (lookup key) (lookup' key)) →
      ofVariables lookup' = ofVariables lookup) ∧
    ∀ o, ofVariables lookup = .ok o →
      (∀ url, Given lookup "HASS_URL" url → o.websocketUrl = url) ∧
      ((¬ ∃ url, Given lookup "HASS_URL" url) → LocatedBy o o.websocketUrl) ∧
      ∃ rest, o.websocketUrl = "ws://" ++ rest ∨ o.websocketUrl = "wss://" ++ rest := by
  refine ⟨?_, names_firstFault lookup, fun o => ofVariables_ok_iff,
    fun lookup' alike => ofVariables_alike alike, fun o done => ?_⟩
  · rw [← exists_firstFault_iff]
    simp only [← names_firstFault]
    rw [exists_comm]
    simp
  · have location (url : String) (given : o.url = some url) : o.websocketUrl = url := by
      unfold websocketUrl
      rw [given]
    rcases (ofVariables_ok_iff.1 done).url with ⟨url, given, isUrl, scheme⟩ | ⟨unset, isNone⟩
    · refine ⟨fun url' given' => ?_, fun unset => absurd ⟨url, given⟩ unset, ?_⟩
      · obtain rfl : url = url' := Option.some.inj (given.1.symm.trans given'.1)
        exact location url isUrl
      · rwa [location url isUrl]
    · have located := locatedBy_websocketUrl isNone
      exact ⟨fun url given => absurd ⟨url, given⟩ unset, fun _ => located, located.scheme⟩

/-- A port with blanks and a plus, a switch in capitals, a path without its slash
and a blank token. -/
def written (key : String) : Option String :=
  match key with
  | "HASS_PORT" => some " +0443 "
  | "HASS_SECURE" => some "YES"
  | "HASS_PATH" => some "api"
  | "HASS_TOKEN" => some "\t"
  | _ => none

theorem settled_by_variables_written :
    ∃ o, ofVariables written = .ok o ∧ AreChosen written o ∧ o.token = none ∧
      o.websocketUrl = "wss://hassio.local:443/api" ∧ LocatedBy o "wss://hassio.local:443/api" := by
  have settled := settled_by_variables written
  have done : ofVariables written = .ok { portNumber := 443, secure := true, path := "api" } := rfl
  have location : websocketUrl { portNumber := 443, secure := true, path := "api" } =
      "wss://hassio.local:443/api" := by decide
  have unset : ¬ ∃ url, Given written "HASS_URL" url := fun ⟨_, given, _⟩ => nomatch given
  refine ⟨_, done, (settled.2.2.1 _).1 done, rfl, location, ?_⟩
  rw [← location]
  exact (settled.2.2.2.2 _ done).2.1 unset

end ConnectOptions

end HubAutomation
