import VirtualPrinter.Wire.Payload
import VirtualPrinter.Proofs.Outcome
import Mathlib.Data.List.Basic

/-!
# The grammar of command data

Command data is an object, in which one entry names the printer, one holds the instruction and all
others are free, or else a list of the two.  Either field goes by two names.  Data of this form is
accepted, with its texts as they stand and a number as it is written; all other data is refused, and
the refusal names the event.

The entries of an object are read in order, with the fields that have been met.  What this makes of
one of the two fields depends on the entries of that field alone.

## Main definitions

* `CommandRequest.States`: the data states the command.
* `CommandRequest.presentName`: the present name of a field.

## Main results

* `CommandRequest.readEntries_iff`: reading an object, field by field.
* `CommandRequest.ofValue_iff`: data is accepted exactly when it states a command.
* `CommandRequest.accepted_exactly`: the same for events, with the refusals, the events of commands
  and the older names.
-/

namespace VirtualPrinter.Wire.CommandRequest

open Json (Value)

/-! ### The grammar -/

/-- The key is one of the field that names the printer. -/
def isName (key : String) : Bool := key == "deviceId" || key == "printerid"

/-- The key is one of the field that holds the instruction. -/
def isInstruction (key : String) : Bool := key == "instruction" || key == "gcode"

/-- The values of the entries with a key of one kind. -/
def valuesOf (kind : String → Bool) (fields : List (String × Value)) : List Value :=
  (fields.filter fun entry => kind entry.1).map (·.2)

/-- The text that a value names a printer by: the value itself, or a number as it is written. -/
def nameText? : Value → Option String
  | .text s => some s
  | .number n => some (String.ofList n.print)
  | _ => none

/-- A value that names the printer of a command, and one that is its instruction.  Neither text is
blank. -/
structure Parts (v w : Value) (r : CommandRequest) : Prop where
  name : nameText? v = some r.deviceId.text
  instruction : w = .text r.instruction
  name_not_blank : Text.isBlankText r.deviceId.text = false
  instruction_not_blank : Text.isBlankText r.instruction = false

/-- The data states a command. -/
inductive States : Value → CommandRequest → Prop where
  | object {fields : List (String × Value)} {v w : Value} {r : CommandRequest}
      (name : valuesOf isName fields = [v]) (instruction : valuesOf isInstruction fields = [w])
      (parts : Parts v w r) : States (.object fields) r
  | list {v w : Value} {r : CommandRequest} (parts : Parts v w r) : States (.list [v, w]) r

theorem States.parts {data : Value} {r : CommandRequest} (h : States data r) : ∃ v w, Parts v w r := by
  cases h with
  | object _ _ parts => exact ⟨_, _, parts⟩
  | list parts => exact ⟨_, _, parts⟩

/-! ### The entries of an object -/

theorem valuesOf_cons (kind : String → Bool) (key : String) (v : Value)
    (rest : List (String × Value)) :
    valuesOf kind ((key, v) :: rest) =
      if kind key then v :: valuesOf kind rest else valuesOf kind rest := by
  unfold valuesOf
  cases h : kind key <;> simp [h]

theorem isInstruction_of_isName {key : String} (h : isName key) : isInstruction key = false := by
  simp only [isName, Bool.or_eq_true, beq_iff_eq] at h
  rcases h with rfl | rfl <;> rfl

variable (r : CommandRequest) (seen : List String) (v : Value) (rest : List (String × Value))

theorem readEntries_name {key : String} (h : isName key) :
    readEntries payloadFields r seen ((key, v) :: rest) =
      if "deviceId" ∈ seen then .error (.duplicateField "deviceId")
      else readDeviceId v >>= fun d =>
        readEntries payloadFields { r with deviceId := d } ("deviceId" :: seen) rest := by
  have hfind : payloadFields.find? (·.hasKey key) = payloadFields[0]? := by
    simp only [isName, Bool.or_eq_true, beq_iff_eq] at h
    rcases h with rfl | rfl <;> rfl
  rw [readEntries, hfind]
  change (if seen.contains "deviceId" then _
    else (readDeviceId v).map (fun d => { r with deviceId := d }) >>= _) = _
  simp only [List.contains_iff_mem]
  cases readDeviceId v <;> rfl

theorem readEntries_instruction {key : String} (h : isInstruction key) :
    readEntries payloadFields r seen ((key, v) :: rest) =
      if "instruction" ∈ seen then .error (.duplicateField "instruction")
      else readText v >>= fun i =>
        readEntries payloadFields { r with instruction := i } ("instruction" :: seen) rest := by
  have hfind : payloadFields.find? (·.hasKey key) = payloadFields[1]? := by
    simp only [isInstruction, Bool.or_eq_true, beq_iff_eq] at h
    rcases h with rfl | rfl <;> rfl
  rw [readEntries, hfind]
  change (if seen.contains "instruction" then _
    else (readText v).map (fun i => { r with instruction := i }) >>= _) = _
  simp only [List.contains_iff_mem]
  cases readText v <;> rfl

theorem readEntries_other {key : String} (hn : isName key = false) (hi : isInstruction key = false) :
    readEntries payloadFields r seen ((key, v) :: rest) = readEntries payloadFields r seen rest := by
  simp only [isName, isInstruction, Bool.or_eq_false_iff, beq_eq_false_iff_ne] at hn hi
  have hfind : payloadFields.find? (·.hasKey key) = none := by
    simp [payloadFields, PayloadField.hasKey, PayloadField.deviceId, PayloadField.text, hn, hi,
      Ne.symm hn.2, Ne.symm hi.2]
  rw [readEntries, hfind]

/-! ### Reading one field -/

/-- What the values of a field make of it: there is one at most, and none if it has been met. -/
def Gathers {α : Type} (read : Value → Except Gap α) (old : Option α) :
    List Value → Option α → Prop
  | [], new => new = old
  | [v], new => old = none ∧ ∃ a, read v = .ok a ∧ new = some a
  | _ :: _ :: _, _ => False

section Gathers

variable {α : Type} {read : Value → Except Gap α}

theorem gathers_met {a : α} {values : List Value} {new : Option α} :
    Gathers read (some a) values new ↔ values = [] ∧ new = some a := by
  rcases values with _ | ⟨v, _ | ⟨w, values⟩⟩ <;> simp [Gathers]

theorem gathers_cons {old new : Option α} {v : Value} {values : List Value} :
    Gathers read old (v :: values) new ↔
      old = none ∧ ∃ a, read v = .ok a ∧ Gathers read (some a) values new := by
  simp only [gathers_met]
  rcases values with _ | ⟨w, values⟩ <;> simp [Gathers]

theorem gathers_some {a : α} {values : List Value} :
    Gathers read none values (some a) ↔ ∃ v, values = [v] ∧ read v = .ok a := by
  rcases values with _ | ⟨v, _ | ⟨w, values⟩⟩ <;> simp [Gathers]

end Gathers

/-- The printer, if it has been named. -/
def deviceId? (r : CommandRequest) (seen : List String) : Option DeviceId :=
  if "deviceId" ∈ seen then some r.deviceId else none

/-- The instruction, if it has been met. -/
def instruction? (r : CommandRequest) (seen : List String) : Option String :=
  if "instruction" ∈ seen then some r.instruction else none

/-- The entries of an object are read to the two fields. -/
def ReadsTo (r : CommandRequest) (seen : List String) (fields : List (String × Value))
    (d? : Option DeviceId) (i? : Option String) : Prop :=
  ∃ r' seen', readEntries payloadFields r seen fields = .ok (r', seen') ∧
    deviceId? r' seen' = d? ∧ instruction? r' seen' = i?

/-- **Reading an object, field by field.** -/
theorem readEntries_iff (r : CommandRequest) (seen : List String) (fields : List (String × Value))
    (d? : Option DeviceId) (i? : Option String) :
    ReadsTo r seen fields d? i? ↔
      Gathers readDeviceId (deviceId? r seen) (valuesOf isName fields) d? ∧
      Gathers readText (instruction? r seen) (valuesOf isInstruction fields) i? := by
  -- an entry counts for one of the fields, which it meets, or for neither
  induction fields generalizing r seen with
  | nil => simp [ReadsTo, readEntries, valuesOf, Gathers, eq_comm]
  | cons entry rest ih =>
    obtain ⟨key, v⟩ := entry
    rw [valuesOf_cons, valuesOf_cons]
    by_cases hn : isName key
    · rw [if_pos hn, isInstruction_of_isName hn, gathers_cons, ReadsTo,
        readEntries_name r seen v rest hn]
      by_cases hs : "deviceId" ∈ seen
      · simp [hs, deviceId?]
      · rw [if_neg hs]
        cases readDeviceId v with
        | error gap => simp [bind, Except.bind]
        | ok d =>
          change ReadsTo { r with deviceId := d } ("deviceId" :: seen) rest d? i? ↔ _
          rw [ih]
          simp [deviceId?, instruction?, hs]
    · rw [Bool.not_eq_true] at hn
      by_cases hi : isInstruction key
      · rw [hn, if_pos hi, gathers_cons, ReadsTo, readEntries_instruction r seen v rest hi]
        by_cases hs : "instruction" ∈ seen
        · simp [hs, instruction?]
        · rw [if_neg hs]
          cases readText v with
          | error gap => simp [bind, Except.bind]
          | ok i =>
            change ReadsTo { r with instruction := i } ("instruction" :: seen) rest d? i? ↔ _
            rw [ih]
            simp [deviceId?, instruction?, hs]
      · rw [Bool.not_eq_true] at hi
        rw [hn, hi, ReadsTo, readEntries_other r seen v rest hn hi]
        exact ih r seen

/-! ### Objects and lists -/

theorem readDeviceId_eq_ok {v : Value} {d : DeviceId} :
    readDeviceId v = .ok d ↔ nameText? v = some d.text := by
  obtain ⟨text⟩ := d
  cases v <;> simp [readDeviceId, nameText?]

theorem readText_eq_ok {v : Value} {s : String} : readText v = .ok s ↔ v = .text s := by
  cases v <;> simp [readText]

/-- A command is complete when both fields have been met. -/
theorem missing_eq_none {seen : List String} :
    (payloadFields.find? fun f => !f.optional && !seen.contains f.name) = none ↔
      "deviceId" ∈ seen ∧ "instruction" ∈ seen := by
  simp [payloadFields, PayloadField.deviceId, PayloadField.text]

theorem deviceId?_eq_some {r : CommandRequest} {seen : List String} {d : DeviceId} :
    deviceId? r seen = some d ↔ "deviceId" ∈ seen ∧ r.deviceId = d := by
  simp [deviceId?]

theorem instruction?_eq_some {r : CommandRequest} {seen : List String} {i : String} :
    instruction? r seen = some i ↔ "instruction" ∈ seen ∧ r.instruction = i := by
  simp [instruction?]

/-- An object is read when each field has one entry, of the right type. -/
theorem readPayload_object {fields : List (String × Value)} {start r : CommandRequest} :
    readPayload "CommandRequest" payloadFields start (.object fields) = .ok r ↔
      (∃ v, valuesOf isName fields = [v] ∧ nameText? v = some r.deviceId.text) ∧
      ∃ w, valuesOf isInstruction fields = [w] ∧ w = .text r.instruction := by
  have hreads := readEntries_iff start [] fields (some r.deviceId) (some r.instruction)
  simp only [deviceId?, instruction?, List.not_mem_nil, if_false, gathers_some, readDeviceId_eq_ok,
    readText_eq_ok] at hreads
  rw [← hreads, readPayload, Outcome.bind_eq_ok_iff]
  constructor
  · rintro ⟨⟨r', seen⟩, hentries, hlast⟩
    dsimp only at hlast
    split at hlast
    · cases hlast
    · next hmissing =>
      cases hlast
      obtain ⟨hd, hi⟩ := missing_eq_none.mp hmissing
      exact ⟨r, seen, hentries, deviceId?_eq_some.mpr ⟨hd, rfl⟩, instruction?_eq_some.mpr ⟨hi, rfl⟩⟩
  · rintro ⟨⟨d, i⟩, seen, hentries, hname, hinstruction⟩
    obtain ⟨hd, rfl⟩ := deviceId?_eq_some.mp hname
    obtain ⟨hi, rfl⟩ := instruction?_eq_some.mp hinstruction
    refine ⟨_, hentries, ?_⟩
    dsimp only
    rw [missing_eq_none.mpr ⟨hd, hi⟩]

/-- A list is read when it has two items, of the right types. -/
theorem readPayload_list {items : List Value} {start r : CommandRequest} :
    readPayload "CommandRequest" payloadFields start (.list items) = .ok r ↔
      ∃ v w, items = [v, w] ∧ nameText? v = some r.deviceId.text ∧ w = .text r.instruction := by
  simp only [← readDeviceId_eq_ok, ← readText_eq_ok]
  rcases items with _ | ⟨v, _ | ⟨w, items⟩⟩
  · simp [readPayload, readItems, payloadFields, PayloadField.deviceId]
  · simp only [readPayload, readItems, payloadFields, PayloadField.deviceId, PayloadField.text]
    cases readDeviceId v <;> simp [Except.map, bind, Except.bind]
  · simp only [readPayload, readItems, payloadFields, PayloadField.deviceId, PayloadField.text]
    obtain ⟨d, i⟩ := r
    cases hd : readDeviceId v <;> cases hi : readText w <;> cases items <;>
      simp [Except.map, bind, Except.bind, hd, hi]

/-- **Data is accepted exactly when it states a command.** -/
theorem ofValue_iff {v : Value} {r : CommandRequest} : ofValue v = .ok r ↔ States v r := by
  -- the texts must not be blank, whatever has been read
  have hparts : ofValue v = .ok r ↔
      readPayload "CommandRequest" payloadFields ⟨⟨""⟩, ""⟩ v = .ok r ∧
        Text.isBlankText r.deviceId.text = false ∧ Text.isBlankText r.instruction = false := by
    rw [ofValue, Outcome.bind_eq_ok_iff]
    constructor
    · rintro ⟨r', hread, hlast⟩
      split at hlast
      · cases hlast
      · split at hlast
        · cases hlast
        · next hd hi =>
          cases hlast
          exact ⟨hread, Bool.not_eq_true _ ▸ hd, Bool.not_eq_true _ ▸ hi⟩
    · rintro ⟨hread, hd, hi⟩
      exact ⟨r, hread, by simp [hd, hi]⟩
  rw [hparts]
  constructor
  · rintro ⟨hread, hd, hi⟩
    cases v with
    | object fields =>
      obtain ⟨⟨x, hx, hname⟩, w, hw, hinstruction⟩ := readPayload_object.mp hread
      exact .object hx hw ⟨hname, hinstruction, hd, hi⟩
    | list items =>
      obtain ⟨x, w, rfl, hname, hinstruction⟩ := readPayload_list.mp hread
      exact .list ⟨hname, hinstruction, hd, hi⟩
    | _ => cases hread
  · rintro (⟨hx, hw, parts⟩ | parts)
    · exact ⟨readPayload_object.mpr ⟨⟨_, hx, parts.name⟩, _, hw, parts.instruction⟩,
        parts.name_not_blank, parts.instruction_not_blank⟩
    · exact ⟨readPayload_list.mpr ⟨_, _, rfl, parts.name, parts.instruction⟩,
        parts.name_not_blank, parts.instruction_not_blank⟩

theorem ofEvent_iff {e : Event} {r : CommandRequest} : ofEvent e = .ok r ↔ States e.data r := by
  rw [← ofValue_iff, ofEvent]
  cases ofValue e.data <;> simp [Except.mapError]

/-- What states no command is refused, under the name of the event. -/
theorem states_or_refused (e : Event) :
    (∃ r, States e.data r) ∨ ∃ reason, ofEvent e = .error (.invalidPayload e.name reason) := by
  cases h : ofEvent e with
  | ok r => exact .inl ⟨r, ofEvent_iff.mp h⟩
  | error fault =>
    rw [ofEvent] at h
    cases hv : ofValue e.data with
    | ok r => simp [hv, Except.mapError] at h
    | error gap =>
      refine .inr ⟨gap.message, ?_⟩
      rw [← h, hv]
      rfl

/-! ### Older names -/

/-- The present name of a field, which a key may call by an older one. -/
def presentName (key : String) : String :=
  if isName key then "deviceId" else if isInstruction key then "instruction" else key

/-- The entries with the present names of their fields. -/
def underPresentNames (fields : List (String × Value)) : List (String × Value) :=
  fields.map (Prod.map presentName id)

theorem isName_presentName (key : String) : isName (presentName key) = isName key := by
  unfold presentName
  cases hn : isName key with
  | true => rfl
  | false => cases hi : isInstruction key <;> simp [hn]; rfl

theorem isInstruction_presentName (key : String) :
    isInstruction (presentName key) = isInstruction key := by
  unfold presentName
  by_cases hn : isName key
  · rw [if_pos hn, isInstruction_of_isName hn]
    rfl
  · cases hi : isInstruction key <;> simp [hn, hi]; rfl

theorem valuesOf_underPresentNames {kind : String → Bool} (h : ∀ key, kind (presentName key) = kind key)
    (fields : List (String × Value)) :
    valuesOf kind (underPresentNames fields) = valuesOf kind fields := by
  induction fields with
  | nil => rfl
  | cons entry rest ih =>
    obtain ⟨key, v⟩ := entry
    change valuesOf kind ((presentName key, v) :: underPresentNames rest) = _
    rw [valuesOf_cons, valuesOf_cons, h, ih]

theorem valuesOf_eq_singleton {kind : String → Bool} {fields fields' : List (String × Value)}
    (h : fields.Perm fields') {v : Value} (hv : valuesOf kind fields = [v]) :
    valuesOf kind fields' = [v] := by
  have hperm := (h.filter fun entry => kind entry.1).map (·.2)
  change (valuesOf kind fields).Perm (valuesOf kind fields') at hperm
  rw [hv] at hperm
  exact (List.singleton_perm.mp hperm).symm

/-- The names that the fields go by, and the order of the entries, do not matter. -/
theorem States.respelled {fields fields' : List (String × Value)} {r : CommandRequest}
    (h : (underPresentNames fields).Perm (underPresentNames fields'))
    (hstates : States (.object fields) r) : States (.object fields') r := by
  have hvalues : ∀ {kind : String → Bool} {v : Value}, (∀ key, kind (presentName key) = kind key) →
      valuesOf kind fields = [v] → valuesOf kind fields' = [v] := by
    intro kind v hkind hv
    rw [← valuesOf_underPresentNames hkind] at hv ⊢
    exact valuesOf_eq_singleton h hv
  cases hstates with
  | object name instruction parts =>
    exact .object (hvalues isName_presentName name)
      (hvalues isInstruction_presentName instruction) parts

/-! ### The events of commands -/

theorem states_toEvent {r : CommandRequest} (hd : Text.isBlankText r.deviceId.text = false)
    (hi : Text.isBlankText r.instruction = false) : States r.toEvent.data r :=
  .object rfl rfl ⟨rfl, rfl, hd, hi⟩

/-- **Commands are accepted exactly on their grammar.**  An event gives a command just when its data
states it, and is refused under its name otherwise.  The event of a command whose texts are not blank
gives the command back, and a command is the same under the older names of its fields. -/
theorem accepted_exactly (e : Event) :
    (∀ r, ofEvent e = .ok r ↔ States e.data r) ∧
    ((∃ r, States e.data r) ∨ ∃ reason, ofEvent e = .error (.invalidPayload e.name reason)) ∧
    (∀ name instruction, Text.isBlankText name = false → Text.isBlankText instruction = false →
      ofEvent (toEvent ⟨⟨name⟩, instruction⟩) = .ok ⟨⟨name⟩, instruction⟩) ∧
    ∀ fields fields' r, (underPresentNames fields).Perm (underPresentNames fields') →
      (ofEvent { e with data := .object fields } = .ok r ↔
        ofEvent { e with data := .object fields' } = .ok r) := by
  refine ⟨fun r => ofEvent_iff, states_or_refused e, fun name instruction hd hi => ?_,
    fun fields fields' r h => ?_⟩
  · exact ofEvent_iff.mpr (states_toEvent hd hi)
  · rw [ofEvent_iff, ofEvent_iff]
    exact ⟨.respelled h, .respelled h.symm⟩

/-- A command under the older names, with a number for the printer, and the same under the present
names. -/
theorem accepted_exactly_older_names :
    ofEvent (.new "send_gcode"
        (.object [("gcode", .text "G28"), ("printerid", .number (.int 7))])) = .ok ⟨⟨"7"⟩, "G28"⟩ ∧
      ofEvent (.new "send_gcode"
        (.object [("deviceId", .number (.int 7)), ("instruction", .text "G28")])) =
          .ok ⟨⟨"7"⟩, "G28"⟩ ∧
      ofEvent (toEvent ⟨⟨"7"⟩, "G28"⟩) = .ok ⟨⟨"7"⟩, "G28"⟩ := by
  have older := accepted_exactly (.new "send_gcode"
    (.object [("gcode", .text "G28"), ("printerid", .number (.int 7))]))
  have hstates : ofEvent (.new "send_gcode"
      (.object [("gcode", .text "G28"), ("printerid", .number (.int 7))])) = .ok ⟨⟨"7"⟩, "G28"⟩ :=
    (older.1 _).mpr (.object rfl rfl ⟨rfl, rfl, by decide, by decide⟩)
  refine ⟨hstates, ?_, older.2.2.1 "7" "G28" (by decide) (by decide)⟩
  refine (older.2.2.2 [("gcode", .text "G28"), ("printerid", .number (.int 7))]
    [("deviceId", .number (.int 7)), ("instruction", .text "G28")] _ ?_).mp hstates
  exact List.Perm.swap ("deviceId", Value.number (.int 7)) ("instruction", Value.text "G28") []

end VirtualPrinter.Wire.CommandRequest
