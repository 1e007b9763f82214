import VirtualPrinter.Proofs.Gcode.Written
import VirtualPrinter.Proofs.Machine.Bounds
import VirtualPrinter.Proofs.Machine.Footprint
import VirtualPrinter.Proofs.Text.Lines

/-!
# The report of settings, line by line

The report begins with a comment that names the printer and ends with an acknowledgement; every line
between them is an instruction.  Modes are told by their codes, magnitudes and targets by numbers with
two places, and motors by their letters.  Every one of these instructions can be carried out, by the
printer itself or by any other, since no number leaves the range that its setter checks; and it sets a
mode as it is, or enables motors that are enabled.  But no letter at all means every motor.

## Main definitions

* `State.SettingsFit`: the settings lie in the ranges that their setters check.
* `Machine.reportLines`: the lines of the report.
* `Machine.Restores`: an instruction of the report.

## Main results

* `execute_settingsFit`: commands keep settings in their ranges.
* `lines_report`: the lines of the report.
* `restores_of_mem_reportLines`: what the lines of the report ask for.
* `Restores.execute`: what they do.
-/

namespace VirtualPrinter.Machine

open Gcode (Command Opcode wordValue)
open Outcome (map_eq_ok_iff bind_eq_ok_iff)

/-! ### Settings in their ranges -/

/-- A value of a field that the setter of the field accepts, as far as it checks values. -/
def Field.Fits : (f : Field) → f.Value → Prop
  | .hotendTarget => fun target => within 0 hotendMax target
  | .bedTarget => fun target => within 0 bedMax target
  | .auxTarget => fun target => within 0 auxMax target
  | .fanSpeed => fun speed => within 0 fanMax speed
  | .acceleration | .linearAdvance => Magnitude
  | _ => fun _ => True

/-- The settings lie in the ranges that their setters check. -/
def State.SettingsFit (s : State) : Prop := ∀ f : Field, f.Fits (s.get f)

variable {s t : State} {c : Command} {now : Time.Timestamp} {answer : String}

theorem settingsFit_iff : s.SettingsFit ↔
    within 0 hotendMax s.extruder.targetTemperature ∧ within 0 bedMax s.heatbed.targetTemperature ∧
      within 0 auxMax s.auxTargetTemperature ∧ within 0 fanMax s.extruder.fanSpeed ∧
      Magnitude s.acceleration ∧ Magnitude s.linearAdvance := by
  constructor
  · intro h
    exact ⟨h .hotendTarget, h .bedTarget, h .auxTarget, h .fanSpeed, h .acceleration,
      h .linearAdvance⟩
  · rintro ⟨hotend, bed, aux, fan, acceleration, advance⟩ f
    cases f with
    | hotendTarget => exact hotend
    | bedTarget => exact bed
    | auxTarget => exact aux
    | fanSpeed => exact fan
    | acceleration => exact acceleration
    | linearAdvance => exact advance
    | _ => trivial

/-- A target that is set lies in its range, and one that is left out is as it was. -/
theorem withTarget_fits {set : State → Float → Except Refusal State} {target : Option Float} {f : Field}
    (hset : ∀ target t, set s target = .ok t → f.Fits (t.get f)) (hs : f.Fits (s.get f))
    (h : withTarget s set target = .ok t) : f.Fits (t.get f) := by
  cases target with
  | none =>
    cases h
    exact hs
  | some target => exact hset target t h

/-- A setter checks its value first. -/
theorem checked_fits {check : Except Refusal Unit} {u : State} {f : Field}
    (hcheck : check = .ok () → f.Fits (u.get f)) (h : check.map (fun _ => u) = .ok t) :
    f.Fits (t.get f) := by
  obtain ⟨_, hok, rfl⟩ := map_eq_ok_iff.mp h
  exact hcheck hok

/-- A field that a command writes gets a value that has been checked. -/
theorem fits_of_mem_footprint (h : execute now s c = .ok (t, answer)) {f : Field}
    (hs : f.Fits (s.get f)) (hf : f ∈ c.footprint) : f.Fits (t.get f) := by
  have hrange {quantity : String} {value max : Float} :
      checkRange quantity value max = .ok () → within 0 max value := State.checkRange_eq_ok_iff.mp
  have hmagnitude {quantity : String} {value : Float} :
      checkMagnitude quantity value = .ok () → Magnitude value := State.checkMagnitude_eq_ok_iff.mp
  cases c with
  | setHotendTemp target | setAuxTemp target =>
    obtain rfl := List.mem_singleton.mp hf
    obtain ⟨u, hu, ht⟩ := bind_eq_ok_iff.mp h
    cases ht
    exact withTarget_fits (fun _ _ => checked_fits hrange) hs hu
  | waitHotendTemp target =>
    obtain rfl := List.mem_singleton.mp hf
    obtain ⟨u, hu, ht⟩ := bind_eq_ok_iff.mp h
    have hfits : Field.hotendTarget.Fits (u.get .hotendTarget) :=
      withTarget_fits (fun _ _ => checked_fits hrange) hs hu
    split at ht <;> cases ht <;> exact hfits
  | setBedTemp target =>
    obtain ⟨u, hu, ht⟩ := bind_eq_ok_iff.mp h
    cases ht
    rcases List.mem_pair.mp hf with rfl | rfl
    · exact withTarget_fits (fun _ _ => checked_fits hrange) hs hu
    · trivial
  | waitBedTemp target =>
    obtain ⟨u, hu, ht⟩ := bind_eq_ok_iff.mp h
    rcases List.mem_pair.mp hf with rfl | rfl
    · have hfits : Field.bedTarget.Fits (u.get .bedTarget) :=
        withTarget_fits (fun _ _ => checked_fits hrange) hs hu
      split at ht <;> cases ht <;> exact hfits
    · trivial
  | setFan | fanOff =>
    obtain rfl := List.mem_singleton.mp hf
    obtain ⟨u, hu, ht⟩ := bind_eq_ok_iff.mp h
    cases ht
    exact checked_fits hrange hu
  | setAccel | setLinearAdvance =>
    obtain rfl := List.mem_singleton.mp hf
    obtain ⟨u, hu, ht⟩ := bind_eq_ok_iff.mp h
    cases ht
    exact checked_fits hmagnitude hu
  | motorEnable motors | motorDisable motors =>
    obtain ⟨i, -, rfl⟩ := List.mem_map.mp hf
    trivial
  | home | setPosition | setPositioning | setExtruderPositioning | setUnits | coldExtrusion
  | emergencyStop | pause | resume | keepalive =>
    -- what these write is checked otherwise, or not at all
    obtain rfl := List.mem_singleton.mp hf
    trivial
  | moveLinear | moveArc | setProgress => rcases List.mem_pair.mp hf with rfl | rfl <;> trivial
  | dwell | reportPosition | reportFirmware | reportSettings | reportProgress | reportMachine
  | periodicTelemetry => cases hf

/-- A command keeps the value of a field in its range, whatever the other fields are. -/
theorem execute_fits (h : execute now s c = .ok (t, answer)) {f : Field} (hs : f.Fits (s.get f)) :
    f.Fits (t.get f) := by
  by_cases hf : f ∈ c.footprint
  · exact fits_of_mem_footprint h hs hf
  · rw [execute_frame h hf]
    exact hs

/-- **Commands keep settings in their ranges.** -/
theorem execute_settingsFit (h : execute now s c = .ok (t, answer)) (hs : s.SettingsFit) :
    t.SettingsFit := fun f => execute_fits h (hs f)

/-! ### The lines of the report -/

/-- The operation that sets a unit. -/
def unitsOp : Units → Opcode
  | .millimeters => .unitsMm
  | .inches => .unitsInch

/-- The operation that sets how move words are understood. -/
def positioningOp : Positioning → Opcode
  | .absolute => .setAbsolute
  | .relative => .setRelative

/-- The operation that sets how extruder words are understood. -/
def extruderOp : Positioning → Opcode
  | .absolute => .extruderAbsolute
  | .relative => .extruderRelative

/-- The comment that names the printer. -/
def commentLine (info : Identity) : List Char :=
  ';' :: ' ' :: (info.name.toList ++ ' ' :: '(' :: (info.device.toList ++ [')']))

/-- A setting with its value. -/
def settingLine (op : Opcode) (letter : Char) (value : Float) : List Char :=
  op.shortCode.toList ++ ' ' :: letter :: Decimal.places 2 value

/-- The motors by their letters. -/
def motorsLine (m : Motors) : List Char :=
  Opcode.motorEnable.shortCode.toList ++ ' ' :: m.text.toList

/-- The lines of the report. -/
def reportLines (s : State) : List (List Char) := [
  commentLine s.info,
  (unitsOp s.units).shortCode.toList,
  (positioningOp s.positioning).shortCode.toList,
  (extruderOp s.extruder.positioning).shortCode.toList,
  settingLine .setAccel 'S' s.acceleration,
  settingLine .setLinearAdvance 'K' s.linearAdvance,
  Opcode.coldExtrusion.shortCode.toList ++ [' ', 'P', if s.coldExtrusion then '1' else '0'],
  settingLine .setHotendTemp 'S' s.extruder.targetTemperature,
  settingLine .setBedTemp 'S' s.heatbed.targetTemperature,
  settingLine .setAuxTemp 'S' s.auxTargetTemperature,
  settingLine .setFan 'S' s.extruder.fanSpeed,
  motorsLine s.enabledMotors,
  ['o', 'k']]

/-- **The report is its lines**, each of them ended by a line feed. -/
theorem report_eq (s : State) : (report s).toList = (reportLines s).flatMap (· ++ ['\n']) := by
  have htext : report s = "; " ++ s.info.name ++ " (" ++ s.info.device ++ ")\n" ++
      (unitsOp s.units).shortCode ++ "\n" ++ (positioningOp s.positioning).shortCode ++ "\n" ++
      (extruderOp s.extruder.positioning).shortCode ++ "\n" ++
      setting .setAccel "S" s.acceleration ++ setting .setLinearAdvance "K" s.linearAdvance ++
      Opcode.coldExtrusion.shortCode ++ " P" ++ (if s.coldExtrusion then "1" else "0") ++ "\n" ++
      setting .setHotendTemp "S" s.extruder.targetTemperature ++
      setting .setBedTemp "S" s.heatbed.targetTemperature ++
      setting .setAuxTemp "S" s.auxTargetTemperature ++ setting .setFan "S" s.extruder.fanSpeed ++
      Opcode.motorEnable.shortCode ++ " " ++ s.enabledMotors.text ++ "\n" ++ okay := rfl
  have hflag : (if s.coldExtrusion then "1" else "0").toList =
      [if s.coldExtrusion then '1' else '0'] := by
    cases s.coldExtrusion <;> rfl
  rw [htext]
  simp [hflag, setting, Decimal.twoPlaces, reportLines, commentLine, settingLine, motorsLine, okay]

/-- A text without line ends. -/
def OneLine (text : List Char) : Prop := ∀ c ∈ text, c ≠ '\n' ∧ c ≠ '\r'

theorem oneLine_append {a b : List Char} : OneLine (a ++ b) ↔ OneLine a ∧ OneLine b :=
  List.forall_mem_append

theorem oneLine_cons {c : Char} {b : List Char} :
    OneLine (c :: b) ↔ (c ≠ '\n' ∧ c ≠ '\r') ∧ OneLine b :=
  List.forall_mem_cons

/-- Characters inside of a token end no line. -/
theorem oneLine_of_solid {text : List Char} (h : ∀ c ∈ text, Gcode.endsToken c = false) :
    OneLine text := fun c hc => by
  constructor <;> rintro rfl <;> exact absurd (h _ hc) (by decide)

theorem oneLine_shortCode (op : Opcode) : OneLine op.shortCode.toList :=
  oneLine_of_solid fun c hc => (Gcode.registry_solid (Gcode.shortCode_mem op) c hc).2

theorem oneLine_places {value : Float} (h : value.isFinite) : OneLine (Decimal.places 2 value) :=
  oneLine_of_solid fun c hc =>
    Gcode.not_endsToken_of_isNumberChar (Gcode.isNumberChar_places h c hc)

theorem oneLine_settingLine (op : Opcode) {letter : Char} (hletter : letter.isAlpha) {value : Float}
    (h : value.isFinite) : OneLine (settingLine op letter value) := by
  refine oneLine_append.mpr ⟨oneLine_shortCode op, oneLine_cons.mpr ⟨by decide, ?_⟩⟩
  refine oneLine_cons.mpr ⟨?_, oneLine_places h⟩
  constructor <;> rintro rfl <;> cases hletter

theorem oneLine_motorsText (m : Motors) : OneLine m.text.toList := by
  have hall : m.text.toList.all fun c => c != '\n' && c != '\r' := by
    simp only [Motors.text, Motors.letters, Motors.named, List.filterMap_cons, List.filterMap_nil]
    -- the text depends on four motors alone
    generalize m.contains ⟨1⟩ = x, m.contains ⟨2⟩ = y, m.contains ⟨4⟩ = z, m.contains ⟨8⟩ = e
    revert x y z e
    decide
  intro c hc
  simpa using List.all_eq_true.mp hall c hc

theorem dropReturn_of_last {line : List Char} (h : line.getLast? ≠ some '\r') :
    Text.dropReturn line = line := by
  unfold Text.dropReturn
  split
  · next hlast => exact absurd hlast h
  · rfl

theorem OneLine.not_mem {line : List Char} (h : OneLine line) : '\n' ∉ line := fun hc => (h _ hc).1 rfl

theorem OneLine.dropReturn {line : List Char} (h : OneLine line) : Text.dropReturn line = line :=
  dropReturn_of_last fun hlast => (h _ (List.mem_of_getLast? hlast)).2 rfl

theorem isFinite_of_within {M : Nat} (hM : 0 < M ∧ M < 2 ^ 53) {value : Float}
    (h : within 0 (Float.ofNat M) value) : value.isFinite := by
  rw [within_iff] at h
  exact Decimal.isFinite_of_between hM.1 hM.2 h.1 h.2

/-- No instruction of the report holds a line end. -/
theorem oneLine_of_mem_tail (hs : s.SettingsFit) : ∀ line ∈ (reportLines s).tail, OneLine line := by
  have hflag : OneLine [' ', 'P', if s.coldExtrusion then '1' else '0'] := by
    cases s.coldExtrusion <;> simp [OneLine]
  simp only [reportLines, List.tail_cons, List.forall_mem_cons]
  exact ⟨oneLine_shortCode _, oneLine_shortCode _, oneLine_shortCode _,
    oneLine_settingLine _ rfl (hs .acceleration).finite,
    oneLine_settingLine _ rfl (hs .linearAdvance).finite,
    oneLine_append.mpr ⟨oneLine_shortCode _, hflag⟩,
    oneLine_settingLine _ rfl (isFinite_of_within (M := 300) (by decide) (hs .hotendTarget)),
    oneLine_settingLine _ rfl (isFinite_of_within (M := 120) (by decide) (hs .bedTarget)),
    oneLine_settingLine _ rfl (isFinite_of_within (M := 300) (by decide) (hs .auxTarget)),
    oneLine_settingLine _ rfl (isFinite_of_within (M := 255) (by decide) (hs .fanSpeed)),
    oneLine_append.mpr ⟨oneLine_shortCode _, oneLine_cons.mpr ⟨by decide, oneLine_motorsText _⟩⟩,
    by simp [OneLine], nofun⟩

/-- **The lines of the report**, if the names of the printer have no line feeds. -/
theorem lines_report (hs : s.SettingsFit) (hname : '\n' ∉ s.info.name.toList)
    (hdevice : '\n' ∉ s.info.device.toList) : Text.lines (report s).toList = reportLines s := by
  have hcomment : '\n' ∉ commentLine s.info := by simp [commentLine, hname, hdevice]
  -- returns inside of a name belong to the comment, and it ends with a bracket
  have hlast : (commentLine s.info).getLast? ≠ some '\r' := by
    have hconcat : commentLine s.info =
        (';' :: ' ' :: (s.info.name.toList ++ ' ' :: '(' :: s.info.device.toList)) ++ [')'] := by
      simp [commentLine]
    rw [hconcat, List.getLast?_concat]
    decide
  have htail := oneLine_of_mem_tail hs
  rw [report_eq]
  exact Text.lines_flatMap
    (List.forall_mem_cons.mpr ⟨hcomment, fun line hl => (htail line hl).not_mem⟩)
    (List.forall_mem_cons.mpr ⟨dropReturn_of_last hlast, fun line hl => (htail line hl).dropReturn⟩)

/-! ### Motors by their letters -/

namespace Motors

/-- The motors of a set that have letters. -/
def lettered (m : Motors) : Motors :=
  (named.filter fun p => m.contains p.2).foldl (fun set p => set.union p.2) .none

/-- The motors that the letters of a set mean: no letter at all means every motor. -/
def told (m : Motors) : Motors := if m.letters = [] then .all else m.lettered

theorem union_of_contains {a b : Motors} (h : a.contains b) : a.union b = a := by
  have hbits : a.bits &&& b.bits = b.bits := eq_of_beq h
  refine ext_has fun i => ?_
  have hi : (a.has i && b.has i) = b.has i := by
    have hbit := congrArg (fun bits : UInt8 => bits.toBitVec.getLsbD i) hbits
    simpa [has] using hbit
  rw [has_union]
  cases ha : a.has i <;> cases hb : b.has i <;> simp_all

theorem union_assoc (a b c : Motors) : (a.union b).union c = a.union (b.union c) :=
  congrArg Motors.mk (UInt8.or_assoc _ _ _)

/-- Motors that are enabled one after the other, and were enabled before. -/
theorem union_foldl {m : Motors} {ps : List (Char × Motors)} (h : ∀ p ∈ ps, m.contains p.2)
    {set : Motors} (hset : m.union set = m) :
    m.union (ps.foldl (fun set p => set.union p.2) set) = m := by
  induction ps generalizing set with
  | nil => exact hset
  | cons p ps ih =>
    rw [List.forall_mem_cons] at h
    refine ih h.2 ?_
    rw [← union_assoc, hset, union_of_contains h.1]

/-- Enabling the motors that the letters of a set mean adds to the set only if it has no letter. -/
theorem union_told (m : Motors) : m.union m.told = if m.letters = [] then m.union .all else m := by
  unfold told
  split
  · rfl
  · have hnone : m.union .none = m := congrArg Motors.mk UInt8.or_zero
    exact union_foldl (fun p hp => by simpa using (List.mem_filter.mp hp).2) hnone

end Motors

theorem parse?_motorsLine (m : Motors) :
    Command.parse? (Gcode.stripComment (motorsLine m)) = some (.motorEnable m.told) := by
  simp only [motorsLine, Motors.text, Motors.told, Motors.lettered, Motors.letters, Motors.named,
    List.filterMap_cons, List.filterMap_nil, List.filter_cons, List.filter_nil]
  -- one line for each choice among the four motors with letters
  generalize m.contains ⟨1⟩ = x, m.contains ⟨2⟩ = y, m.contains ⟨4⟩ = z, m.contains ⟨8⟩ = e
  revert x y z e
  decide

/-! ### The instructions of the report -/

/-- An instruction of the report of a state, apart from that about motors. -/
inductive Restores (s : State) : Command → Prop where
  | units : Restores s (.setUnits s.units)
  | positioning : Restores s (.setPositioning s.positioning)
  | extruderPositioning : Restores s (.setExtruderPositioning s.extruder.positioning)
  | acceleration {value : Float} (h : Magnitude value) : Restores s (.setAccel value)
  | linearAdvance {value : Float} (h : Magnitude value) : Restores s (.setLinearAdvance value)
  | coldExtrusion : Restores s (.coldExtrusion s.coldExtrusion)
  | hotendTarget {value : Float} (h : within 0 hotendMax value) :
      Restores s (.setHotendTemp (some value))
  | bedTarget {value : Float} (h : within 0 bedMax value) : Restores s (.setBedTemp (some value))
  | auxTarget {value : Float} (h : within 0 auxMax value) : Restores s (.setAuxTemp (some value))
  | fanSpeed {value : Float} (h : within 0 fanMax value) : Restores s (.setFan value)

/-- The modes of a state: what is told by codes and flags. -/
def modes : List Field := [.units, .positioning, .extruderPositioning, .coldExtrusion]

/-- A magnitude is read as one: what becomes infinite is passed over, and zero taken for it. -/
theorem magnitude_getD {value : Float} (h : Magnitude value) :
    Magnitude ((wordValue (Decimal.places 2 value)).getD 0) := by
  cases hv : wordValue (Decimal.places 2 value) with
  | none => decide +kernel
  | some y =>
    obtain ⟨hfinite, hnonneg⟩ := Gcode.wordValue_nonneg h.finite h.nonneg hv
    exact ⟨hfinite, hnonneg⟩

theorem within_wordValue {M : Nat} (hM : 0 < M ∧ M * 100 < 2 ^ 53) {value : Float}
    (h : within 0 (Float.ofNat M) value) :
    ∃ y, wordValue (Decimal.places 2 value) = some y ∧ within 0 (Float.ofNat M) y := by
  simp only [within_iff] at h ⊢
  exact Gcode.wordValue_le hM.1 hM.2 h.1 h.2

theorem parse?_settingLine (op : Opcode) {letter : Char} (hletter : letter.isAlpha) {value : Float}
    (h : value.isFinite) : Command.parse? (Gcode.stripComment (settingLine op letter value)) =
      some (.ofWords op [⟨letter.toUpper, wordValue (Decimal.places 2 value)⟩]) :=
  Gcode.parse?_word op hletter (Gcode.isNumberChar_places h)

theorem parse?_shortCode (op : Opcode) :
    Command.parse? (Gcode.stripComment op.shortCode.toList) = some (.ofWords op []) := by
  have h : Command.parse? (Gcode.stripComment (op.shortCode.toList ++ [])) = _ :=
    Gcode.parse?_code op rfl
  rwa [List.append_nil] at h

/-- A line asks for an instruction of the report, or for nothing that can be carried out. -/
def Echoes (s : State) (line : List Char) : Prop :=
  ∀ c ∈ Command.parse? (Gcode.stripComment line), Restores s c

theorem echoes_of_parse? {line : List Char} (h : Command.parse? (Gcode.stripComment line) = some c)
    (hc : Restores s c) : Echoes s line := by
  rintro c' hc'
  obtain rfl := Option.some.inj (h.symm.trans hc')
  exact hc

theorem get?_single (letter : Char) (value : Option Float) :
    Gcode.Words.get? [⟨letter.toUpper, value⟩] letter = value := by
  cases value <;> simp [Gcode.Words.get?]

/-- A magnitude is told by a number that is one. -/
theorem echoes_magnitude {op : Opcode} {letter : Char} (hletter : letter.isAlpha) {value : Float}
    (h : Magnitude value)
    (hop : ∀ y, Magnitude y → ∀ ws : Gcode.Words, ws.getD letter 0 = y → Restores s (.ofWords op ws)) :
    Echoes s (settingLine op letter value) := by
  refine echoes_of_parse? (parse?_settingLine op hletter h.finite) (hop _ (magnitude_getD h) _ ?_)
  rw [Gcode.Words.getD, get?_single]

/-- A target is told by a number in its range. -/
theorem echoes_target {op : Opcode} {letter : Char} (hletter : letter.isAlpha) {M : Nat}
    (hM : 0 < M ∧ M * 100 < 2 ^ 53) {value : Float} (h : within 0 (Float.ofNat M) value)
    (hop : ∀ y, within 0 (Float.ofNat M) y → ∀ ws : Gcode.Words, ws.get? letter = some y →
      Restores s (.ofWords op ws)) :
    Echoes s (settingLine op letter value) := by
  obtain ⟨y, hy, hwithin⟩ := within_wordValue hM h
  refine echoes_of_parse? (parse?_settingLine op hletter (isFinite_of_within ?_ h))
    (hop y hwithin _ ?_)
  · omega
  · rw [get?_single, hy]

theorem echoes_coldExtrusion (s : State) : Echoes s
    (Opcode.coldExtrusion.shortCode.toList ++ [' ', 'P', if s.coldExtrusion then '1' else '0']) := by
  have hletter : 'P'.isAlpha := rfl
  refine echoes_of_parse? (Gcode.parse?_word .coldExtrusion hletter ?_) ?_
  · refine List.forall_mem_singleton.mpr ?_
    cases s.coldExtrusion <;> rfl
  · have hvalue : (Gcode.Words.get? [⟨'P'.toUpper, wordValue [if s.coldExtrusion then '1' else '0']⟩]
        'P').any (· == 1) = s.coldExtrusion := by
      cases s.coldExtrusion <;> decide +kernel
    change Restores s (.coldExtrusion _)
    rw [hvalue]
    exact .coldExtrusion

/-- **What the lines of the report ask for**, but for the one about motors. -/
theorem exists_reportLines (hs : s.SettingsFit) : ∃ before after,
    reportLines s = before ++ motorsLine s.enabledMotors :: after ∧
      (∀ line ∈ before, Echoes s line) ∧ ∀ line ∈ after, Echoes s line := by
  have hunits : Restores s (.ofWords (unitsOp s.units) []) := by
    have hop : Command.ofWords (unitsOp s.units) [] = .setUnits s.units := by cases s.units <;> rfl
    exact hop ▸ .units
  have hpositioning : Restores s (.ofWords (positioningOp s.positioning) []) := by
    have hop : Command.ofWords (positioningOp s.positioning) [] = .setPositioning s.positioning := by
      cases s.positioning <;> rfl
    exact hop ▸ .positioning
  have hextruder : Restores s (.ofWords (extruderOp s.extruder.positioning) []) := by
    have hop : Command.ofWords (extruderOp s.extruder.positioning) [] =
        .setExtruderPositioning s.extruder.positioning := by cases s.extruder.positioning <;> rfl
    exact hop ▸ .extruderPositioning
  refine ⟨(reportLines s).take 11, [['o', 'k']], rfl, ?_, ?_⟩
  · simp only [reportLines, List.take_succ_cons, List.take_zero, List.forall_mem_cons]
    refine ⟨?_, echoes_of_parse? (parse?_shortCode _) hunits,
      echoes_of_parse? (parse?_shortCode _) hpositioning,
      echoes_of_parse? (parse?_shortCode _) hextruder,
      echoes_magnitude rfl (hs .acceleration) ?_, echoes_magnitude rfl (hs .linearAdvance) ?_,
      echoes_coldExtrusion s, echoes_target (M := 300) rfl (by decide) (hs .hotendTarget) ?_,
      echoes_target (M := 120) rfl (by decide) (hs .bedTarget) ?_,
      echoes_target (M := 300) rfl (by decide) (hs .auxTarget) ?_,
      echoes_target (M := 255) rfl (by decide) (hs .fanSpeed) ?_, nofun⟩
    · have hnone : Command.parse? (Gcode.stripComment (commentLine s.info)) = none := rfl
      simp [Echoes, hnone]
    · rintro y hy ws rfl
      exact .acceleration hy
    · rintro y hy ws rfl
      exact .linearAdvance hy
    · intro y hy ws hws
      change Restores s (.setHotendTemp (ws.get? 'S'))
      rw [hws]
      exact .hotendTarget hy
    · intro y hy ws hws
      change Restores s (.setBedTemp (ws.get? 'S'))
      rw [hws]
      exact .bedTarget hy
    · intro y hy ws hws
      change Restores s (.setAuxTemp (ws.get? 'S'))
      rw [hws]
      exact .auxTarget hy
    · intro y hy ws hws
      change Restores s (.setFan ((ws.get? 'S').getD 255))
      rw [hws]
      exact .fanSpeed hy
  · have hnone : Command.parse? (Gcode.stripComment ['o', 'k']) = none := by decide
    simp [Echoes, hnone]

/-- An instruction of the report is accepted in every state. -/
theorem Restores.accepted (h : Restores s c) (now : Time.Timestamp) (u : State) :
    ∃ t answer, execute now u c = .ok (t, answer) := by
  have hrange {quantity : String} {value max : Float} (hv : within 0 max value) :
      checkRange quantity value max = .ok () := State.checkRange_eq_ok_iff.mpr hv
  have hmagnitude {quantity : String} {value : Float} (hv : Magnitude value) :
      checkMagnitude quantity value = .ok () := State.checkMagnitude_eq_ok_iff.mpr hv
  cases h with
  | units | positioning | extruderPositioning | coldExtrusion => exact ⟨_, _, rfl⟩
  | acceleration hv =>
    exact ⟨_, _, by rw [execute, State.setAcceleration, hmagnitude hv]; rfl⟩
  | linearAdvance hv =>
    exact ⟨_, _, by rw [execute, State.setLinearAdvance, hmagnitude hv]; rfl⟩
  | hotendTarget hv =>
    exact ⟨_, _, by rw [execute, withTarget, State.setHotendTarget, hrange hv]; rfl⟩
  | bedTarget hv => exact ⟨_, _, by rw [execute, withTarget, State.setBedTarget, hrange hv]; rfl⟩
  | auxTarget hv => exact ⟨_, _, by rw [execute, withTarget, State.setAuxTarget, hrange hv]; rfl⟩
  | fanSpeed hv => exact ⟨_, _, by rw [execute, State.setFanSpeed, hrange hv]; rfl⟩

/-- **An instruction of the report leaves modes that are as they are told, and motors.** -/
theorem Restores.execute {u : State} (h : Restores s c) (hx : execute now u c = .ok (t, answer)) :
    (∀ f ∈ modes, u.get f = s.get f → t.get f = s.get f) ∧ t.enabledMotors = u.enabledMotors := by
  constructor
  · intro f hf hu
    by_cases hc : f ∈ c.footprint
    · -- of the modes, an instruction writes the one that it tells
      cases h with
      | units | positioning | extruderPositioning | coldExtrusion =>
        obtain rfl := List.mem_singleton.mp hc
        cases hx
        rfl
      | acceleration | linearAdvance | hotendTarget | auxTarget | fanSpeed =>
        obtain rfl := List.mem_singleton.mp hc
        exact absurd hf (by decide)
      | bedTarget => rcases List.mem_pair.mp hc with rfl | rfl <;> exact absurd hf (by decide)
    · rw [execute_frame hx hc, hu]
  · refine Motors.ext_has fun i => ?_
    have hmotor : .motor i ∉ c.footprint := by
      cases h <;> simp [Command.footprint]
    exact execute_frame hx hmotor

end VirtualPrinter.Machine
