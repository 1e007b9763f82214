import VirtualPrinter.Proofs.Service.Entries

/-!
# The hardware id of a printer

The hardware id of a printer from the registry is put together once, from the vendor of the brand
and from the product among the data.  The serial port that is reported later tells the product and
the vendor from the free properties, and there an attribute of the entry stands in front of the
vendor of the brand.  No instruction touches any of these.  So the hardware id always names the
product that is reported, and it names the vendor that is reported unless the entry has another one
for it.

## Main results

* `serialPortInfo_eq_ok_iff`: what is reported of the serial port.
* `hardwareId_inj`: hardware ids of one product differ where the vendors do.
* `hwid_of_ofEntry`: the hardware id that is reported beside product and vendor, along every script.
-/

namespace VirtualPrinter.Service

open Json (Value)
open Machine (Entry State)
open Outcome (bind_eq_ok_iff toOption_eq_some_iff)
open Wire (SerialPortInfo)

theorem hardwareId_eq (vendor productId : String) : hardwareId vendor productId =
    "USB VID:PID=" ++ vendor ++ ":" ++ productId ++ " SER=2024-QView3DEmulator" := by
  have hserial : " SER=" ++ serialNumber = " SER=2024-QView3DEmulator" := by decide
  unfold hardwareId
  exact String.append_assoc.trans (congrArg _ hserial)

/-- Hardware ids of one product differ where the vendors do. -/
theorem hardwareId_inj {vendor vendor' productId : String} :
    hardwareId vendor productId = hardwareId vendor' productId ↔ vendor = vendor' := by
  unfold hardwareId
  -- the parts behind the vendor are taken off one by one
  refine (String.append_left_inj serialNumber).trans ?_
  refine (String.append_left_inj " SER=").trans ?_
  refine (String.append_left_inj productId).trans ?_
  refine (String.append_left_inj ":").trans ?_
  exact String.append_right_inj "USB VID:PID="

namespace Device

theorem storedText_eq_ok_iff {d : Device} {fields : Json.Fields} {key s : String} :
    d.storedText fields key = .ok s ↔ (fields.get? key).bind valueText? = some s := by
  unfold storedText
  cases (fields.get? key).bind valueText? <;> simp

/-- The serial port is reported if product, vendor and port are among the free properties. -/
theorem serialPortInfo_eq_ok_iff {d : Device} {info : SerialPortInfo} :
    d.serialPortInfo = .ok info ↔
      (d.state.data.get? "productId").bind valueText? = some info.productId ∧
      (d.state.attributes.get? "vendorId").bind valueText? = some info.vendorId ∧
      (d.state.data.get? "port").bind valueText? = some info.port ∧
      info.hwid = d.state.info.hwid := by
  obtain ⟨productId, vendorId, port, hwid⟩ := info
  simp only [serialPortInfo, bind_eq_ok_iff, storedText_eq_ok_iff]
  constructor
  · rintro ⟨_, hproduct, _, hvendor, _, hport, h⟩
    cases h
    exact ⟨hproduct, hvendor, hport, rfl⟩
  · rintro ⟨hproduct, hvendor, hport, rfl⟩
    exact ⟨_, hproduct, _, hvendor, _, hport, rfl⟩

/-- The vendor that is reported of a printer: that of the brand, or the text of an attribute in its
place. -/
def vendor? (e : Entry) : Option String :=
  match e.attributes.get? "vendorId" with
  | some v => valueText? v
  | none => valueText? (.text e.brand.vendorId)

theorem vendor?_eq (e : Entry) : vendor? e =
    ((e.attributes.get? "vendorId").or (brandAttribute? e "vendorId")).bind valueText? := by
  unfold vendor?
  cases e.attributes.get? "vendorId" <;> rfl

/-- A printer has the identity and the free properties that were drafted for it. -/
theorem sameProperties_of_ofEntry {e : Entry} {createdAt : Time.Timestamp} {d : Device}
    (hd : ofEntry e createdAt = .ok d) :
    ∃ productId, (e.data.get? "productId").bind valueText? = some productId ∧
      (draftOf e productId createdAt).SameProperties d.state := by
  rcases ofEntry_cases e createdAt with ⟨-, productId, d', hp, hsame, hd'⟩ | ⟨_, _, -, -, herror⟩
  · cases hd.symm.trans hd'
    exact ⟨productId, hp, hsame⟩
  · cases hd.symm.trans herror

/-- **The hardware id, the product and the vendor** that are reported of a printer of an entry,
after every line of every script: the hardware id names the vendor of the brand and the product that
is reported.  The vendor that is reported is that of the brand as well, unless the entry has an
attribute in its place; so it is the one in the hardware id exactly if it is that of the brand. -/
theorem hwid_of_ofEntry {e : Entry} (he : e.InOrder) {createdAt : Time.Timestamp} {d x : Device}
    (hd : ofEntry e createdAt = .ok d) {script : List (Surroundings × List Char)}
    (hx : x ∈ d.course script) {info : SerialPortInfo} (h : x.serialPortInfo = .ok info) :
    info.hwid = "USB VID:PID=" ++ e.brand.vendorId ++ ":" ++ info.productId ++
        " SER=2024-QView3DEmulator" ∧
      vendor? e = some info.vendorId ∧
      (info.hwid = "USB VID:PID=" ++ info.vendorId ++ ":" ++ info.productId ++
        " SER=2024-QView3DEmulator" ↔ info.vendorId = e.brand.vendorId) := by
  obtain ⟨productId, hproduct, hsame⟩ := sameProperties_of_ofEntry hd
  have hsame := hsame.trans (sameProperties_of_mem_course hx)
  obtain ⟨hp, hv, -, hid⟩ := serialPortInfo_eq_ok_iff.mp h
  have hreported : info.productId = productId := by
    have hfound : x.state.data.get? "productId" = e.data.get? "productId" := by
      rw [hsame.data]
      exact (get?_ofList_dataOf he.data "productId").trans Option.or_none
    rw [hfound, hproduct] at hp
    exact (Option.some.inj hp).symm
  have hvendor : vendor? e = some info.vendorId := by
    rw [vendor?_eq, ← get?_ofList_attributes he.attributes productId createdAt, ← hv,
      hsame.attributes]
    rfl
  have hhwid : info.hwid = hardwareId e.brand.vendorId info.productId := by
    rw [hid, hsame.info, hreported]
    rfl
  rw [← hardwareId_eq, ← hardwareId_eq]
  refine ⟨hhwid, hvendor, ?_⟩
  rw [hhwid]
  exact hardwareId_inj.trans eq_comm

/-- An entry with a number for its product and another number for its vendor; its printer is
reported after a move and a refused temperature. -/
theorem hwid_of_ofEntry_number :
    let e : Entry := ⟨3, "Printer3", ⟨"Prusa", "MK4", "2c99"⟩, [("productId", .number (.int 26))],
      [("vendorId", .number (.real 0.5))]⟩
    let here : Surroundings := ⟨⟨0, 0⟩, .zero, true⟩
    e.InOrder ∧ ∃ d, ofEntry e ⟨0, 0⟩ = .ok d ∧
      ∃ x ∈ d.course [(here, "G1 X5".toList), (here, "M140 S500".toList)],
        ∃ info : SerialPortInfo, x.serialPortInfo = .ok info ∧
          info.hwid = "USB VID:PID=2c99:" ++ info.productId ++ " SER=2024-QView3DEmulator" ∧
          some info.vendorId = valueText? (.number (.real 0.5)) ∧
          info.hwid ≠ "USB VID:PID=" ++ info.vendorId ++ ":" ++ info.productId ++
            " SER=2024-QView3DEmulator" := by
  intro e here
  have horder : e.InOrder := ⟨by decide +kernel, by decide +kernel⟩
  have hcheck : ((ofEntry e ⟨0, 0⟩).toOption.bind fun d =>
      (d.course [(here, "G1 X5".toList), (here, "M140 S500".toList)]).getLast?.bind fun x =>
        x.serialPortInfo.toOption.map fun info => decide (info.vendorId ≠ "2c99")) = some true := by
    decide +kernel
  obtain ⟨d, hd, hcheck⟩ := Option.bind_eq_some_iff.mp hcheck
  obtain ⟨x, hx, hcheck⟩ := Option.bind_eq_some_iff.mp hcheck
  obtain ⟨info, hinfo, hcheck⟩ := Option.map_eq_some_iff.mp hcheck
  have hd := toOption_eq_some_iff.mp hd
  have hx := List.mem_of_getLast? hx
  have hinfo := toOption_eq_some_iff.mp hinfo
  obtain ⟨hhwid, hvendor, hiff⟩ := hwid_of_ofEntry horder hd hx hinfo
  exact ⟨horder, d, hd, x, hx, info, hinfo, hhwid, hvendor.symm,
    mt hiff.mp (of_decide_eq_true hcheck)⟩

/-- **The ids that are reported need not be those in the hardware id**: an entry of a registry with
a vendor of its own, and its printer before any instruction. -/
theorem hwid_other_vendor :
    let registry := "[\x7b\"id\":3,\"name\":\"Printer3\",\"brand\":\x7b\"printerName\":" ++
      "\"Prusa\",\"printerModel\":\"MK4\",\"vendorId\":\"2c99\"\x7d," ++
      "\"data\":\x7b\"productId\":\"001a\"\x7d," ++
      "\"attributes\":\x7b\"vendorId\":\"ffff\"\x7d\x7d]"
    ∃ entries, Machine.readRegistry registry = .ok entries ∧ ∃ e ∈ entries,
      ∃ d, ofEntry e ⟨0, 0⟩ = .ok d ∧ ∃ x ∈ d.course [],
        ∃ info : SerialPortInfo, x.serialPortInfo = .ok info ∧
          info.hwid ≠ "USB VID:PID=" ++ info.vendorId ++ ":" ++ info.productId ++
            " SER=2024-QView3DEmulator" := by
  intro registry
  have hcheck : ((Machine.readRegistry registry).toOption.bind fun entries =>
      entries.head?.bind fun e => (ofEntry e ⟨0, 0⟩).toOption.bind fun d =>
        d.serialPortInfo.toOption.map fun info => decide (info = ⟨"001a", "ffff", "EMU3",
          "USB VID:PID=2c99:001a SER=2024-QView3DEmulator"⟩)) = some true := by
    decide +kernel
  obtain ⟨entries, hread, hcheck⟩ := Option.bind_eq_some_iff.mp hcheck
  obtain ⟨e, he, hcheck⟩ := Option.bind_eq_some_iff.mp hcheck
  obtain ⟨d, hd, hcheck⟩ := Option.bind_eq_some_iff.mp hcheck
  obtain ⟨info, hinfo, hcheck⟩ := Option.map_eq_some_iff.mp hcheck
  cases of_decide_eq_true hcheck
  exact ⟨entries, toOption_eq_some_iff.mp hread, e, List.mem_of_head? he, d,
    toOption_eq_some_iff.mp hd, d, List.mem_cons_self, _, toOption_eq_some_iff.mp hinfo, by decide⟩

end Device

end VirtualPrinter.Service
