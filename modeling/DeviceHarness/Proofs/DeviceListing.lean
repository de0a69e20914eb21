import DeviceHarness.Adb.Client
import Mathlib.Data.List.Infix

/-! Listings of devices, read back. A line counts as that of a device if the word is anywhere in it, be it the state,
a part of the serial or a part of the details, and only the very first line is taken for the heading. So a listing
is read as it is meant exactly if nothing stands before its heading, and no other device than those that are ready
has the word in its line. -/

namespace DeviceHarness

/-- A device as it is listed: its serial, padded with blanks, its state, and details such as `model:Pixel`. -/
structure ListedDevice where
  serial : String
  padding : Nat
  state : String
  details : List String
  serial_some : serial ≠ ""
  serial_solid : serial.toList.all (!Text.isAsciiBlank ·) = true
  state_some : state ≠ ""
  state_solid : state.toList.all (!Text.isAsciiBlank ·) = true
  details_whole : details.all (!·.toList.contains '\n') = true

namespace ListedDevice

/-- What stands between the blanks of the line. The padding is as many empty columns. -/
def columns (d : ListedDevice) : List String := d.serial :: (List.replicate d.padding "" ++ d.state :: d.details)

def line (d : ListedDevice) : String := String.intercalate " " d.columns

def ready (d : ListedDevice) : Bool := d.state == "device"

/-- The word that tells lines of devices from others is somewhere in the line. -/
def counted (d : ListedDevice) : Bool := (d.serial :: d.state :: d.details).any (Text.contains "device")

end ListedDevice

/-- A message about the start of the daemon, by what follows its star. -/
structure StartMessage where
  text : String
  whole : (!text.toList.contains '\n') = true

def StartMessage.line (m : StartMessage) : String := "*" ++ m.text

def listingHeading : String := "List of devices attached"

/-- A listing with the messages before it, which ends with any number of line feeds. -/
def deviceListing (messages : List StartMessage) (devices : List ListedDevice) (feeds : Nat) : String :=
  String.intercalate "\n" (messages.map StartMessage.line ++ listingHeading :: devices.map ListedDevice.line ++
    List.replicate feeds "")

/-- The serials, of which there has to be one. -/
def connected (serials : List String) : Except Error (List String) :=
  if serials = [] then .error .noDevice else .ok serials

/-- What should be made of a listing: the serials of the devices that are ready. -/
def readyDevices (devices : List ListedDevice) : Except Error (List String) :=
  connected ((devices.filter ListedDevice.ready).map ListedDevice.serial)

theorem connected_inj {serials others : List String} : connected serials = connected others ↔ serials = others := by
  unfold connected
  constructor
  · intro same
    split at same
    next none =>
      split at same
      next noneToo => rw [none, noneToo]
      next => cases same
    next =>
      split at same
      next => cases same
      next => exact Except.ok.inj same
  · rintro rfl
    rfl

/-! Lines and their columns. -/

theorem whole_of_solid {s : String} (solid : s.toList.all (!Text.isAsciiBlank ·) = true) : '\n' ∉ s.toList := by
  intro member
  have blank := List.all_eq_true.mp solid _ member
  cases blank

namespace ListedDevice

variable (d : ListedDevice)

theorem columns_whole : ∀ column ∈ d.columns, '\n' ∉ column.toList := by
  intro column member
  rcases List.mem_cons.mp member with rfl | member
  · exact whole_of_solid d.serial_solid
  · rcases List.mem_append.mp member with pad | member
    · rw [List.eq_of_mem_replicate pad]
      exact List.not_mem_nil
    · rcases List.mem_cons.mp member with rfl | detail
      · exact whole_of_solid d.state_solid
      · simpa using List.all_eq_true.mp d.details_whole column detail

theorem toList_line : d.line.toList = [' '].intercalate (d.columns.map String.toList) := String.toList_intercalate

theorem line_whole : '\n' ∉ d.line.toList := by
  rw [← List.singleton_infix_iff, toList_line, Text.infix_joined (by simp) (by decide)]
  rintro ⟨_, member, inside⟩
  obtain ⟨column, among, rfl⟩ := List.mem_map.mp member
  exact d.columns_whole column among (List.singleton_infix_iff '\n' column.toList |>.mp inside)

theorem occurs_line : Text.occurs "device".toList d.line.toList = d.counted := by
  have nowhere : ¬ "device".toList <:+: "".toList := by decide
  have same (column : String) : (column ∈ d.columns ∧ "device".toList <:+: column.toList) ↔
      column ∈ d.serial :: d.state :: d.details ∧ "device".toList <:+: column.toList := by
    refine and_congr_left fun found => ?_
    have filled : column ≠ "" := by
      rintro rfl
      exact nowhere found
    simp [columns, List.mem_replicate, filled]
  rw [Bool.eq_iff_iff, Text.occurs_iff, toList_line, Text.infix_joined (by decide) (by decide), counted, List.any_eq_true]
  simp only [List.mem_map, exists_exists_and_eq_and, same, Text.contains, Text.occurs_iff]

theorem first_column : (Text.fieldsAt Text.isAsciiBlank d.line.toList).head?.map String.ofList = some d.serial := by
  have solid : ∀ c ∈ d.serial.toList, Text.isAsciiBlank c = false := by
    intro c member
    simpa using List.all_eq_true.mp d.serial_solid c member
  have filled : d.serial.toList ≠ [] := by simpa using d.serial_some
  have more : List.replicate d.padding "" ++ d.state :: d.details ≠ [] := by simp
  obtain ⟨next, rest, others⟩ := List.exists_cons_of_ne_nil more
  have split : d.line.toList = d.serial.toList ++ ' ' :: [' '].intercalate ((next :: rest).map String.toList) := by
    rw [toList_line, columns, others, List.map_cons, List.map_cons, List.intercalate_cons_cons, List.append_assoc]
    rfl
  rw [split, Text.fieldsAt, Text.pieces_separated rfl, Text.pieces_plain solid]
  simp [filled]

theorem listedSerial?_line : Adb.listedSerial? d.line.toList = if d.counted then some d.serial else none := by
  rw [Adb.listedSerial?, occurs_line, first_column]

end ListedDevice

/-! What is made of a listing. -/

theorem pieces_deviceListing (messages : List StartMessage) (devices : List ListedDevice) (feeds : Nat) :
    Text.pieces (· == '\n') (deviceListing messages devices feeds).toList =
      (messages.map StartMessage.line ++ listingHeading :: devices.map ListedDevice.line ++
        List.replicate feeds "").map String.toList := by
  have text : (deviceListing messages devices feeds).toList = _ := String.toList_intercalate
  rw [text]
  refine List.splitOn_intercalate '\n' ?_ (by simp)
  intro _ member
  obtain ⟨line, among, rfl⟩ := List.mem_map.mp member
  rcases List.mem_append.mp among with front | feed
  · rcases List.mem_append.mp front with message | rest
    · obtain ⟨m, -, rfl⟩ := List.mem_map.mp message
      have whole := m.whole
      simpa [StartMessage.line] using whole
    · rcases List.mem_cons.mp rest with rfl | device
      · decide
      · obtain ⟨d, -, rfl⟩ := List.mem_map.mp device
        exact d.line_whole
  · rw [List.eq_of_mem_replicate feed]
    exact List.not_mem_nil

theorem serials_of_lines (devices : List ListedDevice) (feeds : Nat) :
    ((devices.map ListedDevice.line ++ List.replicate feeds "").map String.toList).filterMap Adb.listedSerial? =
      (devices.filter ListedDevice.counted).map ListedDevice.serial := by
  induction devices with
  | nil =>
    rw [List.map_nil, List.nil_append, List.map_replicate]
    exact List.filterMap_replicate_of_none rfl
  | cons d rest ih =>
    rw [List.map_cons, List.cons_append, List.map_cons, List.filterMap_cons, d.listedSerial?_line, ih]
    cases counted : d.counted <;> simp [counted]

/-- What a message comes to, if anything: it should come to nothing. -/
def StartMessage.taken? (m : StartMessage) : Option String := Adb.listedSerial? m.line.toList

/-- The very first line is taken for the heading. The heading itself, where it is not the first line, passes for the
line of a device. -/
theorem listedSerials_deviceListing (messages : List StartMessage) (devices : List ListedDevice) (feeds : Nat) :
    Adb.listedSerials (deviceListing messages devices feeds) =
      (messages.drop 1).filterMap StartMessage.taken? ++ (if messages = [] then [] else ["List"]) ++
        (devices.filter ListedDevice.counted).map ListedDevice.serial := by
  rw [Adb.listedSerials, pieces_deviceListing]
  cases messages with
  | nil => exact serials_of_lines devices feeds
  | cons first rest =>
    have heading : Adb.listedSerial? listingHeading.toList = some "List" := by decide
    have parts : (rest.map StartMessage.line ++ listingHeading :: devices.map ListedDevice.line ++
        List.replicate feeds "").map String.toList = rest.map (·.line.toList) ++ listingHeading.toList ::
          (devices.map ListedDevice.line ++ List.replicate feeds "").map String.toList := by simp
    show ((rest.map StartMessage.line ++ listingHeading :: devices.map ListedDevice.line ++
      List.replicate feeds "").map String.toList).filterMap Adb.listedSerial? = _
    rw [parts, List.filterMap_append, List.filterMap_cons_some heading, serials_of_lines, List.filterMap_map,
      if_neg (by simp), List.append_assoc]
    rfl

theorem counted_of_ready {d : ListedDevice} (ready : d.ready = true) : d.counted = true := by
  have named : d.state = "device" := beq_iff_eq.mp ready
  have found : Text.contains "device" "device" = true := by decide
  simp [ListedDevice.counted, named, found]

theorem filter_ready_counted (devices : List ListedDevice) :
    (devices.filter ListedDevice.counted).filter ListedDevice.ready = devices.filter ListedDevice.ready := by
  rw [List.filter_filter]
  apply List.filter_congr
  intro d _
  cases ready : d.ready with
  | false => rfl
  | true => simp [counted_of_ready ready]

theorem listedSerials_eq_ready_iff (messages : List StartMessage) (devices : List ListedDevice) (feeds : Nat) :
    Adb.listedSerials (deviceListing messages devices feeds) = (devices.filter ListedDevice.ready).map ListedDevice.serial ↔
      messages = [] ∧ ∀ d ∈ devices, d.counted = true → d.ready = true := by
  have fewer : (devices.filter ListedDevice.ready).length ≤ (devices.filter ListedDevice.counted).length := by
    rw [← filter_ready_counted]
    exact List.length_filter_le _ _
  rw [listedSerials_deviceListing]
  cases messages with
  | cons first rest =>
    -- the heading is one entry too many, and those that are ready are never missed
    refine iff_of_false (fun same => ?_) (by simp)
    have lengths := congrArg List.length same
    simp only [List.length_append, List.length_map, reduceCtorEq, if_false, List.length_singleton] at lengths
    omega
  | nil =>
    constructor
    · intro same
      have lengths := congrArg List.length same
      rw [List.length_map, ← filter_ready_counted] at lengths
      have each := List.length_filter_eq_length_iff.mp (lengths.symm.trans (by simp))
      refine ⟨rfl, fun d member counted => ?_⟩
      exact each d (List.mem_filter.mpr ⟨member, counted⟩)
    · rintro ⟨-, each⟩
      have all : (devices.filter ListedDevice.counted).filter ListedDevice.ready = devices.filter ListedDevice.counted := by
        apply List.filter_eq_self.mpr
        intro d member
        exact each d (List.mem_filter.mp member).1 (List.mem_filter.mp member).2
      rw [← filter_ready_counted, all]
      rfl

namespace Adb

variable (adb : Adb) {h left : Host} {c : Completion}

theorem perform_connectedDevices (adb : Adb) (h : Host) :
    adb.connectedDevices.perform h =
      match (Host.run adb.program ["devices", "-l"]).perform h with
      | (.ok c, left) =>
        (if listedSerials c.out = [] then .error .noDevice else .ok (listedSerials c.out), left)
      | (.error e, left) => (.error e, left) := by
  rw [connectedDevices, Action.perform_bind]
  generalize (Host.run adb.program ["devices", "-l"]).perform h = performed
  obtain ⟨result, left⟩ := performed
  cases result with
  | error e => rfl
  | ok c =>
    dsimp only
    split
    next none => rw [none, if_pos rfl, Action.perform_throw]
    next some => rw [if_neg some, Action.perform_pure]

/-- A listing gives the devices that are ready exactly if no message stands before its heading, and every device whose
line has the word in it is ready. What it gives otherwise is too much: the heading, and what else has the word. -/
theorem connectedDevices_listing (messages : List StartMessage) (devices : List ListedDevice) (feeds : Nat)
    (listed : (Host.run adb.program ["devices", "-l"]).perform h = (.ok c, left))
    (shown : c.out = deviceListing messages devices feeds) :
    ((adb.connectedDevices.perform h).1 = readyDevices devices ↔
      messages = [] ∧ ∀ d ∈ devices, d.counted = true → d.ready = true) ∧
    (adb.connectedDevices.perform h).1 = connected ((messages.drop 1).filterMap StartMessage.taken? ++
      (if messages = [] then [] else ["List"]) ++ (devices.filter ListedDevice.counted).map ListedDevice.serial) := by
  have outcome : (adb.connectedDevices.perform h).1 = connected (listedSerials (deviceListing messages devices feeds)) := by
    rw [perform_connectedDevices, listed, ← shown]
    rfl
  rw [outcome]
  constructor
  · rw [readyDevices, connected_inj]
    exact listedSerials_eq_ready_iff messages devices feeds
  · rw [listedSerials_deviceListing]

end Adb

/-- A host that lists its devices by a text. -/
def Host.listing (text : String) : Host where
  environment := []
  accountHome := none
  files := ⟨[(["adb"], .program)]⟩
  workdir := []
  respond _ _ := ⟨.exited 0, text, ""⟩
  history := []
  clock := 0

/-- One device is ready, and another one waits to be authorized and shows no details. -/
theorem Adb.connectedDevices_listing_two :
    let ready : ListedDevice := ⟨"FA6A10305263", 10, "device", ["product:sailfish", "model:Pixel", "device:sailfish",
      "transport_id:1"], by decide, by decide, by decide, by decide, by decide⟩
    let waiting : ListedDevice := ⟨"emulator-5554", 9, "unauthorized", ["transport_id:2"], by decide, by decide,
      by decide, by decide, by decide⟩
    let text := deviceListing [] [waiting, ready] 2
    let left := { Host.listing text with history := [⟨"adb", ["devices", "-l"]⟩] }
    (Host.run "/adb" ["devices", "-l"]).perform (.listing text) = (.ok ⟨.exited 0, text, ""⟩, left) ∧
      ((⟨"/adb", none⟩ : Adb).connectedDevices.perform (.listing text)).1 = .ok ["FA6A10305263"] := by
  intro ready waiting text left
  have listed : (Host.run "/adb" ["devices", "-l"]).perform (.listing text) = (.ok ⟨.exited 0, text, ""⟩, left) := rfl
  refine ⟨listed, ?_⟩
  exact (Adb.connectedDevices_listing ⟨"/adb", none⟩ [] [waiting, ready] 2 listed rfl).1.mpr ⟨rfl, by decide⟩

/-- After a message the heading is taken for a device, and one that is in recovery is taken for one that is ready. -/
theorem heading_and_recovery_counted :
    let started : StartMessage := ⟨" daemon started successfully", by decide⟩
    let ready : ListedDevice := ⟨"FA6A10305263", 10, "device", [], by decide, by decide, by decide, by decide, by decide⟩
    let recovering : ListedDevice := ⟨"FA6A10305264", 10, "recovery", ["device:sailfish"], by decide, by decide,
      by decide, by decide, by decide⟩
    let adb : Adb := ⟨"/adb", none⟩
    (adb.connectedDevices.perform (.listing (deviceListing [started] [ready] 2))).1.toOption =
        some ["List", "FA6A10305263"] ∧
      (readyDevices [ready]).toOption = some ["FA6A10305263"] ∧
      (adb.connectedDevices.perform (.listing (deviceListing [] [recovering] 2))).1.toOption = some ["FA6A10305264"] ∧
      readyDevices [recovering] = .error .noDevice := by
  decide +kernel

end DeviceHarness
