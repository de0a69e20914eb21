import DeviceHarness.Error
import DeviceHarness.Text.Lines
import DeviceHarness.Text.Search
import DeviceHarness.Text.Split

/-! Complaints of the `adb` client about the connection, told apart from what a device says. -/

namespace DeviceHarness.Adb

/-- Blanks, of which there must be some, before what follows. -/
def afterBlanks? (s : List Char) : Option (List Char) :=
  match s with
  | c :: _ => if Text.isBlank c then some (s.dropWhile Text.isBlank) else none
  | [] => none

/-- The serial in `device '<serial>' not found`, when the text starts with that. -/
def missingSerialHere? (s : List Char) : Option (List Char) := do
  let s ← Text.after? "device".toList s
  let s ← afterBlanks? s
  let s ← Text.after? ['\''] s
  let serial := s.takeWhile (· != '\'')
  let s ← Text.after? ['\''] (s.dropWhile (· != '\''))
  let s ← afterBlanks? s
  let s ← Text.after? "not".toList s
  let s ← afterBlanks? s
  let _ ← Text.after? "found".toList s
  if serial.isEmpty then none else some serial

/-- The serial in the first such complaint. -/
def missingSerial? : List Char → Option (List Char)
  | [] => none
  | c :: rest => (missingSerialHere? (c :: rest)).or (missingSerial? rest)

/-- The connection error that the client reported, if it reported one. -/
def connectionError? (err : String) : Option Error :=
  if Text.contains "no devices/emulators" err then some .noDevice
  else match missingSerial? err.toList with
    | some serial => some (.deviceNotFound (String.ofList serial))
    | none =>
      let isReport (line : String) : Bool :=
        Text.startsWith "error:" line || Text.startsWith "adb: error:" line
      (((Text.lines err).map Text.trim).find? isReport).map Error.device

end DeviceHarness.Adb
