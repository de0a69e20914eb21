import DeviceHarness.Host.Basic
import DeviceHarness.Text.Escaped

/-! Scratch folders for files that are needed for a while. -/

namespace DeviceHarness.Host

/-- The folder for scratch folders. -/
def scratchRoot (h : Host) : String :=
  let folder := (h.envValue? "TMPDIR").getD "/tmp"
  if Path.isAbsolute folder then folder else Path.join h.workPath folder

/-- Six characters that change with the time. -/
def scratchMark (moment : Duration) : String :=
  let digits := Integer.digits (moment % 1000000)
  String.ofList (List.replicate (6 - digits.length) '0' ++ digits)

/-- Why a scratch folder cannot be used, with its path. -/
def scratchFault (path : String) (fault : FileFault) : Error :=
  .system (fault.message ++ " at path " ++ Text.Escaped.between path)

/-- Creates a scratch folder whose name starts with a word. Answers its path. -/
def createScratch (word : String) : Action Host String := do
  let moment ← now
  ExceptT.mk fun h =>
    let path := Path.join h.scratchRoot (word ++ scratchMark moment)
    match h.files.createFolder h.workdir path with
    | .ok files => (.ok path, { h with files := files })
    | .error fault => (.error (scratchFault path fault), h)

/-- Removes a scratch folder with all that is in it. -/
def removeScratch (path : String) : Action Host Unit :=
  ExceptT.mk fun h =>
    match h.files.removeFolder h.workdir path with
    | .ok files => (.ok (), { h with files := files })
    | .error fault => (.error (scratchFault path fault), h)

end DeviceHarness.Host
