import DeviceHarness.Install.Apps
import DeviceHarness.Reply.Session

/-! Installs of several APKs in one session: the session is created, each APK is pushed and written
into it, and it is committed. Every step needs the one before it, so the first step that fails is the
last one that is taken. -/

namespace DeviceHarness.Install

structure Session where
  abi : String
  args : List String
  apks : List String
  /-- Whether the device picks the ABI. -/
  naturalAbi : Bool
  deriving Repr, DecidableEq

namespace Session

def forAbi (abi : String) : Session := ⟨abi, [], [], false⟩

def addArg (s : Session) (arg : String) : Session := { s with args := s.args ++ [arg] }

def addApks (s : Session) (apks : List String) : Session := { s with apks := s.apks ++ apks }

/-- Adds the APKs to an installed package. -/
def inheriting (s : Session) (package : String) : Session :=
  (s.addArg "-r").addArg ("-p " ++ package)

def withNaturalAbi (s : Session) : Session := { s with naturalAbi := true }

def createCommand (s : Session) : String :=
  "pm install-create" ++ String.join (s.args.map (" " ++ ·)) ++
    if s.naturalAbi then "" else " --abi " ++ s.abi

/-- The name of the APK at an index, while it waits on the device. The index keeps the names of a
session apart. -/
def stagedName (index : Nat) (name : String) : String := Integer.text index ++ "_" ++ name

def writeCommand (id : Int) (stagedName : String) : String :=
  "pm install-write " ++ Integer.text id ++ " " ++ stagedName ++ " " ++ staged stagedName

def commitCommand (id : Int) : String := "pm install-commit " ++ Integer.text id

/-- Creates a session. -/
def create (adb : Adb) (s : Session) : Action Host Int := do
  let reply ← adb.shellText s.createCommand
  let reply ← Action.ofResult (Reply.expectSuccess s.createCommand reply)
  Action.ofResult (Reply.sessionId reply)

/-- Pushes an APK and writes it into the session. -/
def write (adb : Adb) (id : Int) (index : Nat) (apk : String) : Action Host Unit := do
  let name ← Action.ofResult (apkName apk)
  let stagedName := stagedName index name
  pushFile adb apk (staged stagedName)
  let reply ← adb.shellText (writeCommand id stagedName)
  let _ ← Action.ofResult (Reply.expectSuccess (writeCommand id stagedName) reply)

/-- Writes APKs, the first of them at the given index. -/
def writeFrom (adb : Adb) (id : Int) (index : Nat) : List String → Action Host Unit
  | [] => pure ()
  | apk :: rest => do
    write adb id index apk
    writeFrom adb id (index + 1) rest

/-- All steps. Answers the session's id and the reply to the commit, whatever it says. -/
def execute (adb : Adb) (s : Session) : Action Host (Int × String) := do
  let id ← create adb s
  writeFrom adb id 0 s.apks
  let reply ← adb.shellText (commitCommand id)
  return (id, reply)

/-- Installs the APKs. Answers the session's id. -/
def run (adb : Adb) (s : Session) : Action Host Int := do
  let (id, reply) ← execute adb s
  let _ ← Action.ofResult (Reply.expectSuccess (commitCommand id) reply)
  return id

/-- Has the device refuse the APKs when they are committed. Answers how it refused. -/
def runExpectingFailure (adb : Adb) (s : Session) : Action Host String := do
  let (id, reply) ← execute adb s
  Action.ofResult (Reply.expectFailure (commitCommand id) reply)

end Session
end DeviceHarness.Install
