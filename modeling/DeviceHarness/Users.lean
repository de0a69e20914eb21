import DeviceHarness.Adb.Client
import DeviceHarness.Reply.Success
import DeviceHarness.Reply.Users
import DeviceHarness.Text.Quoted

/-! Users of the device. The users that were created here are remembered, so that they can be removed
when the work is done. What was asked of the device is only believed once the device lists it. -/

namespace DeviceHarness

/-- The host, and the users that were created and not yet removed. -/
structure UserWork where
  host : Host
  created : List Int

/-- Who works with users: through which client, and how patiently. -/
structure UserManager where
  adb : Adb
  wait : WaitPolicy
  deriving Repr, DecidableEq

namespace Users

/-- The user that every device has. -/
def owner : Int := 0

def listCommand : String := "pm list users"
def maxCommand : String := "pm get-max-users"
def dumpCommand : String := "dumpsys user"
def startCommand (id : Int) : String := "am start-user " ++ Integer.text id
def removeCommand (id : Int) : String := "pm remove-user " ++ Integer.text id

def createCommand (moment : Duration) : String :=
  "pm create-user TestUser_" ++ Integer.text (Duration.inMilliseconds moment)

def createProfileCommand (parent : Int) (moment : Duration) : String :=
  "pm create-user --profileOf " ++ Integer.text parent ++ " --managed TestProfile_" ++
    Integer.text (Duration.inMilliseconds moment)

def setOwnerCommand (component : String) (id : Int) : String :=
  "dpm set-profile-owner " ++ Text.Quoted.quote component ++ " " ++ Integer.text id

end Users

namespace UserManager

open Users Reply

variable (m : UserManager)

def list : Action Host (List User) := do
  Action.ofResult (userList (← m.adb.shellText listCommand))

/-- How many users the device supports. -/
def maximum : Action Host Int := do
  Action.ofResult (maxUsers (← m.adb.shellText maxCommand))

/-- Whether the device can hold a second user. -/
def supportsMultiple : Action Host Bool := do
  return 1 < (← m.maximum)

def serialNumber (id : Int) : Action Host Int := do
  Action.ofResult (userSerial (← m.adb.shellText dumpCommand) id)

/-- Waits until the listing of users satisfies a condition. -/
def waitUntil (what : String) (holds : List User → Bool) : Action Host Unit :=
  m.wait.pollUntil what do
    return holds (← m.list)

/-- Starts a user, so that apps can run for it. -/
def start (id : Int) : Action Host Unit := do
  let reply ← m.adb.shellText (startCommand id)
  if succeededWithPayload reply then
    m.waitUntil ("user " ++ Integer.text id ++ " to be running")
      fun users => users.any fun user => user.id == id && user.running
  else throw (.assertion (Text.trim reply ++ " expected to start with \"Success:\""))

/-- Makes a component the owner of a user's profile. -/
def setProfileOwner (component : String) (id : Int) : Action Host Unit := do
  let reply ← m.adb.shellText (setOwnerCommand component id)
  if succeededWithPayload reply then return ()
  else throw (.assertion ("failed to set " ++ component ++ " as profile owner of user " ++
    Integer.text id ++ ": " ++ Text.trim reply))

/-- Work on the host, which leaves the memory of users as it is. -/
def onHost {α : Type} (work : Action Host α) : Action UserWork α :=
  work.within UserWork.host fun host state => { state with host := host }

/-- Changes the memory of users. -/
def track (change : List Int → List Int) : Action UserWork Unit :=
  ExceptT.mk fun state => (.ok (), { state with created := change state.created })

/-- Creates a user by a command that may name the moment, and waits until it is listed. The user is
remembered before that, because it exists even if it never appears. -/
def createBy (command : Duration → String) : Action UserWork Int := do
  let moment ← onHost Host.now
  let reply ← onHost (m.adb.shellText (command moment))
  let id ← Action.ofResult (createdUserId reply)
  track (· ++ [id])
  onHost (m.waitUntil ("user " ++ Integer.text id ++ " to be listed")
    fun users => users.any (·.id == id))
  return id

def create : Action UserWork Int := m.createBy createCommand

/-- Creates a managed profile of a user. -/
def createProfile (parent : Int) : Action UserWork Int := m.createBy (createProfileCommand parent)

/-- Asks the device to remove a user, and waits until it is gone. -/
def removeFromDevice (id : Int) : Action Host Unit := do
  let _ ← m.adb.shellText (removeCommand id)
  m.waitUntil ("user " ++ Integer.text id ++ " to be removed")
    fun users => !users.any (·.id == id)

/-- Removes a user. The work goes on even if that fails. -/
def remove (id : Int) : Action UserWork Unit := do
  track (·.filter (· != id))
  let _ ← onHost (m.removeFromDevice id).outcome

/-- Removes all users but the owner, those included that were not created here. -/
def removeAllSecondary : Action UserWork Unit := do
  let users ← onHost m.list
  Action.each m.remove ((users.map User.id).filter (· != owner))

/-- Removes the users that were created here. -/
def tearDown : Action UserWork Unit := do
  let created ← ExceptT.mk fun state : UserWork => (.ok state.created, state)
  Action.each m.remove created

end UserManager
end DeviceHarness
