import DeviceHarness.Error
import DeviceHarness.Text.Blank
import DeviceHarness.Text.Search

/-! What the package, activity and policy managers of a device print. Their outcome is in the text,
not in the exit status: a reply that starts with `Success` worked, and any other reply is the reason
of the failure. -/

namespace DeviceHarness.Reply

def succeeded (reply : String) : Bool := Text.startsWith "Success" reply

/-- Success in commands that print `Success: <payload>`. -/
def succeededWithPayload (reply : String) : Bool := Text.startsWith "Success:" reply

/-- Whether some line starts with `Success`. An install of a single package prints its progress
before that line. -/
def hasSuccessLine (reply : String) : Bool := succeeded reply || Text.contains "\nSuccess" reply

/-- The reply of the command `what`, which has to have worked. -/
def expectSuccess (what reply : String) : Except Error String :=
  if succeeded reply then .ok reply
  else .error (.assertion (what ++ " failed: " ++ Text.trim reply))

/-- The reply of the command `what`, which has to have failed. -/
def expectFailure (what reply : String) : Except Error String :=
  if succeeded reply then
    .error (.assertion (what ++ " unexpectedly succeeded: " ++ Text.trim reply))
  else .ok reply

end DeviceHarness.Reply
