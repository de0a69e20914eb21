import DeviceHarness.Error
import DeviceHarness.Text.Blank

/-! The id of a new install session, as in `Success: created install session [12345]`. -/

namespace DeviceHarness.Reply

/-- What stands in the last brackets: before the last `]`, and after the last `[` before it. -/
def lastBracketed? (s : List Char) : Option (List Char) :=
  match s.reverse.dropWhile (· != ']') with
  | [] => none
  | _ :: before =>
    if before.contains '[' then some (before.takeWhile (· != '[')).reverse else none

/-- The session id. A negative id is how a device says that it could not create the session; a reply
without an id cannot be understood. -/
def sessionId (reply : String) : Except Error Int :=
  match lastBracketed? reply.toList with
  | none => .error (.harness ("no session id in reply: " ++ Text.trim reply))
  | some bracketed =>
    let written := Text.trim (String.ofList bracketed)
    match Integer.ofText? 64 written with
    | none =>
      .error (.harness ("invalid session id `" ++ written ++ "` in reply: " ++ Text.trim reply))
    | some id =>
      if 0 ≤ id then .ok id
      else .error (.assertion ("failed to create install session: " ++ Text.trim reply))

end DeviceHarness.Reply
