import DeviceHarness.Error
import DeviceHarness.Text.Lines
import DeviceHarness.Text.Search
import DeviceHarness.Text.Split

/-! What a device prints about its users. Ids and serial numbers fit 32 bits. -/

namespace DeviceHarness.Reply

/-- The id of a new user: the last word of `Success: created user id 10`. -/
def createdUserId (reply : String) : Except Error Int :=
  match Text.words reply with
  | "Success:" :: rest =>
    match rest.getLast? with
    | none => .error (.harness ("no user id in reply: " ++ Text.trim reply))
    | some written =>
      match Integer.ofText? 32 written with
      | some id => .ok id
      | none =>
        .error (.harness ("invalid user id `" ++ written ++ "` in reply: " ++ Text.trim reply))
  | _ =>
    .error (.harness ("expected reply of the form `Success: ... <id>`, got: " ++ Text.trim reply))

/-- One user of a device. -/
structure User where
  id : Int
  name : String
  running : Bool
  deriving Repr, DecidableEq

/-- The tokens of a line such as `UserInfo{0:Owner:13} running`, cut at braces and colons. -/
def userTokens (line : String) : List String :=
  let isMark (c : Char) : Bool := c == '{' || c == '}' || c == ':'
  (Text.dropEmptyEnd (Text.pieces isMark line.toList)).map String.ofList

/-- The user of a line. What follows the closing brace says whether it is running. -/
def user (line : String) : Except Error User :=
  let read (id name state : String) : Except Error User :=
    match Integer.ofText? 32 (Text.trim id) with
    | some id => .ok ⟨id, name, Text.contains "running" state⟩
    | none => .error (.assertion ("invalid user id in line `" ++ Text.trim line ++ "`"))
  match userTokens line with
  | [_, id, name, _] => read id name ""
  | [_, id, name, _, state] => read id name state
  | _ =>
    .error (.assertion ("user line `" ++ Text.trim line ++ "` doesn't contain 4 or 5 tokens"))

def users : List String → Except Error (List User)
  | [] => .ok []
  | line :: rest => do
    let first ← user line
    let more ← users rest
    return first :: more

/-- The users of a listing, which has the heading `Users:` and one line per user. -/
def userList (reply : String) : Except Error (List User) :=
  let isHeading (line : String) : Bool := Text.trimEnd line.toList == "Users:".toList
  let bad : Except Error (List User) :=
    .error (.assertion
      ("expected `pm list users` output to start with `Users:`, got: " ++ Text.trim reply))
  match (Text.lines reply).filter (!Text.blank ·) with
  | heading :: rest => if isHeading heading then users rest else bad
  | [] => bad

/-- How a user's entry begins. -/
def userMark (id : Int) : String := "UserInfo\x7b" ++ Integer.text id ++ ":"

/-- The serial number in the line of a user. -/
def serialOf (line : String) : Except Error Int :=
  match Text.piecesBetween "serialNo=".toList line.toList with
  | [_, written] =>
    match Integer.ofText? 32 (Text.trim (String.ofList written)) with
    | some serial => .ok serial
    | none => .error (.assertion ("invalid serial number in `" ++ line ++ "`"))
  | _ => .error (.assertion ("expected one serialNo= in `" ++ line ++ "`"))

/-- The serial number of a user, from the first line that mentions it. -/
def userSerial (reply : String) (id : Int) : Except Error Int :=
  match ((Text.lines reply).map Text.trim).find? (Text.contains (userMark id)) with
  | some line => serialOf line
  | none => .error (.assertion ("couldn't find user " ++ Integer.text id))

/-- How many users a device supports: the last word of `Maximum supported users: 4`. -/
def maxUsers (reply : String) : Except Error Int :=
  let trimmed := Text.trim reply
  let last := (trimmed.toList.reverse.takeWhile (· != ' ')).reverse
  match Integer.ofChars? 32 last with
  | some n => .ok n
  | none => .error (.assertion ("failed to parse result: " ++ trimmed))

end DeviceHarness.Reply
