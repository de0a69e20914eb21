import DeviceHarness.Dictionary
import DeviceHarness.Error
import DeviceHarness.Text.Split

/-! The features that a device lists, one `feature:<name>` per word. -/

namespace DeviceHarness.Reply

/-- The name of a feature, when the word names one. -/
def featureName? (word : String) : Option String :=
  match Text.splitOnce ':' word.toList with
  | some (kind, name) =>
    if kind = "feature".toList ∧ name ≠ [] then some (String.ofList name) else none
  | none => none

def featureNames : List String → Except Error (List String)
  | [] => .ok []
  | word :: rest =>
    match featureName? word with
    | some name => (featureNames rest).map (name :: ·)
    | none =>
      .error (.assertion ("\"" ++ word ++ "\" expected to have format feature:\x7bFEATURE_VALUE\x7d"))

def features (reply : String) : Except Error NameSet :=
  (featureNames (Text.words reply)).map NameSet.ofList

end DeviceHarness.Reply
