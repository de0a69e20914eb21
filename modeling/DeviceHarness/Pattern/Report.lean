import DeviceHarness.Pattern.Depth
import DeviceHarness.Pattern.Meaning
import DeviceHarness.Pattern.Parser
import DeviceHarness.Pattern.Size
import DeviceHarness.Text.Lines

/-! Complaints about patterns, shown with the pattern and with carets below what is wrong. Patterns of
several lines are shown with numbered lines between two rules. -/

namespace DeviceHarness.Pattern.Report

def blanks (n : Nat) : List Char := List.replicate n ' '

/-- The lines that a place can be in. A line feed at the end starts one more, which is empty. -/
def lineCount (pattern : String) : Nat :=
  (Text.lines pattern).length + if pattern.toList.getLast? == some '\n' then 1 else 0

/-- The digits of the greatest line number. A single line has no number. -/
def numberWidth (pattern : String) : Nat :=
  if lineCount pattern ≤ 1 then 0 else (Integer.digits (lineCount pattern)).length

/-- What stands before the text of a line. -/
def margin (width line : Nat) : List Char :=
  if width == 0 then blanks 4 else (Integer.digits line).leftpad width ' ' ++ [':', ' ']

/-- Carets below stretches of one line, after so many columns. Empty stretches get a caret too. -/
def carets (column : Nat) : List Span → List Char
  | [] => []
  | span :: rest =>
    let lead := span.start.column - 1 - column
    let count := max 1 (span.stop.column - span.start.column)
    blanks lead ++ List.replicate count '^' ++ carets (column + lead + count) rest

/-- A line of the pattern, and the carets below it. -/
def noted (width : Nat) (spans : List Span) (text : String) (line : Nat) : String :=
  let marked := spans.filter (·.start.line == line)
  let below :=
    if marked.isEmpty then []
    else blanks (if width == 0 then 4 else width + 2) ++ carets 0 marked ++ ['\n']
  String.ofList (margin width line ++ text.toList ++ ['\n'] ++ below)

def notedLines (pattern : String) (spans : List Span) : String :=
  String.join ((Text.lines pattern).zipIdx.map fun (text, index) =>
    noted (numberWidth pattern) spans text (index + 1))

/-- The places of a complaint in order. -/
def spans (c : Complaint) : List Span :=
  match c.other with
  | none => [c.span]
  | some other => if c.span.before other then [c.span, other] else [other, c.span]

/-- A rule across the page. -/
def rule : String := String.ofList (List.replicate 79 '~') ++ "\n"

/-- The words for a stretch that no carets can show. -/
def stretch (s : Span) : String :=
  "on line " ++ Integer.text s.start.line ++ " (column " ++ Integer.text s.start.column ++
    ") through line " ++ Integer.text s.stop.line ++ " (column " ++
    Integer.text (s.stop.column - 1 : Nat) ++ ")"

/-- A complaint as it is shown. -/
def text (pattern : String) (c : Complaint) : String :=
  let lines := notedLines pattern ((spans c).filter Span.isOneLine)
  let long := (spans c).filter (!·.isOneLine)
  "regex parse error:\n" ++
    (if pattern.toList.contains '\n' then
      rule ++ lines ++ rule ++ String.join (long.map fun s => stretch s ++ "\n")
    else lines) ++
    "error: " ++ c.fault.message

end DeviceHarness.Pattern.Report

namespace DeviceHarness.Pattern

/-- What is wrong with a pattern: its form, its depth, or what it can match, in this order. -/
def check (pattern : String) : Except Complaint Pattern := do
  let parsed ← parse pattern
  checkDepth parsed
  let _ ← checkMeaning true parsed
  return parsed

/-- Why a text cannot be used as a pattern. -/
def complaint? (pattern : String) : Option String :=
  match check pattern with
  | .ok parsed =>
    if parsed.fits then none
    else some ("Compiled regex exceeds size limit of " ++ Integer.text largestAutomaton ++ " bytes.")
  | .error c => some (Report.text pattern c)

end DeviceHarness.Pattern
