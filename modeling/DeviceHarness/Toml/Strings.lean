import DeviceHarness.Toml.Reader

/-! Strings of TOML. Double quotes allow escapes, single quotes allow none; tripled quotes allow
line ends, which are read as line feeds whatever they were. -/

namespace DeviceHarness.Toml

open Reader

def isHexDigit (c : Char) : Bool :=
  ('0' ≤ c && c ≤ '9') || ('a' ≤ c && c ≤ 'f') || ('A' ≤ c && c ≤ 'F')

def hexValue (digits : List Char) : Nat :=
  digits.foldl (fun total c =>
    16 * total +
      (if c ≤ '9' then c.toNat - '0'.toNat
       else if 'a' ≤ c then c.toNat - 'a'.toNat + 10
       else c.toNat - 'A'.toNat + 10)) 0

/-- A character given by its number, which must be that of a character. -/
def codePoint (digits : Nat) : Reader Char := do
  let value ← hexValue <$> times isHexDigit digits
  if value < 0xD800 || (0xE000 ≤ value && value ≤ 0x10FFFF) then return Char.ofNat value else fail

/-- What follows a backslash. -/
def escape : Reader Char := do
  let c ← one fun _ => true
  if c == 'b' then return '\x08'
  else if c == 't' then return '\t'
  else if c == 'n' then return '\n'
  else if c == 'f' then return '\x0c'
  else if c == 'r' then return '\r'
  else if c == '"' then return '"'
  else if c == '\\' then return '\\'
  else if c == 'u' then codePoint 4
  else if c == 'U' then codePoint 8
  else fail

private def escaped : Reader Char := do
  char '\\'
  escape

/-- A string in double quotes, on one line. -/
def basicString : Reader String := do
  char '"'
  let body ← many (orElse (one fun c => isPrintable c && c != '"' && c != '\\') escaped)
  char '"'
  return String.ofList body

/-- A string in single quotes, on one line. -/
def literalString : Reader String := do
  char '\''
  let body ← span fun c => isPrintable c && c != '\''
  char '\''
  return String.ofList body

private def lineFeed : Reader (List Char) := (fun _ => ['\n']) <$> newline

/-- A backslash at the end of a line hides that end and all blanks and line ends after it. -/
private def hiddenLineEnd : Reader (List Char) := do
  char '\\'
  white
  newline
  let _ ← many (orElse newline ((fun _ => ()) <$> one isWhite))
  return []

/-- One or two quotes that do not end the string, because what follows them is no quote. -/
private def innerQuotes (quote : Char) : Reader (List Char) := fun s =>
  let quotes := s.takeWhile (· == quote)
  if quotes.length == 1 || quotes.length == 2 then some (quotes, s.drop quotes.length) else none

/-- The three closing quotes. Up to two quotes before them belong to the string. -/
private def closing (quote : Char) : Reader (List Char) := fun s =>
  let count := (s.takeWhile (· == quote)).length
  if count < 3 then none
  else
    let kept := min (count - 3) 2
    some (List.replicate kept quote, s.drop (kept + 3))

private def tripled (quote : Char) (piece : Reader (List Char)) : Reader String := do
  exactly [quote, quote, quote]
  let _ ← optional newline
  let body ← many (orElse piece (orElse lineFeed (innerQuotes quote)))
  let last ← closing quote
  return String.ofList (body.flatten ++ last)

def multilineBasicString : Reader String :=
  tripled '"' (orElse (List.singleton <$> one fun c => isPrintable c && c != '"' && c != '\\')
    (orElse (List.singleton <$> escaped) hiddenLineEnd))

def multilineLiteralString : Reader String :=
  tripled '\'' (List.singleton <$> one fun c => isPrintable c && c != '\'')

def string : Reader String :=
  orElse multilineBasicString (orElse basicString (orElse multilineLiteralString literalString))

end DeviceHarness.Toml
