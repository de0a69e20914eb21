/-! Words quoted for a shell. Between single quotes a shell changes nothing, so only single quotes
themselves need care: each closes the quoted part, stands between double quotes, and opens the next
part. -/

namespace DeviceHarness.Text.Quoted

/-- A single quote inside a word: close, quote it doubly, open again. -/
def escapedQuote : List Char := ['\'', '"', '\'', '"', '\'']

def encodeBody : List Char → List Char
  | [] => []
  | c :: rest => if c = '\'' then escapedQuote ++ encodeBody rest else c :: encodeBody rest

def encode (s : List Char) : List Char := '\'' :: encodeBody s ++ ['\'']

/-- The word as a shell must be given it to read it back unchanged. -/
def quote (s : String) : String := String.ofList (encode s.toList)

end DeviceHarness.Text.Quoted
