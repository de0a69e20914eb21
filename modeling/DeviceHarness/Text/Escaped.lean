import DeviceHarness.Text.Hidden

/-! Texts shown between double quotes, so that their ends and their hidden characters can be seen. -/

namespace DeviceHarness.Text.Escaped

/-- A number in hexadecimal digits. -/
def hexDigits (n : Nat) : List Char := Nat.toDigits 16 n

/-- A character as it is shown. -/
def escape (c : Char) : List Char :=
  if c = '"' then ['\\', '"']
  else if c = '\\' then ['\\', '\\']
  else if c = '\n' then ['\\', 'n']
  else if c = '\r' then ['\\', 'r']
  else if c = '\t' then ['\\', 't']
  else if c = '\x00' then ['\\', '0']
  else if isHidden c then ['\\', 'u', '\x7b'] ++ hexDigits c.toNat ++ ['\x7d']
  else [c]

def between (s : String) : String := String.ofList ('"' :: s.toList.flatMap escape ++ ['"'])

end DeviceHarness.Text.Escaped
