import Formula.Text.Hidden

/-! Texts in quotation marks, as complaints show them. -/

namespace Formula.Text

/-- How a character is shown between quotation marks.  A hidden character is shown by its number in
hexadecimal digits. -/
def shown (c : Char) : List Char :=
  if c = '\x00' then ['\\', '0']
  else if c = '\t' then ['\\', 't']
  else if c = '\r' then ['\\', 'r']
  else if c = '\n' then ['\\', 'n']
  else if c = '"' || c = '\\' then ['\\', c]
  else if isHidden c then ['\\', 'u', '\x7b'] ++ Nat.toDigits 16 c.toNat ++ ['\x7d']
  else [c]

def quoted (text : String) : String := "\"" ++ String.ofList (text.toList.flatMap shown) ++ "\""

end Formula.Text
