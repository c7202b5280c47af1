import CallGate.Text.HiddenData
import CallGate.Text.Range

/-! Texts and octet strings between double quotes, for diagnostics. -/

namespace CallGate.Text

def hexDigits (n : Nat) : String := String.ofList (Nat.toDigits 16 n)

def isHidden (c : Char) : Bool := inRanges hiddenRanges c

theorem hiddenRanges_ascending : ascending hiddenRanges = true := by decide +kernel

/-- A hidden character is written by its code in hexadecimal. -/
def quoteChar (c : Char) : String :=
  if c = '"' then "\\\""
  else if c = '\\' then "\\\\"
  else if c = '\n' then "\\n"
  else if c = '\r' then "\\r"
  else if c = '\t' then "\\t"
  else if c.toNat = 0 then "\\0"
  else if isHidden c then "\\u\x7b" ++ hexDigits c.toNat ++ "\x7d"
  else c.toString

def quote (s : String) : String := "\"" ++ String.join (s.toList.map quoteChar) ++ "\""

/-- Octets outside printable ASCII are written by two hexadecimal digits. -/
def quoteOctet (b : UInt8) : String :=
  if b = 34 then "\\\""
  else if b = 92 then "\\\\"
  else if b = 10 then "\\n"
  else if b = 13 then "\\r"
  else if b = 9 then "\\t"
  else if b = 0 then "\\0"
  else if 32 ≤ b && b ≤ 126 then (Char.ofNat b.toNat).toString
  else if b < 16 then "\\x0" ++ hexDigits b.toNat
  else "\\x" ++ hexDigits b.toNat

def quoteOctets (b : List UInt8) : String := "b\"" ++ String.join (b.map quoteOctet) ++ "\""

/-- The values of a list in brackets, separated by commas. -/
def bracket (xs : List String) : String := "[" ++ String.intercalate ", " xs ++ "]"

end CallGate.Text
