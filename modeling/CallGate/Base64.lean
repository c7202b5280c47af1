import CallGate.Bytes

/-! Base64 with the standard alphabet. Writing leaves the padding out; reading takes a text with any
amount of padding up to its full group, and names the first offence otherwise. -/

namespace CallGate.Base64

/-- Why a text is not Base64. Offsets count the octets of the text. -/
inductive Fault where
  | symbol (offset : Nat) (octet : UInt8)
  | length (count : Nat)
  | lastSymbol (offset : Nat) (octet : UInt8)
  | padding
  deriving DecidableEq, Repr

def Fault.message : Fault → String
  | .symbol offset octet => "Invalid symbol " ++ toString octet.toNat ++ ", offset " ++ toString offset ++ "."
  | .length count => "Invalid input length: " ++ toString count
  | .lastSymbol offset octet =>
      "Invalid last symbol " ++ toString octet.toNat ++ ", offset " ++ toString offset ++ "."
  | .padding => "Invalid padding"

/-- The padding octet, an equals sign. -/
def pad : UInt8 := 61

/-- The octet that stands for a digit below 64. -/
def symbol (d : Nat) : UInt8 :=
  if d < 26 then UInt8.ofNat (d + 65)
  else if d < 52 then UInt8.ofNat (d + 71)
  else if d < 62 then UInt8.ofNat (d - 4)
  else if d = 62 then 43
  else 47

/-- The digit an octet stands for. -/
def digit? (c : UInt8) : Option Nat :=
  let n := c.toNat
  if 65 ≤ n ∧ n ≤ 90 then some (n - 65)
  else if 97 ≤ n ∧ n ≤ 122 then some (n - 71)
  else if 48 ≤ n ∧ n ≤ 57 then some (n + 4)
  else if n = 43 then some 62
  else if n = 47 then some 63
  else none

theorem digit?_symbol : ∀ d < 64, digit? (symbol d) = some d := by decide

theorem digit?_pad : digit? pad = none := rfl

/-- Three octets become four symbols; one or two left over become two or three. -/
def encode : Bytes → Bytes
  | a :: b :: c :: rest =>
      symbol (a.toNat / 4) :: symbol (a.toNat % 4 * 16 + b.toNat / 16) ::
        symbol (b.toNat % 16 * 4 + c.toNat / 64) :: symbol (c.toNat % 64) :: encode rest
  | [a, b] =>
      [symbol (a.toNat / 4), symbol (a.toNat % 4 * 16 + b.toNat / 16), symbol (b.toNat % 16 * 4)]
  | [a] => [symbol (a.toNat / 4), symbol (a.toNat % 4 * 16)]
  | [] => []

/-- How many padding octets complete the last group of the text of `n` octets. -/
def fullPadding (n : Nat) : Nat := (3 - n % 3) % 3

def digitAt (offset : Nat) (c : UInt8) : Except Fault Nat :=
  match digit? c with
  | some d => .ok d
  | none => .error (.symbol offset c)

/-- The octets of a full group of digits. -/
def join (x y z w : Nat) : Bytes :=
  [UInt8.ofNat (x * 4 + y / 16), UInt8.ofNat (y % 16 * 16 + z / 4), UInt8.ofNat (z % 4 * 64 + w)]

/-- A group that is not the last holds four symbols and no padding. -/
def decodeGroup (offset : Nat) (a b c d : UInt8) : Except Fault Bytes := do
  let x ← digitAt offset a
  let y ← digitAt (offset + 1) b
  let z ← digitAt (offset + 2) c
  let w ← digitAt (offset + 3) d
  return join x y z w

def digitsFrom (offset : Nat) : Bytes → Except Fault (List Nat)
  | [] => .ok []
  | c :: rest => do
      let d ← digitAt offset c
      let ds ← digitsFrom (offset + 1) rest
      return d :: ds

/-- The octets of the symbols of the last group; its unused low bits are zero. -/
def joinLast (offset : Nat) (symbols : Bytes) : List Nat → Except Fault Bytes
  | [] => .ok []
  | [_] => .error (.length (offset + 1))
  | [x, y] =>
      if y % 16 = 0 then .ok [UInt8.ofNat (x * 4 + y / 16)]
      else .error (.lastSymbol (offset + 1) (symbols.getD 1 0))
  | [x, y, z] =>
      if z % 4 = 0 then .ok [UInt8.ofNat (x * 4 + y / 16), UInt8.ofNat (y % 16 * 16 + z / 4)]
      else .error (.lastSymbol (offset + 2) (symbols.getD 2 0))
  | x :: y :: z :: w :: _ => .ok (join x y z w)

/-- The last group holds up to four octets: symbols, then padding after at least two of them. -/
def decodeLast (offset : Nat) (group : Bytes) : Except Fault Bytes := do
  let symbols := group.takeWhile (· != pad)
  let rest := group.dropWhile (· != pad)
  let digits ← digitsFrom offset symbols
  if rest ≠ [] ∧ (symbols.length < 2 ∨ rest.any (· != pad)) then
    throw (.symbol (offset + symbols.length) pad)
  joinLast offset symbols digits

def decodeFrom (offset : Nat) : Bytes → Except Fault Bytes
  | a :: b :: c :: d :: e :: rest => do
      let group ← decodeGroup offset a b c d
      let more ← decodeFrom (offset + 4) (e :: rest)
      return group ++ more
  | group => decodeLast offset group

/-- A single octet left over that is no symbol, such as a trailing newline, is reported before
anything else in the text. -/
def strayEnd? (text : Bytes) : Option UInt8 :=
  if text.length % 4 = 1 then
    text.getLast?.filter fun c => c != pad && (digit? c).isNone
  else none

def decode (text : Bytes) : Except Fault Bytes :=
  match strayEnd? text with
  | some c => .error (.symbol (text.length - 1) c)
  | none => decodeFrom 0 text

end CallGate.Base64
