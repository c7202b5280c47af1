import CallGate.Text.Range
import CallGate.Text.WordData

/-! Letters and numbers of all scripts. -/

namespace CallGate.Text

def isLetter (c : Char) : Bool := inRanges letterRanges c

def isNumber (c : Char) : Bool := inRanges numberRanges c

def isWord (c : Char) : Bool := isLetter c || isNumber c

theorem letterRanges_ascending : ascending letterRanges = true := by decide +kernel

theorem numberRanges_ascending : ascending numberRanges = true := by decide +kernel

end CallGate.Text
