import CallGate.Bytes
import CallGate.Notice
import CallGate.Text.Blank
import CallGate.Text.Cut
import CallGate.Text.Pattern

/-! Which notices are written. A filter is a list of directives, each a target, a field in brackets
and a level, any of them left out; the directive that says most about a notice decides on it. -/

namespace CallGate.Telemetry

/-- The directive is for notices of the targets that start with some octets, and only for those with
a field if it names one. It writes those of a level or a severer one, or none at all. -/
structure Directive where
  target : Bytes := []
  field? : Option Bytes := none
  /-- Whether it is for spans or for values of fields alone, which no notice belongs to. -/
  remote : Bool := false
  most : Option Level := some .trace
  deriving DecidableEq, Repr

abbrev Filter := List Directive

/-- The number that digits stand for, a plus sign in front of them or not, if a word can hold it. -/
def number? (name : List Char) : Option Nat :=
  let digits := if name.head? = some '+' then name.tail else name
  if digits ≠ [] ∧ digits.all Char.isDigit then
    some (digits.foldl (fun n c => 10 * n + (c.toNat - '0'.toNat)) 0) |>.filter (· < UInt64.size)
  else none

/-- A level by its rank, which is zero for none at all, or by its name in any case. -/
def level? (name : String) : Option (Option Level) :=
  match number? name.toList with
  | some 0 => some none
  | some 1 => some (some .error)
  | some 2 => some (some .warn)
  | some 3 => some (some .info)
  | some 4 => some (some .debug)
  | some 5 => some (some .trace)
  | _ => match name.map Char.toLower with
    | "off" => some none
    | "error" => some (some .error)
    | "warn" => some (some .warn)
    | "info" => some (some .info)
    | "debug" => some (some .debug)
    | "trace" => some (some .trace)
    | _ => none

/-- Whether digits, with a point among them or not and with an exponent or not, make up a number. -/
def isDecimal (cs : List Char) : Bool :=
  let mantissa := cs.takeWhile fun c => c != 'e' && c != 'E'
  let digits := mantissa.filter (· != '.')
  let exponent := match cs.drop mantissa.length with
    | _ :: '+' :: ds | _ :: '-' :: ds | _ :: ds => !ds.isEmpty && ds.all Char.isDigit
    | [] => true
  !digits.isEmpty && digits.all Char.isDigit && mantissa.count '.' ≤ 1 && exponent

/-- The value of a field is a number with a plus sign, or a pattern; other numbers are patterns. -/
def isValue (cs : List Char) : Bool :=
  match cs with
  | '+' :: rest =>
      isDecimal rest || ["inf", "infinity", "nan"].contains (String.ofList (rest.map Char.toLower))
  | cs => Text.Pattern.isPattern cs

/-- Names a field, or a field and a value. What follows a second equals sign is not looked at. -/
def Directive.withField (d : Directive) (inside : String) : Option Directive :=
  if inside = "" then none
  else match Text.cut? '=' inside with
    | none => some { d with field? := some (Bytes.ofText inside) }
    | some (_, value) =>
        if isValue (value.toList.takeWhile (· != '=')) then some { d with remote := true } else none

/-- How many octets characters take. -/
def octetCount (cs : List Char) : Nat := (cs.flatMap String.utf8EncodeChar).length

/-- The octets of a text between two places. -/
def part (text : Bytes) (start stop : Nat) : Bytes := (text.take stop).drop start

/-- The level at the end of a directive; none there stands for all levels. -/
def Directive.withLevel (d : Directive) (name : Bytes) : Option Directive :=
  match name with
  | [] => some d
  | name => (name.text?.bind level?).map fun most => { d with most }

/-- What follows the brackets: nothing, or a level. -/
def afterBrackets (text : Bytes) (d : Directive) (start : Nat) : List Char → Option Directive
  | [] => some d
  | '=' :: _ => d.withLevel (text.drop (start + 1))
  | _ => none

/-- What follows an opening bracket: the name of spans, a field in braces, or both. -/
def inBrackets (text : Bytes) (d : Directive) (start : Nat) (cs : List Char) : Option Directive :=
  let named := cs.takeWhile fun c => c != ']' && c != '\x7b'
  let stop := start + octetCount named
  match cs.drop named.length with
  | ']' :: rest => afterBrackets text { d with remote := true } (stop + 1) rest
  | _ :: rest =>
      let d := if named.isEmpty then d else { d with remote := true }
      let inside := rest.takeWhile (· != '\x7d')
      let close := stop + 1 + octetCount inside
      match rest.drop inside.length with
      | _ :: ']' :: rest => do
          let d ← d.withField (← (part text (stop + 1) close).text?)
          afterBrackets text d (close + 2) rest
      | _ => none
  | [] => none

/-- A target starts with a letter, a number or one of three signs. -/
def startsTarget (c : Char) : Bool := Text.isWord c || c == '-' || c == ':' || c == '_'

/-- A directive. Its parts are found with the blanks around it left aside, and then taken from the
same places of the whole text. A text without any of the signs is a level or else a target. -/
def directive? (text : String) : Option Directive :=
  let whole := Bytes.ofText text
  match Text.trim text.toList with
  | [] => none
  | '[' :: rest => inBrackets whole {} 1 rest
  | c :: cs =>
      if startsTarget c then
        let head := (c :: cs).takeWhile fun c => c != '=' && c != '['
        let stop := octetCount head
        match (c :: cs).drop head.length with
        | [] => match level? text with
            | some most => some { most }
            | none => some { target := whole }
        | '[' :: rest => inBrackets whole { target := part whole 0 stop } (stop + 1) rest
        | _ => Directive.withLevel { target := part whole 0 stop } (whole.drop (stop + 1))
      else none

/-- Directives separated by commas, none of which may be wrong. -/
def filter? (text : String) : Option Filter :=
  ((text.splitOn ",").filter (· ≠ "")).mapM directive?

def defaultFilter : Filter := [{ target := Bytes.ofText "flight_auth", most := some .info }]

/-- The filter of a setting, or the default where it is unset or cannot be read. -/
def filterOf (setting : Option String) : Filter := (setting.bind filter?).getD defaultFilter

/-- The fields of a notice by name; the message is one. -/
def fieldNames (n : Notice) : List String := "message" :: n.fields.map Notice.Field.name

def Directive.concerns (d : Directive) (n : Notice) : Bool :=
  !d.remote && d.target.isPrefixOf (Bytes.ofText n.target) &&
    d.field?.all fun name => (fieldNames n).any (Bytes.ofText · == name)

/-- Whether `d` says at least as much as `b`: it names more of the target, or as much and a field
where the other has none or one whose name comes before. -/
def Directive.outranks (d b : Directive) : Bool :=
  if d.target.length = b.target.length then
    match b.field?, d.field? with
    | none, _ => true
    | some _, none => false
    | some x, some y => !decide (y < x)
  else b.target.length < d.target.length

/-- Whichever of two directives says more, the second if they say as much. -/
def foremost (best : Option Directive) (d : Directive) : Option Directive :=
  if best.all d.outranks then some d else best

/-- The directive for a notice is the one that says most about it, the last of equals. -/
def directiveFor (f : Filter) (n : Notice) : Option Directive :=
  (f.filter (·.concerns n)).foldl foremost none

def admits (f : Filter) (n : Notice) : Bool :=
  match (directiveFor f n).bind (·.most) with
  | some most => n.level.rank ≤ most.rank
  | none => false

theorem directiveFor_mem {f : Filter} {n : Notice} {d : Directive} (h : directiveFor f n = some d) :
    d ∈ f ∧ d.concerns n = true := by
  have step : ∀ (ds : Filter) (best : Option Directive),
      ds.foldl foremost best = some d → best = some d ∨ d ∈ ds := by
    intro ds
    induction ds with
    | nil => exact fun _ hb => .inl hb
    | cons e ds ih =>
      intro best hb
      rcases ih _ hb with he | hm
      · unfold foremost at he
        split at he
        · exact .inr (by simp [Option.some.inj he])
        · exact .inl he
      · exact .inr (by simp [hm])
  rcases step _ none h with hn | hm
  · cases hn
  · simpa using hm

/-- A filter without directives writes nothing. -/
@[simp] theorem admits_nil (n : Notice) : admits [] n = false := rfl

/-- What is written is severe enough for some directive that concerns it. -/
theorem exists_of_admits {f : Filter} {n : Notice} (h : admits f n = true) :
    ∃ d ∈ f, d.concerns n = true ∧ ∃ most, d.most = some most ∧ n.level.rank ≤ most.rank := by
  unfold admits at h
  split at h
  · next most hm =>
    obtain ⟨d, hd, hl⟩ := Option.bind_eq_some_iff.1 hm
    obtain ⟨hmem, hc⟩ := directiveFor_mem hd
    exact ⟨d, hmem, hc, most, hl, by simpa using h⟩
  · cases h

end CallGate.Telemetry
