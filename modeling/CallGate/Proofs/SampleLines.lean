import CallGate.Metrics
import CallGate.Text.Cut

/-! The lines of the Prometheus text. The labels that a gate counts hold nothing that has to be escaped,
so a line tells its series and its count. -/

namespace CallGate.Metrics

/-- A text without the characters that are escaped in labels. -/
def Plain (s : String) : Prop := ∀ c ∈ s.toList, c ≠ '\\' ∧ c ≠ '"' ∧ c ≠ '\n'

theorem escapeFrom_of_plain {cs : List Char} (plain : ∀ c ∈ cs, c ≠ '\\' ∧ c ≠ '"' ∧ c ≠ '\n') :
    escapeFrom false cs = cs := by
  induction cs with
  | nil => rfl
  | cons c cs ih =>
    obtain ⟨⟨slash, quote, line⟩, rest⟩ := List.forall_mem_cons.1 plain
    -- The last equation of the function holds for characters that are none of the three.
    simp [escapeFrom, ih rest]

theorem escape_of_plain {s : String} (plain : Plain s) : escape s = s := by
  rw [escape, escapeFrom_of_plain plain, String.ofList_toList]

/-- Labels of which nothing is escaped. -/
structure Labels.Plain (l : Labels) : Prop where
  scheme : Metrics.Plain l.scheme
  kind : Metrics.Plain l.kind
  result : Metrics.Plain l.result

theorem plain_labels (a : Attempt) : (labels a).Plain := by
  obtain ⟨scheme, kind, accepted⟩ := a
  constructor
  · cases scheme <;> simp [labels, Scheme.name, Plain]
  · cases kind <;> simp [labels, Attempt.Kind.name, Plain]
  · cases accepted <;> simp [labels, resultName, Plain]

theorem Plain.quote_notMem {s : String} (plain : Plain s) : '"' ∉ s.toList :=
  fun there => (plain _ there).2.1 rfl

/-- A plain text between quotes can be told from what follows it. -/
theorem Plain.quoted_inj {s s' : String} (plain : Plain s) (plain' : Plain s')
    {before after after' : List Char} (h : before ++ '"' :: (s.toList ++ '"' :: after) =
      before ++ '"' :: (s'.toList ++ '"' :: after')) : s = s' ∧ after = after' := by
  have rest := (List.cons.inj (List.append_cancel_left h)).2
  have cut := congrArg (Text.cutList? '"') rest
  rw [Text.cutList?_append after plain.quote_notMem,
    Text.cutList?_append after' plain'.quote_notMem] at cut
  simpa only [Option.some.injEq, Prod.mk.injEq, String.toList_inj] using cut

/-- The line of a series in the text. -/
def sampleLine (l : Labels) (n : Nat) : String := seriesName l ++ " " ++ toString n

theorem toList_sampleLine {l : Labels} (plain : l.Plain) (n : Nat) : (sampleLine l n).toList =
    (metricName ++ "\x7bscheme=").toList ++ '"' :: (l.scheme.toList ++ '"' ::
      (",kind=".toList ++ '"' :: (l.kind.toList ++ '"' ::
        (",result=".toList ++ '"' :: (l.result.toList ++ '"' ::
          ("\x7d ".toList ++ (toString n).toList)))))) := by
  simp [sampleLine, seriesName, escape_of_plain plain.scheme, escape_of_plain plain.kind,
    escape_of_plain plain.result]

/-- A line of the text tells the series and its count. -/
theorem sampleLine_inj {l l' : Labels} (plain : l.Plain) (plain' : l'.Plain) {n n' : Nat}
    (h : sampleLine l n = sampleLine l' n') : l = l' ∧ n = n' := by
  have chars := congrArg String.toList h
  rw [toList_sampleLine plain, toList_sampleLine plain'] at chars
  obtain ⟨scheme, chars⟩ := plain.scheme.quoted_inj plain'.scheme chars
  obtain ⟨kind, chars⟩ := plain.kind.quoted_inj plain'.kind chars
  obtain ⟨result, chars⟩ := plain.result.quoted_inj plain'.result chars
  have digits := congrArg (Nat.ofDigitChars 10 · 0) (List.append_cancel_left chars)
  simp only [Nat.toString_eq_repr, Nat.toList_repr, Nat.ofDigitChars_ten_toDigits] at digits
  refine ⟨?_, digits⟩
  cases l
  cases l'
  cases scheme
  cases kind
  cases result
  rfl

theorem seriesName_inj {l l' : Labels} (plain : l.Plain) (plain' : l'.Plain)
    (h : seriesName l = seriesName l') : l = l' := by
  have same : sampleLine l 0 = sampleLine l' 0 := by rw [sampleLine, sampleLine, h]
  exact (sampleLine_inj plain plain' same).1

def helpLine : String := "# HELP " ++ metricName ++ " " ++ metricHelp

def typeLine : String := "# TYPE " ++ metricName ++ " counter"

/-- No series has a line that starts like a comment. -/
theorem sampleLine_ne {l : Labels} {n : Nat} {line : String} (comment : line.toList.head? = some '#') :
    sampleLine l n ≠ line := by
  rintro rfl
  simp [sampleLine, seriesName, metricName] at comment

end CallGate.Metrics
