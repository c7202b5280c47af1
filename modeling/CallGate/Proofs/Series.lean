import CallGate.Proofs.SampleLines
import CallGate.Proofs.Visits
import Mathlib.Data.List.Induction
import Mathlib.Data.List.Nodup

/-! The counted series. A registry is written to by two sides, the gate that records an attempt and
whoever describes the metric, and each has its own list of labels. The lists agree, and the two do not
get in each other's way. -/

namespace CallGate.Metrics

/-- A name that the gate records for an attempt of a declared kind is one that the description has, and
the description has no other. -/
theorem mem_declared_iff {l : Labels} : l ∈ declared ↔
    ∃ a : Attempt, (a.scheme = .basicBearer ∨ a.kind ≠ .handshake) ∧ labels a = l := by
  constructor
  · intro there
    have schemes : ∀ n ∈ ["handshake", "basic_bearer"], ∃ s : Scheme, s.name = n :=
      List.forall_mem_cons.2 ⟨⟨.handshakeToken, rfl⟩, List.forall_mem_singleton.2 ⟨.basicBearer, rfl⟩⟩
    have kinds : ∀ n ∈ ["unary", "stream"], ∃ k : Attempt.Kind, k ≠ .handshake ∧ k.name = n :=
      List.forall_mem_cons.2 ⟨⟨.unary, nofun, rfl⟩, List.forall_mem_singleton.2 ⟨.stream, nofun, rfl⟩⟩
    have results : ∀ n ∈ ["success", "rejected"], ∃ b, resultName b = n :=
      List.forall_mem_cons.2 ⟨⟨true, rfl⟩, List.forall_mem_singleton.2 ⟨false, rfl⟩⟩
    rw [declared, List.mem_append] at there
    rcases there with there | there
    · obtain ⟨_, first, there⟩ := List.mem_flatMap.1 there
      obtain ⟨_, second, there⟩ := List.mem_flatMap.1 there
      obtain ⟨_, third, rfl⟩ := List.mem_map.1 there
      obtain ⟨scheme, rfl⟩ := schemes _ first
      obtain ⟨kind, other, rfl⟩ := kinds _ second
      obtain ⟨accepted, rfl⟩ := results _ third
      exact ⟨⟨scheme, kind, accepted⟩, .inr other, rfl⟩
    · obtain ⟨_, third, rfl⟩ := List.mem_map.1 there
      obtain ⟨accepted, rfl⟩ := results _ third
      exact ⟨⟨.basicBearer, .handshake, accepted⟩, .inl rfl, rfl⟩
  · rintro ⟨⟨scheme, kind, accepted⟩, counted, rfl⟩
    revert counted
    cases scheme <;> cases kind <;> cases accepted <;> decide

/-- What is done to a registry. -/
inductive Op where
  | record (l : Labels)
  | describe
  deriving DecidableEq, Repr

def Op.recorded? : Op → Option Labels
  | .record l => some l
  | .describe => none

/-- The recordings of a history, in order. -/
def recorded (history : List Op) : List Labels := history.filterMap Op.recorded?

/-- Whether there is a series after a history: one that was recorded, or that was declared. -/
def Shows (history : List Op) (l : Labels) : Prop :=
  l ∈ recorded history ∨ .describe ∈ history ∧ l ∈ declared

instance (history : List Op) (l : Labels) : Decidable (Shows history l) :=
  inferInstanceAs (Decidable (_ ∨ _ ∧ _))

section Histories

variable (history : List Op) (k l : Labels)

@[simp] theorem recorded_record : recorded (history ++ [.record l]) = recorded history ++ [l] := by
  simp [recorded, Op.recorded?]

@[simp] theorem recorded_describe : recorded (history ++ [.describe]) = recorded history := by
  simp [recorded, Op.recorded?]

@[simp] theorem shows_record :
    Shows (history ++ [.record l]) k ↔ Shows history k ∨ k = l := by
  simp [Shows, or_right_comm]

@[simp] theorem shows_describe :
    Shows (history ++ [.describe]) k ↔ Shows history k ∨ k ∈ declared := by
  rw [Shows, Shows, recorded_describe]
  simp only [List.mem_append, List.mem_singleton]
  tauto

/-- What holds at first and is kept by a recording and by a description holds after every history. -/
@[elab_as_elim]
theorem history_induction {motive : List Op → Prop} (nil : motive [])
    (record : ∀ history l, motive history → motive (history ++ [.record l]))
    (describe : ∀ history, motive history → motive (history ++ [.describe]))
    (history : List Op) : motive history := by
  induction history using List.reverseRecOn with
  | nil => exact nil
  | append_singleton history op ih =>
    cases op with
    | record l => exact record history l ih
    | describe => exact describe history ih

end Histories

namespace Registry

variable (r : Registry) (k l : Labels) (n : Nat)

def apply (r : Registry) : Op → Registry
  | .record l => r.record l
  | .describe => r.describe

/-- The registry after a history. -/
def after (history : List Op) : Registry := history.foldl apply {}

/-- The series in the order of their first sample. -/
def keys : List Labels := r.samples.map (·.1)

@[simp] theorem after_record (history : List Op) :
    after (history ++ [.record l]) = (after history).record l := List.foldl_append

@[simp] theorem after_describe (history : List Op) :
    after (history ++ [.describe]) = (after history).describe := List.foldl_append

theorem value?_eq_none_iff : r.value? k = none ↔ k ∉ r.keys := by
  simp only [value?, keys, Option.map_eq_none_iff, List.find?_eq_none, beq_iff_eq, List.mem_map,
    not_exists, not_and]

theorem any_samples : r.samples.any (·.1 == l) = decide (l ∈ r.keys) := by
  rw [Bool.eq_iff_iff]
  simp only [keys, decide_eq_true_eq, List.any_eq_true, beq_iff_eq, List.mem_map]

theorem samples_add_of_mem (there : l ∈ r.keys) :
    (r.add l n).samples = r.samples.map fun s => if s.1 == l then (s.1, s.2 + n) else s := by
  simp only [add, any_samples, there, decide_true, if_true]

theorem samples_add_of_notMem (missing : l ∉ r.keys) :
    (r.add l n).samples = r.samples ++ [(l, n)] := by
  simp only [add, any_samples, missing, decide_false, Bool.false_eq_true, if_false]

theorem value?_add_of_mem (there : l ∈ r.keys) :
    (r.add l n).value? k = if k = l then some ((r.value? l).getD 0 + n) else r.value? k := by
  -- The update leaves the keys alone, so what was found before is found again.
  have found : (r.samples.map fun s => if s.1 == l then (s.1, s.2 + n) else s).find? (·.1 == k) =
      (r.samples.find? (·.1 == k)).map fun s => if s.1 == l then (s.1, s.2 + n) else s := by
    rw [List.find?_map]
    congr 2
    funext s
    simp only [Function.comp_apply]
    split <;> rfl
  simp only [value?, samples_add_of_mem r l n there, found]
  cases hs : r.samples.find? (·.1 == k) with
  | none =>
    have missing : k ∉ r.keys := by
      rw [← value?_eq_none_iff, value?, hs]
      rfl
    have other : k ≠ l := fun same => missing (same ▸ there)
    simp [other]
  | some s =>
    have key : s.1 = k := by simpa using List.find?_some hs
    by_cases same : k = l
    · simp [← same, key, hs]
    · simp [same, key]

theorem value?_add_of_notMem (missing : l ∉ r.keys) :
    (r.add l n).value? k = if k = l then some n else r.value? k := by
  rw [value?, samples_add_of_notMem r l n missing, List.find?_append]
  by_cases same : k = l
  · subst same
    have unfound : r.samples.find? (·.1 == k) = none :=
      Option.map_eq_none_iff.1 ((value?_eq_none_iff r k).2 missing)
    simp [unfound]
  · have other : (l == k) = false := beq_eq_false_iff_ne.2 (Ne.symm same)
    simp [value?, same, other]

theorem value?_add :
    (r.add l n).value? k = if k = l then some ((r.value? l).getD 0 + n) else r.value? k := by
  by_cases there : l ∈ r.keys
  · exact value?_add_of_mem r k l n there
  · have none : r.value? l = none := (value?_eq_none_iff r l).2 there
    simp [value?_add_of_notMem r k l n there, none]

/-- Adding nothing to a series shows it and leaves its count. -/
theorem value?_addNothing (ls : List Labels) :
    (ls.foldl (fun r l => r.add l 0) r).value? k =
      if k ∈ ls then some ((r.value? k).getD 0) else r.value? k := by
  induction ls generalizing r with
  | nil => rfl
  | cons l ls ih =>
    rw [List.foldl_cons, ih, value?_add]
    by_cases same : k = l
    · simp [same]
    · simp [same]

theorem samples_describe : r.describe.samples =
    (declared.foldl (fun r l => r.add l 0) r).samples := by
  simp only [describe]

theorem value?_describe : r.describe.value? k =
    if k ∈ declared then some ((r.value? k).getD 0) else r.value? k := by
  rw [value?, samples_describe, ← value?_addNothing, value?]

/-- The count of a series is the number of its recordings. -/
theorem value?_after (history : List Op) : (after history).value? k =
    if Shows history k then some ((recorded history).count k) else none := by
  -- What a series counts from, if there is none yet, is the number of its recordings so far as well.
  have count {history : List Op} (ih : (after history).value? k =
      if Shows history k then some ((recorded history).count k) else none) :
      ((after history).value? k).getD 0 = (recorded history).count k := by
    rw [ih]
    by_cases shows : Shows history k
    · simp [shows]
    · have unrecorded : k ∉ recorded history := fun there => shows (.inl there)
      simp [shows, List.count_eq_zero.2 unrecorded]
  induction history using history_induction with
  | nil => rfl
  | record history l ih =>
    by_cases same : k = l
    · simp [record, value?_add, ← same, count ih]
    · simp [record, value?_add, same, ih, Ne.symm same]
  | describe history ih =>
    by_cases there : k ∈ declared
    · simp [value?_describe, count ih, there]
    · simp [value?_describe, ih, there]

theorem keys_add : (r.add l n).keys = if l ∈ r.keys then r.keys else r.keys ++ [l] := by
  by_cases there : l ∈ r.keys
  · rw [keys, samples_add_of_mem r l n there, List.map_map, if_pos there]
    refine List.map_congr_left ?_
    intro s _
    simp only [Function.comp_apply]
    split <;> rfl
  · rw [keys, samples_add_of_notMem r l n there, List.map_append, if_neg there]
    rfl

theorem keys_describe :
    r.describe.keys = (declared.foldl (fun r l => r.add l 0) r).keys := by
  rw [keys, samples_describe, keys]

theorem nodup_keys_add (h : r.keys.Nodup) : (r.add l n).keys.Nodup := by
  rw [keys_add]
  split
  · exact h
  · next missing =>
      simpa [List.nodup_append, h] using fun k there => ne_of_mem_of_not_mem there missing

theorem nodup_keys_addNothing (ls : List Labels) (h : r.keys.Nodup) :
    (ls.foldl (fun r l => r.add l 0) r).keys.Nodup := by
  induction ls generalizing r with
  | nil => exact h
  | cons l ls ih => exact ih _ (nodup_keys_add r l 0 h)

theorem nodup_keys_after (history : List Op) : (after history).keys.Nodup := by
  induction history using history_induction with
  | nil => exact List.nodup_nil
  | record history l ih =>
    rw [after_record]
    exact nodup_keys_add _ l 1 ih
  | describe history ih =>
    rw [after_describe, keys_describe]
    exact nodup_keys_addNothing _ declared ih

theorem mem_keys_after (history : List Op) : k ∈ (after history).keys ↔ Shows history k := by
  rw [← not_iff_not, ← value?_eq_none_iff, value?_after]
  split <;> simp [*]

theorem described_after (history : List Op) :
    (after history).described = decide (.describe ∈ history) := by
  induction history using history_induction with
  | nil => rfl
  | record history l ih => simpa [record, add] using ih
  | describe history ih => simp [describe]

/-- Nothing is added to the series by adding to those that are there. -/
theorem keys_addNothing {ls : List Labels} (there : ∀ l ∈ ls, l ∈ r.keys) :
    (ls.foldl (fun r l => r.add l 0) r).keys = r.keys := by
  induction ls generalizing r with
  | nil => rfl
  | cons l ls ih =>
    obtain ⟨first, rest⟩ := List.forall_mem_cons.1 there
    have same : (r.add l 0).keys = r.keys := by rw [keys_add, if_pos first]
    rw [List.foldl_cons, ih _ (by rwa [same]), same]

theorem keys_foldl_apply {later : List Op} (described : ∀ l ∈ declared, l ∈ r.keys)
    (there : ∀ l ∈ recorded later, l ∈ r.keys) : (later.foldl apply r).keys = r.keys := by
  induction later generalizing r with
  | nil => rfl
  | cons op later ih =>
    have same : (r.apply op).keys = r.keys := by
      cases op with
      | record l =>
        have first : l ∈ r.keys := there l List.mem_cons_self
        rw [apply, record, keys_add, if_pos first]
      | describe => rw [apply, keys_describe, keys_addNothing r described]
    have rest : ∀ l ∈ recorded later, l ∈ r.keys := by
      intro l hl
      cases op with
      | record => exact there l (List.mem_cons_of_mem _ hl)
      | describe => exact there l hl
    rw [List.foldl_cons, ih _ (by rwa [same]) (by rwa [same]), same]

theorem mem_samples_iff (h : r.keys.Nodup) : (k, n) ∈ r.samples ↔ r.value? k = some n := by
  obtain ⟨_, samples⟩ := r
  simp only [keys, value?] at h ⊢
  induction samples with
  | nil => simp
  | cons s samples ih =>
    obtain ⟨missing, rest⟩ := List.nodup_cons.1 h
    by_cases key : s.1 = k
    · have gone : (k, n) ∉ samples := by
        intro there
        exact missing (List.mem_map.2 ⟨(k, n), there, key.symm⟩)
      simp [gone, key, Prod.ext_iff, eq_comm]
    · have other : (k, n) ≠ s := fun same => key (same ▸ rfl)
      simp [key, other, ih rest]

/-- Where no two series have one name, all of them show. -/
theorem shown_eq (distinct : (r.samples.map fun s => seriesName s.1).Nodup) :
    r.shown = r.samples.map fun s => (seriesName s.1, s.2) := by
  have aside (samples : List (Labels × Nat)) (shown : List (String × Nat))
      (distinct : (shown.map (·.1) ++ samples.map fun s => seriesName s.1).Nodup) :
      samples.foldl (fun shown s => shown.filter (·.1 ≠ seriesName s.1) ++
        [(seriesName s.1, s.2)]) shown = shown ++ samples.map fun s => (seriesName s.1, s.2) := by
    induction samples generalizing shown with
    | nil => simp
    | cons s samples ih =>
      have kept : shown.filter (·.1 ≠ seriesName s.1) = shown := by
        rw [List.filter_eq_self]
        intro t ht
        have apart := (List.nodup_append.1 distinct).2.2
        simpa using apart t.1 (List.mem_map_of_mem ht) _ List.mem_cons_self
      rw [List.foldl_cons, kept, ih _ (by simpa using distinct)]
      simp
  exact aside r.samples [] distinct

end Registry

section Text

variable {history : List Op} (known : ∀ l ∈ recorded history, l ∈ declared)

theorem plain_of_declared {l : Labels} (h : l ∈ declared) : l.Plain := by
  obtain ⟨a, -, rfl⟩ := mem_declared_iff.1 h
  exact plain_labels a

include known in
theorem declared_of_shows {l : Labels} (h : Shows history l) : l ∈ declared :=
  h.elim (known l) And.right

include known in
theorem shown_after : (Registry.after history).shown =
    (Registry.after history).samples.map fun s => (seriesName s.1, s.2) := by
  have plain : ∀ l ∈ (Registry.after history).keys, l.Plain := by
    intro l there
    exact plain_of_declared (declared_of_shows known ((Registry.mem_keys_after l history).1 there))
  have distinct : ((Registry.after history).keys.map seriesName).Nodup :=
    (Registry.nodup_keys_after history).map_on fun _ hl _ hl' same =>
      seriesName_inj (plain _ hl) (plain _ hl') same
  apply Registry.shown_eq
  rwa [Registry.keys, List.map_map] at distinct

theorem mem_samples_after {s : Labels × Nat} : s ∈ (Registry.after history).samples ↔
    Shows history s.1 ∧ s.2 = (recorded history).count s.1 := by
  rw [Registry.mem_samples_iff _ s.1 s.2 (Registry.nodup_keys_after history), Registry.value?_after]
  by_cases shows : Shows history s.1
  · simp [shows, eq_comm]
  · simp [shows]

theorem samples_after_eq_nil_iff :
    (Registry.after history).samples = [] ↔ ¬ ∃ l, Shows history l := by
  simp only [List.eq_nil_iff_forall_not_mem, mem_samples_after]
  constructor
  · rintro none ⟨l, shows⟩
    exact none (l, (recorded history).count l) ⟨shows, rfl⟩
  · rintro none s ⟨shows, -⟩
    exact none ⟨s.1, shows⟩

theorem exists_shows_of_described (h : .describe ∈ history) : ∃ l, Shows history l :=
  ⟨declared.head nofun, .inr ⟨h, List.head_mem _⟩⟩

include known in
/-- The lines of the text: the help once the metric was described, the type once there is any series,
and one line for each series. -/
theorem mem_render_iff {line : String} : line ∈ (Registry.after history).render ↔
    (.describe ∈ history ∧ line = helpLine) ∨ ((∃ l, Shows history l) ∧ line = typeLine) ∨
      ∃ l, Shows history l ∧ line = sampleLine l ((recorded history).count l) := by
  unfold Registry.render
  rw [shown_after known, Registry.described_after]
  by_cases empty : (Registry.after history).samples = []
  · have none := samples_after_eq_nil_iff.1 empty
    have undescribed : .describe ∉ history := fun h => none (exists_shows_of_described h)
    have shows (l : Labels) : ¬ Shows history l := fun h => none ⟨l, h⟩
    simp [empty, undescribed, shows]
  · have some := not_not.1 (mt samples_after_eq_nil_iff.2 empty)
    simp only [List.isEmpty_iff, empty, if_false, List.mem_mergeSort, List.mem_append, List.mem_map,
      mem_samples_after, List.mem_singleton, some, true_and, or_assoc]
    refine or_congr ?help (or_congr Iff.rfl ?samples)
    case help => by_cases described : .describe ∈ history <;> simp [described, helpLine]
    case samples =>
      constructor
      · rintro ⟨_, ⟨s, ⟨shows, count⟩, rfl⟩, rfl⟩
        exact ⟨s.1, shows, by rw [sampleLine, ← count]⟩
      · rintro ⟨l, shows, rfl⟩
        exact ⟨_, ⟨(l, (recorded history).count l), ⟨shows, rfl⟩, rfl⟩, rfl⟩

end Text

/-- What a registry has to say after a history. -/
structure Reports (history : List Op) : Prop where
  value : ∀ l, (Registry.after history).value? l =
    if Shows history l then some ((recorded history).count l) else none
  /-- A declared series has one line, with its count, if it was recorded or described. -/
  line : ∀ l ∈ declared, ∀ n, sampleLine l n ∈ (Registry.after history).render ↔
    Shows history l ∧ n = (recorded history).count l
  /-- There is no line for anything else. -/
  only : ∀ line ∈ (Registry.after history).render, line = helpLine ∨ line = typeLine ∨
    ∃ l ∈ declared, line = sampleLine l ((recorded history).count l)
  /-- A description leaves the counts alone. -/
  kept : ∀ l n, (Registry.after history).value? l = some n →
    (Registry.after (history ++ [.describe])).value? l = some n
  /-- Once the metric was described, recordings that are declared bring no series about. -/
  closed : .describe ∈ history → ∀ later, (∀ l ∈ recorded later, l ∈ declared) →
    (Registry.after (history ++ later)).shown.map (·.1) = (Registry.after history).shown.map (·.1)

theorem sampleLine_mem_iff {history : List Op}
    (known : ∀ l ∈ recorded history, l ∈ declared) {l : Labels} (hl : l ∈ declared)
    (n : Nat) : sampleLine l n ∈ (Registry.after history).render ↔
      Shows history l ∧ n = (recorded history).count l := by
  rw [mem_render_iff known]
  constructor
  · rintro (⟨-, help⟩ | ⟨-, type⟩ | ⟨l', shows, same⟩)
    · exact absurd help (sampleLine_ne rfl)
    · exact absurd type (sampleLine_ne rfl)
    · obtain ⟨rfl, rfl⟩ := sampleLine_inj (plain_of_declared hl)
        (plain_of_declared (declared_of_shows known shows)) same
      exact ⟨shows, rfl⟩
  · rintro ⟨shows, rfl⟩
    exact .inr (.inr ⟨l, shows, rfl⟩)

theorem shown_after_append {history later : List Op}
    (known : ∀ l ∈ recorded history, l ∈ declared) (described : .describe ∈ history)
    (more : ∀ l ∈ recorded later, l ∈ declared) :
    (Registry.after (history ++ later)).shown.map (·.1) =
      (Registry.after history).shown.map (·.1) := by
  have all : ∀ l ∈ recorded (history ++ later), l ∈ declared := by
    intro l hl
    rw [recorded, List.filterMap_append] at hl
    exact (List.mem_append.1 hl).elim (known l) (more l)
  have there : ∀ l ∈ declared, l ∈ (Registry.after history).keys := by
    intro l hl
    exact (Registry.mem_keys_after l history).2 (.inr ⟨described, hl⟩)
  have keys : (Registry.after (history ++ later)).keys = (Registry.after history).keys := by
    rw [Registry.after, List.foldl_append]
    exact Registry.keys_foldl_apply _ there fun l hl => there l (more l hl)
  have names (h : List Op) (known : ∀ l ∈ recorded h, l ∈ declared) :
      (Registry.after h).shown.map (·.1) = (Registry.after h).keys.map seriesName := by
    rw [shown_after known, Registry.keys, List.map_map, List.map_map]
    rfl
  rw [names _ all, names _ known, keys]

theorem reports {history : List Op} (known : ∀ l ∈ recorded history, l ∈ declared) :
    Reports history where
  value l := Registry.value?_after l history
  line l hl n := sampleLine_mem_iff known hl n
  only line there := by
    obtain ⟨-, help⟩ | ⟨-, type⟩ | ⟨l, shows, sample⟩ := (mem_render_iff known).1 there
    · exact .inl help
    · exact .inr (.inl type)
    · exact .inr (.inr ⟨l, declared_of_shows known shows, sample⟩)
  kept l n found := by
    rw [Registry.after_describe, Registry.value?_describe, found]
    split <;> rfl
  closed described later more := shown_after_append known described more

end CallGate.Metrics

namespace CallGate

variable {σ Req Resp In Out ρ : Type}

theorem Entry.kind_ne_handshake (entry : Entry) : entry.kind ≠ .handshake := by
  cases entry <;> decide

namespace Gate

/-- Whatever a decision counts is declared: it counts a handshake only of passwords. -/
theorem Course.attempts_declared {g : Gate σ} {entry : Entry} {method : Method} {m : Metadata} {s : σ}
    {d : Decision σ} (h : g.Course entry method m s d) :
    d.trace.attempts = [] ∨
      ∃ a, Metrics.labels a ∈ Metrics.declared ∧ d.trace.attempts = [a] := by
  have declared {a : Attempt} (counted : a.scheme = .basicBearer ∨ a.kind ≠ .handshake) :
      Metrics.labels a ∈ Metrics.declared := Metrics.mem_declared_iff.2 ⟨a, counted, rfl⟩
  cases h with
  | waved | unreadable => exact .inl rfl
  | unmet => exact .inr ⟨_, declared (.inl rfl), rfl⟩
  | @accepted scheme c =>
    refine .inr ⟨⟨scheme, entry.kind, true⟩, ?_, by cases c <;> rfl⟩
    exact declared (.inr entry.kind_ne_handshake)
  | @refused scheme c =>
    refine .inr ⟨⟨scheme, entry.kind, false⟩, ?_, by cases c <;> rfl⟩
    exact declared (.inr entry.kind_ne_handshake)
  | barred | issued | unsendable => exact .inr ⟨_, declared (.inl rfl), rfl⟩

theorem declared_serveAll (g : Gate σ) (calls : List (Call Req Resp In Out ρ)) (s : σ) :
    ∀ a ∈ (g.serveAll calls s).trace.attempts, Metrics.labels a ∈ Metrics.declared := by
  intro a ha
  rw [serveAll_trace, Trace.attempts, List.filterMap_flatMap, List.mem_flatMap] at ha
  obtain ⟨v, -, counted⟩ := ha
  have counted : a ∈ (g.attend v).trace.attempts := counted
  rw [attempts_attend] at counted
  obtain none | ⟨b, declared, one⟩ := (g.judge_course v).attempts_declared
  · rw [none] at counted
    cases counted
  · rw [one, List.mem_singleton] at counted
    rwa [counted]

/-- A history that records what a run counts, up to any point, and describes the metric wherever it
likes: every series has the number of its recordings and nothing is ever counted that a description does
not declare, so after the first description the text has the same series for good. -/
theorem serveAll_reported (g : Gate σ) (calls : List (Call Req Resp In Out ρ)) (s : σ)
    {history : List Metrics.Op}
    (records : Metrics.recorded history <+:
      (g.serveAll calls s).trace.attempts.map Metrics.labels) :
    (∀ a ∈ (g.serveAll calls s).trace.attempts, Metrics.labels a ∈ Metrics.declared) ∧
      Metrics.Reports history := by
  have declared := g.declared_serveAll calls s
  refine ⟨declared, Metrics.reports ?_⟩
  intro l hl
  obtain ⟨a, ha, rfl⟩ := List.mem_map.1 (records.subset hl)
  exact declared a ha

/-- The metric is described between the two calls of a run and after them. -/
theorem serveAll_reported_solo :
    let signedIn : Metrics.Labels := ⟨"basic_bearer", "handshake", "success"⟩
    let served : Metrics.Labels := ⟨"basic_bearer", "unary", "success"⟩
    let history : List Metrics.Op := [.record signedIn, .describe, .record served, .describe]
    Metrics.recorded history <+: ((soloGate "t").serveAll
        [soloHandshake, soloUnary (Bytes.ofText "Bearer t")] {}).trace.attempts.map Metrics.labels ∧
      Metrics.sampleLine served 1 ∈ (Metrics.Registry.after history).render ∧
      Metrics.sampleLine ⟨"handshake", "stream", "rejected"⟩ 0 ∈
        (Metrics.Registry.after history).render := by
  intro signedIn served history
  have records : Metrics.recorded history <+: ((soloGate "t").serveAll
      [soloHandshake, soloUnary (Bytes.ofText "Bearer t")] {}).trace.attempts.map Metrics.labels :=
    ⟨[], rfl⟩
  have reports : Metrics.Reports history := (serveAll_reported (soloGate "t") _ {} records).2
  refine ⟨records, (reports.line _ (by decide) 1).2 ?_, (reports.line _ (by decide) 0).2 ?_⟩
  · exact ⟨.inl (by decide), rfl⟩
  · exact ⟨.inr ⟨by decide, by decide⟩, rfl⟩

end Gate
end CallGate
