import CallGate.Config
import CallGate.Proofs.Spelling

/-! Settings are read from five variables and from no other. Only the name of a mode that nobody knows
is refused; settings with a suffix are read back from the variables that they are written to. -/

namespace CallGate

/-- The names that a mode is read from. -/
def Mode.names : Mode → List String
  | .none => ["none"]
  | .handshake => ["handshake"]
  | .basicBearer => ["basic_bearer", "basic-bearer", "bearer"]

/-- Amid white space, the text is one of the mode's names in lower case. -/
def Mode.IsNamedBy (m : Mode) (text : String) : Prop :=
  ∃ core, Text.IsTrimmed text.toList core ∧ ∃ name ∈ m.names, Text.lowercase core = name.toList

namespace Mode

theorem ofName?_eq_some_iff {name : String} {m : Mode} : ofName? name = some m ↔ name ∈ m.names := by
  constructor
  · intro h
    unfold ofName? at h
    split at h <;> cases h <;> simp [names]
  · intro h
    cases m <;> simp only [names, List.mem_cons, List.not_mem_nil, or_false] at h
    case none | handshake => subst h; rfl
    case basicBearer => rcases h with rfl | rfl | rfl <;> rfl

theorem isNamedBy_iff {m : Mode} {text : String} : m.IsNamedBy text ↔ normalize text ∈ m.names := by
  constructor
  · rintro ⟨core, trimmed, name, mem, lower⟩
    rw [normalize, ← trimmed.eq_trim, lower, String.ofList_toList]
    exact mem
  · intro mem
    exact ⟨_, Text.isTrimmed_trim _, _, mem, by rw [normalize, String.toList_ofList]⟩

theorem parse_eq_ok_iff {text : String} {m : Mode} : parse text = .ok m ↔ m.IsNamedBy text := by
  rw [isNamedBy_iff, ← ofName?_eq_some_iff, parse]
  cases ofName? (normalize text) <;> simp

theorem parse_eq_error_iff {text : String} {e : ConfigError} :
    parse text = .error e ↔ (∀ m : Mode, ¬ m.IsNamedBy text) ∧ e = .unknownMode (normalize text) := by
  simp only [isNamedBy_iff, ← ofName?_eq_some_iff, parse]
  cases ofName? (normalize text) <;> simp [eq_comm]

/-- A mode is read back from its own name. -/
theorem isNamedBy_name {m n : Mode} : m.IsNamedBy n.name ↔ m = n := by
  rw [isNamedBy_iff, ← ofName?_eq_some_iff]
  cases n <;> cases m <;> decide

end Mode

namespace Config

/-- The variables that settings are read from. -/
def variableNames : List String :=
  ["FLIGHT_AUTH_MODE", "FLIGHT_AUTH_HANDSHAKE_SUFFIX", "FLIGHT_AUTH_ALLOW_UNAUTHENTICATED",
   "LOG_FORMAT", "METRICS_ENABLED"]

section
variable (holds : String → String → Prop)

/-- A variable switches something on: its text in lower case is `true`. -/
def SwitchesOn (name : String) : Prop :=
  ∃ text, holds name text ∧ Text.lowercase text.toList = "true".toList

/-- The settings that go with what each variable holds. -/
structure Follows (c : Config) : Prop where
  mode : ∀ text, holds "FLIGHT_AUTH_MODE" text → c.mode.IsNamedBy text
  mode_unset : (∀ text, ¬ holds "FLIGHT_AUTH_MODE" text) → c.mode = .handshake
  suffix_ne_empty : c.suffix ≠ ""
  suffix : ∀ text, holds "FLIGHT_AUTH_HANDSHAKE_SUFFIX" text → text ≠ "" → c.suffix = text
  suffix_unset : (∀ text, holds "FLIGHT_AUTH_HANDSHAKE_SUFFIX" text → text = "") →
    c.suffix = defaultSuffix
  allowUnauthenticated : c.allowUnauthenticated = true ↔
    SwitchesOn holds "FLIGHT_AUTH_ALLOW_UNAUTHENTICATED"
  logFormat : ∀ text, holds "LOG_FORMAT" text → c.telemetry.logFormat = text
  logFormat_unset : (∀ text, ¬ holds "LOG_FORMAT" text) → c.telemetry.logFormat = "text"
  metrics : c.telemetry.metrics = true ↔ SwitchesOn holds "METRICS_ENABLED"

/-- An outcome of reading settings is an error just if the mode has a name that nobody knows, and else
the settings that go with the variables. -/
structure Exact (outcome : Except ConfigError Config) : Prop where
  refused_iff : ∀ e, outcome = .error e ↔ ∃ text, holds "FLIGHT_AUTH_MODE" text ∧
    (∀ m : Mode, ¬ m.IsNamedBy text) ∧ e = .unknownMode (Mode.normalize text)
  read_iff : ∀ c, outcome = .ok c ↔ Follows holds c

end

variable {lookup : String → Option String}

theorem load_eq_ok_iff_parse {c : Config} : load lookup = .ok c ↔
    Mode.parse ((lookup "FLIGHT_AUTH_MODE").getD "handshake") = .ok c.mode ∧
      ((lookup "FLIGHT_AUTH_HANDSHAKE_SUFFIX").filter (· ≠ "")).getD defaultSuffix = c.suffix ∧
      ((lookup "FLIGHT_AUTH_ALLOW_UNAUTHENTICATED").map isOn).getD false = c.allowUnauthenticated ∧
      (lookup "LOG_FORMAT").getD "text" = c.telemetry.logFormat ∧
      ((lookup "METRICS_ENABLED").map isOn).getD false = c.telemetry.metrics := by
  obtain ⟨mode, suffix, allow, format, metrics⟩ := c
  unfold load
  cases Mode.parse ((lookup "FLIGHT_AUTH_MODE").getD "handshake") with
  | error e => exact ⟨nofun, fun h => nomatch h.1⟩
  | ok m =>
    show Except.ok _ = Except.ok _ ↔ _
    simp only [Except.ok.injEq, Config.mk.injEq, TelemetryConfig.mk.injEq]

theorem load_eq_error_iff_parse {e : ConfigError} : load lookup = .error e ↔
    Mode.parse ((lookup "FLIGHT_AUTH_MODE").getD "handshake") = .error e := by
  unfold load
  cases Mode.parse ((lookup "FLIGHT_AUTH_MODE").getD "handshake") with
  | error cause =>
    show (Except.error cause : Except ConfigError Config) = .error e ↔ _
    simp only [Except.error.injEq]
  | ok m => exact ⟨nofun, nofun⟩

theorem parse_getD_eq_ok_iff {m : Mode} {text? : Option String} :
    Mode.parse (text?.getD "handshake") = .ok m ↔
      (∀ text, text? = some text → m.IsNamedBy text) ∧
        ((∀ text, text? ≠ some text) → m = .handshake) := by
  cases text? with
  | none =>
    have own : Mode.parse "handshake" = .ok m ↔ m = .handshake :=
      Mode.parse_eq_ok_iff.trans (Mode.isNamedBy_name (n := .handshake))
    simpa using own
  | some text => simpa using Mode.parse_eq_ok_iff

theorem filter_getD_eq_iff {suffix : String} {text? : Option String} :
    (text?.filter (· ≠ "")).getD defaultSuffix = suffix ↔
      suffix ≠ "" ∧ (∀ text, text? = some text → text ≠ "" → suffix = text) ∧
        ((∀ text, text? = some text → text = "") → suffix = defaultSuffix) := by
  have nonempty : defaultSuffix ≠ "" := by decide
  cases text? with
  | none => grind
  | some text => by_cases empty : text = "" <;> grind

theorem isOn_getD_eq_iff {on : Bool} {name : String} :
    ((lookup name).map isOn).getD false = on ↔
      (on = true ↔ SwitchesOn (fun name text => lookup name = some text) name) := by
  have switches : ((lookup name).map isOn).getD false = true ↔
      SwitchesOn (fun name text => lookup name = some text) name := by
    cases found : lookup name <;> simp [SwitchesOn, isOn, found]
  rw [← switches]
  cases on <;> cases ((lookup name).map isOn).getD false <;> simp

theorem getD_eq_iff {format default : String} {text? : Option String} :
    text?.getD default = format ↔ (∀ text, text? = some text → format = text) ∧
      ((∀ text, text? ≠ some text) → format = default) := by
  cases text? <;> simp [eq_comm]

/-- Settings are what the variables ask for, and these are the only ones. -/
theorem load_eq_ok_iff {c : Config} :
    load lookup = .ok c ↔ Follows (fun name text => lookup name = some text) c := by
  rw [load_eq_ok_iff_parse, parse_getD_eq_ok_iff, filter_getD_eq_iff, isOn_getD_eq_iff,
    getD_eq_iff, isOn_getD_eq_iff]
  constructor
  · rintro ⟨⟨mode, unset⟩, ⟨nonempty, suffix, default⟩, allow, ⟨format, plain⟩, metrics⟩
    exact ⟨mode, unset, nonempty, suffix, default, allow, format, plain, metrics⟩
  · rintro ⟨mode, unset, nonempty, suffix, default, allow, format, plain, metrics⟩
    exact ⟨⟨mode, unset⟩, ⟨nonempty, suffix, default⟩, allow, ⟨format, plain⟩, metrics⟩

/-- Only an unknown mode is an error; a mode that is not set is known. -/
theorem load_eq_error_iff {e : ConfigError} : load lookup = .error e ↔
    ∃ text, lookup "FLIGHT_AUTH_MODE" = some text ∧
      (∀ m : Mode, ¬ m.IsNamedBy text) ∧ e = .unknownMode (Mode.normalize text) := by
  rw [load_eq_error_iff_parse]
  cases lookup "FLIGHT_AUTH_MODE" with
  | none =>
    have known : Mode.parse "handshake" = .ok .handshake :=
      Mode.parse_eq_ok_iff.2 (Mode.isNamedBy_name.2 rfl)
    simp [known]
  | some text => simpa using Mode.parse_eq_error_iff

theorem exact_load (lookup : String → Option String) :
    Exact (fun name text => lookup name = some text) (load lookup) :=
  ⟨fun _ => load_eq_error_iff, fun _ => load_eq_ok_iff⟩

theorem exact_ofOctets (env : List (String × Bytes)) :
    Exact (fun name text => env.lookup name = some (Bytes.ofText text)) (ofOctets env) := by
  have holds : (fun name text => env.lookup name = some (Bytes.ofText text)) =
      fun name text => (env.lookup name).bind Bytes.text? = some text := by
    funext name text
    simp [Option.bind_eq_some_iff, Bytes.text?_eq_some_iff]
  rw [holds]
  exact exact_load _

theorem load_congr {other : String → Option String}
    (same : ∀ name ∈ variableNames, other name = lookup name) : load other = load lookup := by
  simp only [variableNames, List.forall_mem_cons] at same
  obtain ⟨mode, suffix, allow, format, metrics, -⟩ := same
  simp only [load, mode, suffix, allow, format, metrics]

/-- The variables in octets. -/
def inOctets (env : Environment) : List (String × Bytes) := env.map fun v => (v.1, Bytes.ofText v.2)

theorem ofOctets_inOctets (env : Environment) : ofOctets (inOctets env) = ofEnvironment env := by
  have found (name : String) :
      (List.lookup name (inOctets env)).bind Bytes.text? = List.lookup name env := by
    induction env with
    | nil => rfl
    | cons v env ih =>
      obtain ⟨key, text⟩ := v
      simp only [inOctets, List.map_cons, List.lookup_cons] at ih ⊢
      split
      · simp
      · exact ih
  unfold ofOctets ofEnvironment
  exact congrArg load (funext found)

theorem switchesOn_flagText {on : Bool} {holds : String → String → Prop} {name : String}
    (holds_iff : ∀ text, holds name text ↔ text = flagText on) : on = true ↔ SwitchesOn holds name := by
  simp only [SwitchesOn, holds_iff, exists_eq_left]
  cases on <;> decide

/-- Settings are read back from the variables that they are written to, if they have a suffix. -/
theorem ofEnvironment_toEnvironment_iff {c : Config} :
    ofEnvironment c.toEnvironment = .ok c ↔ c.suffix ≠ "" := by
  have mode : c.toEnvironment.lookup "FLIGHT_AUTH_MODE" = some c.mode.name := rfl
  have suffix : c.toEnvironment.lookup "FLIGHT_AUTH_HANDSHAKE_SUFFIX" = some c.suffix := rfl
  have allow : c.toEnvironment.lookup "FLIGHT_AUTH_ALLOW_UNAUTHENTICATED" =
    some (flagText c.allowUnauthenticated) := rfl
  have format : c.toEnvironment.lookup "LOG_FORMAT" = some c.telemetry.logFormat := rfl
  have metrics : c.toEnvironment.lookup "METRICS_ENABLED" = some (flagText c.telemetry.metrics) := rfl
  rw [ofEnvironment, load_eq_ok_iff]
  constructor
  · exact Follows.suffix_ne_empty
  · intro nonempty
    exact {
      mode := by simp [mode, Mode.isNamedBy_name]
      mode_unset := by simp [mode]
      suffix_ne_empty := nonempty
      suffix := by simp [suffix]
      suffix_unset := by simp [suffix, nonempty]
      allowUnauthenticated := switchesOn_flagText (by simp [allow, eq_comm])
      logFormat := by simp [format]
      logFormat_unset := by simp [format]
      metrics := switchesOn_flagText (by simp [metrics, eq_comm]) }

/-- No white space and no foreign letter lets a text pass for `true`. -/
theorem lowercase_eq_true_iff {text : String} : Text.lowercase text.toList = "true".toList ↔
    text.toList.map Char.toLower = "true".toList := by
  have letters : "true".toList = ['t', 'r', 'u', 'e'] := rfl
  rw [letters]
  exact Text.lowercase_eq_iff (by simp) (by simp)

/-- Settings are what the variables ask for; octets that are no text leave their variable unset, and a
variable of another name is not looked at. Only a mode that nobody knows is an error. Nothing but `true`,
in capitals or not, switches something on. -/
theorem settings_exact (lookup : String → Option String) (env : List (String × Bytes)) (c : Config) :
    Exact (fun name text => lookup name = some text) (load lookup) ∧
      Exact (fun name text => env.lookup name = some (Bytes.ofText text)) (ofOctets env) ∧
      (∀ other : String → Option String,
        (∀ name ∈ variableNames, other name = lookup name) → load other = load lookup) ∧
      (∀ other : List (String × Bytes),
        (∀ name ∈ variableNames, other.lookup name = env.lookup name) →
          ofOctets other = ofOctets env) ∧
      (ofEnvironment c.toEnvironment = .ok c ↔ c.suffix ≠ "") ∧
      (ofOctets (inOctets c.toEnvironment) = .ok c ↔ c.suffix ≠ "") ∧
      ∀ text : String, Text.lowercase text.toList = "true".toList ↔
        text.toList.map Char.toLower = "true".toList := by
  refine ⟨exact_load lookup, exact_ofOctets env, fun _ => load_congr, ?_, ofEnvironment_toEnvironment_iff,
    ?_, fun _ => lowercase_eq_true_iff⟩
  · intro other same
    refine load_congr fun name mem => ?_
    rw [same name mem]
  · rw [ofOctets_inOctets]
    exact ofEnvironment_toEnvironment_iff

/-- White space of any script may stand around a mode, and a Kelvin sign in it, but no space at a flag. -/
example : Mode.parse "\u3000Handsha\u212Ae " = .ok .handshake ∧
    isOn "TRUE" = true ∧ isOn "true " = false := by decide +kernel

end Config
end CallGate
