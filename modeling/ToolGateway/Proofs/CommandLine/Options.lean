import ToolGateway.CommandLine.Options
import ToolGateway.Proofs.Members
import ToolGateway.Proofs.Settings.Keys

/-!
# Flags of the command line

A flag is an option with its value, in one argument or in two (`Written`). Flags of different options
whose values suit them are understood, and each option then has the text of its flag (`parse_written`).
Over loaded settings they are laid one by one: a setting that an option chooses is what the option's text
is read as, and all others stay as loaded (`of_applyTo`).
-/

namespace ToolGateway

namespace Options

/-- The text that an option was given. -/
def text? (options : Options) (name : String) : Option String :=
  if name = "definition" then options.definition
  else if name = "backend" then options.backend.map BackendKind.name
  else if name = "grpc-endpoint" then options.grpcEndpoint
  else if name = "config" then options.config
  else if name = "log-level" then options.logLevel
  else if name = "name" then options.name
  else .none

/-- A text is a value for an option: files have a name, and backends are called by theirs. -/
inductive Suits : String → String → Prop where
  | definition {value : String} (filled : value.isEmpty = false) : Suits "definition" value
  | backend (kind : BackendKind) : Suits "backend" kind.name
  | endpoint {value : String} : Suits "grpc-endpoint" value
  | config {value : String} (filled : value.isEmpty = false) : Suits "config" value
  | logLevel {value : String} : Suits "log-level" value
  | name {value : String} : Suits "name" value

/-- Arguments are these flags, one after the other. -/
inductive Written : List String → List (String × String) → Prop where
  | done : Written [] []
  | ended : Written ["--"] []
  | joined {name value : String} {rest : List String} {flags : List (String × String)}
      (more : Written rest flags) :
      Written (("--" ++ name ++ "=" ++ value) :: rest) ((name, value) :: flags)
  | apart {name value : String} {rest : List String} {flags : List (String × String)}
      (free : isValue value = true) (more : Written rest flags) :
      Written (("--" ++ name) :: value :: rest) ((name, value) :: flags)

variable {options : Options} {name value : String}

theorem fileName?_of_filled (filled : value.isEmpty = false) : fileName? value = some value := by
  rw [fileName?, filled]
  rfl

theorem lookup_name (kind : BackendKind) : BackendKind.byName.lookup kind.name = some kind := by
  cases kind <;> decide +kernel

/-- Options after a flag: the option of the flag has its text, and no other option has changed. -/
structure After (options more : Options) (name value : String) : Prop where
  own : more.text? name = some value
  others : ∀ other, other ≠ name → more.text? other = options.text? other

/-- A flag of an option that was not given before is taken. -/
theorem exists_set (suits : Suits name value) (fresh : options.text? name = .none) :
    ∃ more, options.set name value = some more ∧ options.After more name value := by
  obtain ⟨definition, backend, endpoint, config, level, called⟩ := options
  cases suits with
  | definition filled =>
    obtain rfl : definition = .none := fresh
    refine ⟨⟨some value, backend, endpoint, config, level, called⟩, ?_, rfl,
      fun other different => ?_⟩
    · show (setOnce .none (fileName? value)).map _ = _
      rw [fileName?_of_filled filled]
      rfl
    · simp only [text?, if_neg different]
  | backend kind =>
    obtain rfl : backend = .none := Option.map_eq_none_iff.mp fresh
    refine ⟨⟨definition, some kind, endpoint, config, level, called⟩, ?_, rfl,
      fun other different => ?_⟩
    · show (setOnce .none (BackendKind.byName.lookup kind.name)).map _ = _
      rw [lookup_name]
      rfl
    · simp only [text?, if_neg different]
  | config filled =>
    obtain rfl : config = .none := fresh
    refine ⟨⟨definition, backend, endpoint, some value, level, called⟩, ?_, rfl,
      fun other different => ?_⟩
    · show (setOnce .none (fileName? value)).map _ = _
      rw [fileName?_of_filled filled]
      rfl
    · simp only [text?, if_neg different]
  | endpoint =>
    obtain rfl : endpoint = .none := fresh
    exact ⟨_, rfl, rfl, fun other different => by simp only [text?, if_neg different]⟩
  | logLevel =>
    obtain rfl : level = .none := fresh
    exact ⟨_, rfl, rfl, fun other different => by simp only [text?, if_neg different]⟩
  | name =>
    obtain rfl : called = .none := fresh
    exact ⟨_, rfl, rfl, fun other different => by simp only [text?, if_neg different]⟩

/-! ## Arguments -/

/-- An option has a name, without an equals sign in it. -/
theorem Suits.name_chars (suits : Suits name value) :
    name.toList ≠ [] ∧ ∀ c ∈ name.toList, c ≠ '=' := by
  cases suits <;> simp

theorem split?_dashes {c : Char} {rest : List Char} {argument : String}
    (spelt : argument.toList = '-' :: '-' :: c :: rest) : split? argument =
      match (c :: rest).drop ((c :: rest).takeWhile (· != '=')).length with
      | _ :: value =>
        some (String.ofList ((c :: rest).takeWhile (· != '=')), some (String.ofList value))
      | [] => some (String.ofList ((c :: rest).takeWhile (· != '=')), .none) := by
  rw [split?, spelt]
  rfl

/-- The argument of a flag with its value behind an equals sign. -/
theorem split?_joined (suits : Suits name value) :
    split? ("--" ++ name ++ "=" ++ value) = some (name, some value) := by
  obtain ⟨filled, plain⟩ := suits.name_chars
  obtain ⟨c, rest, spelt⟩ := List.exists_cons_of_ne_nil filled
  have kept : ∀ d ∈ c :: rest, (d != '=') = true := by
    simpa [← spelt] using plain
  have taken : ((c :: rest) ++ '=' :: value.toList).takeWhile (· != '=') = c :: rest := by
    rw [List.takeWhile_append_of_pos kept]
    simp
  have written : ("--" ++ name ++ "=" ++ value).toList =
      '-' :: '-' :: c :: (rest ++ '=' :: value.toList) := by
    simp [String.toList_append, spelt]
  rw [split?_dashes written]
  rw [List.cons_append] at taken
  rw [taken, ← List.cons_append, List.drop_left]
  simp [← spelt]

/-- The argument of a flag whose value is the next argument. -/
theorem split?_apart (suits : Suits name value) : split? ("--" ++ name) = some (name, .none) := by
  obtain ⟨filled, plain⟩ := suits.name_chars
  obtain ⟨c, rest, spelt⟩ := List.exists_cons_of_ne_nil filled
  have whole : ∀ d ∈ c :: rest, (d != '=') = true := by
    simpa [← spelt] using plain
  have kept : (c :: rest).takeWhile (· != '=') = c :: rest := by
    rw [← List.append_nil (c :: rest), List.takeWhile_append_of_pos whole, List.takeWhile_nil]
  have written : ("--" ++ name).toList = '-' :: '-' :: c :: rest := by
    simp [String.toList_append, spelt]
  rw [split?_dashes written, kept, List.drop_length]
  simp [← spelt]

/-- An argument with a name is not the end of the flags. -/
theorem flag_ne_dashes {argument : String} {flag : String × Option String}
    (named : split? argument = some flag) : argument ≠ "--" := by
  rintro rfl
  cases named

/-- Arguments are understood as flags: options that have none of the flags yet are given the text of
each, and all other options stay as they are. -/
def Understood (arguments : List String) (flags : List (String × String)) : Prop :=
  ∀ options : Options, (∀ flag ∈ flags, options.text? flag.1 = .none) →
    ∃ more, parseFrom arguments options = some more ∧
      ∀ name, more.text? name = (Members.find? flags name).or (options.text? name)

/-- A flag is taken before others that are understood. -/
theorem Understood.exists_bind_set {flags : List (String × String)} {rest : List String}
    (understood : Understood rest flags) (suits : Suits name value)
    (single : name ∉ Members.names flags)
    (fresh : ∀ flag ∈ (name, value) :: flags, options.text? flag.1 = .none) :
    ∃ more, (options.set name value).bind (parseFrom rest) = some more ∧ ∀ other,
      more.text? other = (Members.find? ((name, value) :: flags) other).or (options.text? other) := by
  obtain ⟨unset, others⟩ := List.forall_mem_cons.mp fresh
  obtain ⟨next, taken, after⟩ := exists_set suits unset
  have stillFresh : ∀ flag ∈ flags, next.text? flag.1 = .none := by
    intro flag listed
    have different : flag.1 ≠ name := by
      rintro rfl
      exact single (List.mem_map_of_mem listed)
    rw [after.others _ different, others flag listed]
  obtain ⟨more, parsed, texts⟩ := understood next stillFresh
  refine ⟨more, by rw [taken, Option.bind_some, parsed], fun other => ?_⟩
  rw [texts, Members.find?]
  by_cases same : name = other
  · subst same
    rw [if_pos rfl, Members.find?_of_not_mem single, after.own]
    rfl
  · rw [if_neg same, after.others other (Ne.symm same)]

/-- Flags of different options are understood, if their values suit them. -/
theorem understood_of_written {arguments : List String} {flags : List (String × String)}
    (written : Written arguments flags) (differ : (Members.names flags).Nodup)
    (suits : ∀ flag ∈ flags, Suits flag.1 flag.2) : Understood arguments flags := by
  induction written with
  | done => exact fun options _ => ⟨options, by rw [parseFrom], fun name => rfl⟩
  | ended => exact fun options _ => ⟨options, by simp [parseFrom], fun name => rfl⟩
  | joined more ih =>
    obtain ⟨single, differ⟩ := List.nodup_cons.mp differ
    obtain ⟨first, others⟩ := List.forall_mem_cons.mp suits
    intro options fresh
    have named := split?_joined first
    rw [parseFrom, if_neg (flag_ne_dashes named), named]
    exact (ih differ others).exists_bind_set first single fresh
  | apart free more ih =>
    obtain ⟨single, differ⟩ := List.nodup_cons.mp differ
    obtain ⟨first, others⟩ := List.forall_mem_cons.mp suits
    intro options fresh
    have named := split?_apart first
    rw [parseFrom, if_neg (flag_ne_dashes named), named]
    show ∃ more, (if isValue _ = true then _ else _) = some more ∧ _
    rw [if_pos free]
    exact (ih differ others).exists_bind_set first single fresh

/-- **Flags are understood.** Each option has the text of its flag, and those without a flag have none. -/
theorem parse_written {arguments : List String} {flags : List (String × String)}
    (written : Written arguments flags) (differ : (Members.names flags).Nodup)
    (suits : ∀ flag ∈ flags, Suits flag.1 flag.2) :
    ∃ options, parse arguments = some options ∧
      ∀ name, options.text? name = Members.find? flags name := by
  have unset : ∀ name, none.text? name = .none := by
    intro name
    simp [text?, none]
  obtain ⟨options, parsed, texts⟩ :=
    understood_of_written written differ suits none fun flag _ => unset flag.1
  refine ⟨options, parsed, fun name => ?_⟩
  rw [texts, unset, Option.or_none]

end Options

/-! ## Over loaded settings -/

namespace SettingKey

/-- The option that chooses a setting. -/
def option? : SettingKey → Option String
  | name => some "name"
  | logLevel => some "log-level"
  | definition => some "definition"
  | selection => none
  | backend => some "backend"
  | endpoint => some "grpc-endpoint"
  | timeout => none

/-- What the text of an option is read as by a setting. -/
def ofOption? : (key : SettingKey) → String → Option key.Value
  | name, text | definition, text => some (some text)
  | logLevel, text | endpoint, text => some text
  | backend, text => BackendKind.byName.lookup text
  | selection, _ | timeout, _ => none

/-- **Options are laid over settings one by one.** -/
theorem of_applyTo (key : SettingKey) (options : Options) (settings : Settings) :
    some (key.of (options.applyTo settings)) =
      match key.option?.bind options.text? with
      | some text => key.ofOption? text
      | none => some (key.of settings) := by
  obtain ⟨definition, backend, endpoint, config, level, called⟩ := options
  cases key with
  | name => cases called <;> rfl
  | logLevel => cases level <;> rfl
  | definition => cases definition <;> rfl
  | selection => rfl
  | backend =>
    cases backend with
    | none => rfl
    | some kind => exact (Options.lookup_name kind).symm
  | endpoint => cases endpoint <;> rfl
  | timeout => rfl

end SettingKey

end ToolGateway
