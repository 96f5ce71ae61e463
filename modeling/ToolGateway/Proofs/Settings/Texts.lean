import ToolGateway.Proofs.Settings.Environment
import ToolGateway.Proofs.Settings.Printed

/-!
# Strings from the environment

Four settings are strings: the name of the server, its log level, the path of the definition and the
endpoint. A string that is given for one of them in a file or in an argument is the value of the setting
as it stands. One that is given in the environment should be as well (`ArrivesUnchanged`), but it is
guessed to be a value first, and what arrives is the value in its printed form (`arrivesAs`). So it
arrives unchanged exactly if it is printed as it was written (`arrivesUnchanged_iff`): the text `007`
arrives as `7`.
-/

namespace ToolGateway

namespace SettingKey

/-- A setting that is a string. -/
inductive Textual : SettingKey → Prop where
  | name : Textual name
  | logLevel : Textual logLevel
  | definition : Textual definition
  | endpoint : Textual endpoint

/-- The string that a setting has. -/
def text? : SettingKey → Settings → Option String
  | name, settings => settings.server.name
  | logLevel, settings => some settings.server.logLevel
  | definition, settings => settings.definition.path
  | endpoint, settings => some settings.backend.grpcEndpoint
  | selection, _ | backend, _ | timeout, _ => none

/-- Two environments of which the second has a text for a setting, and both have the same for all other
settings. -/
structure SetTo (key : SettingKey) (text : String) (before after : List (String × String)) : Prop where
  documented : Documented before
  stillDocumented : Documented after
  here : Members.find? after key.variableName = some text
  elsewhere : ∀ other : SettingKey, other ≠ key →
    Members.find? after other.variableName = Members.find? before other.variableName

/-- A text in the variable of a setting arrives as another: if settings are loaded without it, they are
loaded with it, and whenever they are loaded with it, the setting has the other text. It does not matter
what stands in the file or in the other variables. -/
structure ArrivesAs (key : SettingKey) (text arriving : String) : Prop where
  loads : ∀ content file before after settings, key.SetTo text before after →
    Settings.load content file before = .ok settings →
      ∃ settings, Settings.load content file after = .ok settings
  kept : ∀ content file environment settings, Documented environment →
    Members.find? environment key.variableName = some text →
      Settings.load content file environment = .ok settings → key.text? settings = some arriving

end SettingKey

/-! ## What a setting makes of a guessed value -/

namespace SettingValue

/-- A guessed value is printed in some way: it is no table and no array. -/
theorem exists_asText?_guess (text : String) : ∃ printed, asText? (guess text) = some printed := by
  have form : GuessedAs text (guess text) := guess_eq_iff.mp rfl
  generalize guess text = value at form
  cases form <;> exact ⟨_, rfl⟩

theorem asOptional?_guess (text : String) :
    asOptional? asText? (guess text) = some (asText? (guess text)) := by
  have form : GuessedAs text (guess text) := guess_eq_iff.mp rfl
  generalize guess text = value at form
  cases form <;> rfl

end SettingValue

namespace SettingKey

open SettingValue

variable {key : SettingKey} {text arriving : String} {layer : SettingLayer}

/-- A setting that is a string comes to something, whatever its text is guessed to be. -/
theorem exists_settle?_of_guess (textual : key.Textual)
    (given : layer.held? key.table key.entry = some (guess text)) :
    ∃ value, layer.settle? key = some value := by
  rw [SettingLayer.settle?, settleIn, given]
  cases textual with
  | name | definition => exact ⟨_, asOptional?_guess text⟩
  | logLevel | endpoint => exact exists_asText?_guess text

/-- It comes to the printed form of what its text is guessed to be. -/
theorem text?_of_guess (textual : key.Textual)
    (given : layer.held? key.table key.entry = some (guess text)) {settings : Settings}
    (settled : layer.settle? key = some (key.of settings)) :
    key.text? settings = asText? (guess text) := by
  rw [SettingLayer.settle?, settleIn, given] at settled
  cases textual with
  | name | definition => exact (Option.some.inj ((asOptional?_guess text).symm.trans settled)).symm
  | logLevel | endpoint => exact settled.symm

/-! ## What arrives -/

variable {before after : List (String × String)}

/-- A variable changes its own setting alone. -/
theorem SetTo.settle?_of_ne (set : key.SetTo text before after) (below : SettingLayer)
    {other : SettingKey} (different : other ≠ key) :
    ((SettingLayer.ofEnvironment after).overlay below).settle? other =
      ((SettingLayer.ofEnvironment before).overlay below).settle? other := by
  rw [SettingLayer.settle?, settleIn, SettingLayer.settle?, settleIn,
    SettingLayer.held?_overlay_environment set.stillDocumented,
    SettingLayer.held?_overlay_environment set.documented, set.elsewhere other different]

/-- A table has a variable in it, or stays as it is without the variable that is set. -/
theorem SetTo.find?_or_tableAt (set : key.SetTo text before after) (below : SettingLayer)
    (table : String) :
    Members.find? ((SettingLayer.ofEnvironment after).overlay below) table =
        Members.find? ((SettingLayer.ofEnvironment before).overlay below) table ∨
      ((SettingLayer.ofEnvironment after).overlay below).TableAt table := by
  by_cases unset : ∀ other : SettingKey, other.table = table →
      Members.find? after other.variableName = none
  · -- what the file has there need not be a table, but neither environment touches it
    left
    rw [SettingLayer.find?_overlay_environment set.stillDocumented unset,
      SettingLayer.find?_overlay_environment set.documented]
    intro other inside
    have different : other ≠ key := by
      rintro rfl
      have absent := unset other inside
      rw [set.here] at absent
      cases absent
    rw [← set.elsewhere other different, unset other inside]
  · right
    simp only [Classical.not_forall] at unset
    obtain ⟨other, rfl, given⟩ := unset
    obtain ⟨text, given⟩ := Option.ne_none_iff_exists'.mp given
    exact SettingLayer.tableAt_overlay_variable set.stillDocumented given below

/-- **What arrives** of a text is what it is guessed to be, as this is printed. -/
theorem arrivesAs (textual : key.Textual) (printed : asText? (guess text) = some arriving) :
    key.ArrivesAs text arriving where
  kept content file environment settings documented given loaded := by
    obtain ⟨layer, -, made⟩ := Settings.load_eq_ok_iff.mp loaded
    have entry := SettingLayer.held?_overlay_environment documented (layer.overlay []) key
    have tables := SettingLayer.tableAt_overlay_variable documented given (layer.overlay [])
    rw [given, Option.map_some, Option.some_or] at entry
    rw [text?_of_guess textual entry (Settings.settle?_of_ofLayer? made tables), printed]
  loads content file before after settings set loaded := by
    obtain ⟨layer, read, made⟩ := Settings.load_eq_ok_iff.mp loaded
    have settled : ∀ other, ∃ value, ((SettingLayer.ofEnvironment after).overlay
        (layer.overlay [])).settle? other = some value := by
      intro other
      by_cases same : other = key
      · subst same
        have entry := SettingLayer.held?_overlay_environment set.stillDocumented
          (layer.overlay []) other
        rw [set.here, Option.map_some, Option.some_or] at entry
        exact exists_settle?_of_guess textual entry
      · rw [set.settle?_of_ne _ same]
        exact Settings.exists_settle?_of_ofLayer? made other
    obtain ⟨settings, made⟩ := Settings.exists_ofLayer?_of_ofLayer? made
      (fun other => set.find?_or_tableAt _ other.table) settled
    exact ⟨settings, Settings.load_eq_ok_iff.mpr ⟨layer, read, made⟩⟩

/-- A text arrives as one text only: without a file, and with no other variable, settings are loaded. -/
theorem ArrivesAs.unique {other : String} (one : key.ArrivesAs text arriving)
    (another : key.ArrivesAs text other) : arriving = other := by
  have documented : Documented [(key.variableName, text)] := by
    refine ⟨List.nodup_cons.mpr ⟨nofun, List.nodup_nil⟩, fun assigned listed => .inl ⟨key, ?_⟩⟩
    rw [List.mem_singleton.mp listed]
  have given : Members.find? [(key.variableName, text)] key.variableName = some text := if_pos rfl
  have set : key.SetTo text [] [(key.variableName, text)] := by
    refine ⟨⟨List.nodup_nil, nofun⟩, documented, given, fun other different => if_neg ?_⟩
    exact fun same => different (variableName_inj same).symm
  obtain ⟨settings, loaded⟩ := one.loads (fun _ => .error .notFound) none _ _ _ set rfl
  have first := one.kept _ _ _ _ documented given loaded
  rw [another.kept _ _ _ _ documented given loaded] at first
  exact (Option.some.inj first).symm

/-! ## What arrives unchanged -/

/-- A text arrives as it is, in the variable of any setting that is a string. -/
def ArrivesUnchanged (text : String) : Prop :=
  ∀ key : SettingKey, key.Textual → key.ArrivesAs text text

/-- **A text arrives unchanged** exactly if it is no truth value and no number that is printed in another
way. -/
theorem arrivesUnchanged_iff (text : String) : ArrivesUnchanged text ↔ ¬ Rewritten text := by
  rw [← asText?_guess_eq_some_iff]
  constructor
  · intro unchanged
    obtain ⟨printed, same⟩ := exists_asText?_guess text
    rw [same, (unchanged .name .name).unique (arrivesAs .name same)]
  · exact fun printed key textual => arrivesAs textual printed

/-- The text `007` does not arrive unchanged. -/
theorem not_arrivesUnchanged_zeros : ¬ ArrivesUnchanged "007" := by
  intro unchanged
  have printed : asText? (guess "007") = some "7" := by decide +kernel
  have same := (unchanged .name .name).unique (arrivesAs .name printed)
  exact absurd same (by decide)

end SettingKey

end ToolGateway
