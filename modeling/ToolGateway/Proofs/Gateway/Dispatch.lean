import ToolGateway.Gateway.Dispatch
import ToolGateway.Proofs.Service.Names

/-!
# What a dispatched call does

A call of a listed tool either fails on its arguments, and then the backend is left alone, or it
fits the method of the tool, and then the backend is invoked once. `Method.Fits` says what the
arguments have to be like, field by field and in no order; `Tool.validate` checks just that. What it
finds wrong is a `Method.Misfit`, and of several the one declared first decides.
-/

namespace ToolGateway

/-- Whether the required fields are all there and those that are there are of their kinds. Names
that are no fields do not matter. -/
def Method.Fits (method : Method) (arguments : Json.Object) : Prop :=
  ∀ field ∈ method.fields,
    (method.isRequired field.name = true → (Members.find? arguments field.name).isSome = true) ∧
      ∀ value, Members.find? arguments field.name = some value → field.kind.accepts value = true

/-- What is wrong with a field in the arguments of a call, and the message that says so. -/
inductive Method.Misfit (method : Method) (arguments : Json.Object) (field : Field) :
    String → Prop where
  | missing (required : method.isRequired field.name = true)
      (absent : Members.find? arguments field.name = none) :
      Misfit method arguments field ("Missing required field " ++ field.name)
  | otherKind {value : Json} (given : Members.find? arguments field.name = some value)
      (other : field.kind.accepts value = false) :
      Misfit method arguments field
        ("Field " ++ field.name ++ " must be " ++ field.kind.name ++ ", got " ++ value.typeName)

/-- The field declared first of those with which something is wrong has this name and message. -/
def Method.FirstMisfit (method : Method) (arguments : Json.Object) (name message : String) : Prop :=
  ∃ before field after, method.fields = before ++ field :: after ∧ field.name = name ∧
    method.Misfit arguments field message ∧
    ∀ earlier ∈ before, ∀ other, ¬ method.Misfit arguments earlier other

/-- The arguments of a call as a value: no arguments and `null` both stand for the empty object. -/
def argumentValue : Option Json → Json
  | none | some .null => .object []
  | some value => value

namespace Tool

variable {tool : Tool}

theorem fieldFault?_eq_none_iff {arguments : Json.Object} {field : Field} :
    tool.fieldFault? arguments field = none ↔
      (tool.method.isRequired field.name = true →
        (Members.find? arguments field.name).isSome = true) ∧
      ∀ value, Members.find? arguments field.name = some value → field.kind.accepts value = true := by
  unfold fieldFault?
  cases Members.find? arguments field.name <;> simp

theorem fieldFault?_eq_some_iff {arguments : Json.Object} {field : Field} {error : GatewayError} :
    tool.fieldFault? arguments field = some error ↔
      ∃ message, tool.method.Misfit arguments field message ∧
        error = .invalidArguments tool.name (some field.name) message := by
  constructor
  · intro fault
    unfold fieldFault? at fault
    split at fault
    next absent =>
      split at fault
      next required => exact ⟨_, .missing required absent, (Option.some.inj fault).symm⟩
      next => cases fault
    next value given =>
      split at fault
      next => cases fault
      next other =>
        exact ⟨_, .otherKind given (Bool.eq_false_iff.mpr other), (Option.some.inj fault).symm⟩
  · rintro ⟨message, misfit, rfl⟩
    cases misfit with
    | missing required absent => simp [fieldFault?, required, absent]
    | otherKind given other => simp [fieldFault?, given, other]

theorem validate_eq_ok_iff {arguments : Json.Object} :
    tool.validate arguments = .ok () ↔ tool.method.Fits arguments := by
  have faultless : tool.method.fields.findSome? (tool.fieldFault? arguments) = none ↔
      tool.method.Fits arguments := by
    simp only [List.findSome?_eq_none_iff, fieldFault?_eq_none_iff, Method.Fits]
  rw [← faultless, validate]
  split
  next found => simp [found]
  next found => simp [found]

/-- Arguments are refused for their first misfit, and for nothing else. -/
theorem validate_eq_error_iff {arguments : Json.Object} {error : GatewayError} :
    tool.validate arguments = .error error ↔
      ∃ name message, tool.method.FirstMisfit arguments name message ∧
        error = .invalidArguments tool.name (some name) message := by
  have faultless : ∀ {field}, tool.fieldFault? arguments field = none ↔
      ∀ message, ¬ tool.method.Misfit arguments field message := by
    intro field
    rw [Option.eq_none_iff_forall_ne_some]
    constructor
    · intro sound message misfit
      exact sound _ (fieldFault?_eq_some_iff.mpr ⟨message, misfit, rfl⟩)
    · intro sound error fault
      obtain ⟨message, misfit, -⟩ := fieldFault?_eq_some_iff.mp fault
      exact sound message misfit
  have found : tool.validate arguments = .error error ↔
      tool.method.fields.findSome? (tool.fieldFault? arguments) = some error := by
    rw [validate]
    split
    next found => rw [found, Except.error.injEq, Option.some.injEq]
    next found => simp [found]
  rw [found, List.findSome?_eq_some_iff]
  constructor
  · rintro ⟨before, field, after, parts, fault, sound⟩
    obtain ⟨message, misfit, rfl⟩ := fieldFault?_eq_some_iff.mp fault
    refine ⟨field.name, message, ⟨before, field, after, parts, rfl, misfit, ?_⟩, rfl⟩
    exact fun earlier member => faultless.mp (sound earlier member)
  · rintro ⟨name, message, ⟨before, field, after, parts, rfl, misfit, sound⟩, rfl⟩
    refine ⟨before, field, after, parts, fieldFault?_eq_some_iff.mpr ⟨message, misfit, rfl⟩, ?_⟩
    exact fun earlier member => faultless.mpr (sound earlier member)

theorem argumentObject_eq_ok_iff {arguments : Option Json} {members : Json.Object} :
    tool.argumentObject (arguments.getD .null) = .ok members ↔
      argumentValue arguments = .object members := by
  rcases arguments with _ | value
  · simp [argumentObject, argumentValue]
  · cases value <;> simp [argumentObject, argumentValue]

theorem exists_message_of_argumentObject {arguments : Json} {error : GatewayError}
    (refused : tool.argumentObject arguments = .error error) :
    ∃ message, error = .invalidArguments tool.name none message := by
  cases arguments with
  | null => cases refused
  | object members => cases refused
  | _ => exact ⟨_, (Except.error.inj refused).symm⟩

end Tool

namespace ToolCatalog

variable {σ : Type} {catalog : ToolCatalog} {tool : Tool} (invocation : Invocation)

/-- A tool of a catalog that was built is found under its name. -/
theorem find?_of_mem {definition : ServiceDefinition}
    (built : ofDefinition definition = .ok catalog) (listed : tool ∈ catalog.tools) :
    catalog.find? tool.name = some tool := by
  obtain ⟨differ, rfl⟩ := ofDefinition_eq_ok_iff.mp built
  rw [← Tool.names_ofMethod definition.name] at differ
  exact find?_name_of_nodup Tool.name differ listed

/-- A call that does not fit its tool is refused for its arguments and leaves the backend alone. -/
theorem dispatch_of_unfit (found : catalog.find? invocation.name = some tool)
    (unfit : ∀ members, tool.argumentObject invocation.arguments = .ok members →
      ¬ tool.method.Fits members) (backend : Backend σ) (state : σ) :
    ∃ field message, catalog.dispatch backend invocation state =
      (.error (.invalidArguments tool.name field message), state) := by
  cases given : tool.argumentObject invocation.arguments with
  | error error =>
    obtain ⟨message, rfl⟩ := Tool.exists_message_of_argumentObject given
    exact ⟨none, message, by simp only [dispatch, found, given]⟩
  | ok members =>
    cases checked : tool.validate members with
    | error error =>
      obtain ⟨field, message, -, rfl⟩ := Tool.validate_eq_error_iff.mp checked
      exact ⟨some field, message, by simp only [dispatch, found, given, checked]⟩
    | ok =>
      exact absurd (Tool.validate_eq_ok_iff.mp checked) (unfit members given)

/-- A call that fits its tool is one invocation of the backend, whose outcome is passed on. -/
theorem dispatch_of_fits (found : catalog.find? invocation.name = some tool)
    {members : Json.Object} (given : tool.argumentObject invocation.arguments = .ok members)
    (fits : tool.method.Fits members) (backend : Backend σ) (state : σ) :
    catalog.dispatch backend invocation state =
      (GatewayError.ofOutcome ("handling " ++ tool.name)
        (backend.invoke tool.name (tool.marshal members) state).1,
        (backend.invoke tool.name (tool.marshal members) state).2) := by
  simp only [dispatch, found, given, Tool.validate_eq_ok_iff.mpr fits]

end ToolCatalog

/-- The outcome of a backend is never taken for a fault of the arguments. -/
theorem GatewayError.ofOutcome_ne_invalidArguments {α : Type} (activity : String)
    (outcome : Outcome α) (tool : String) (field : Option String) (message : String) :
    ofOutcome activity outcome ≠ .error (.invalidArguments tool field message) := by
  rcases outcome with result | (⟨_, _⟩ | _) | _ <;> simp [ofOutcome, ofBackend]

end ToolGateway
