import ToolGateway.Proofs.Gateway.Outcome
import ToolGateway.Proofs.Members

/-!
# The field a call is refused for

A call may be at fault in many fields at once, and it is refused for one of them. `Method.Misfit` says
what can be wrong with a field, and `Method.FirstMisfit` which field it is: the one declared first.
`dispatch_refused_iff` says that the refusal names it, that neither the order of the arguments nor
arguments that are no fields make a difference, and that arguments which are no object are refused
without a field.
-/

namespace ToolGateway

/-- Only the fields of the method decide whether arguments are valid, and why not. -/
theorem Tool.validate_of_same {tool : Tool} {members others : Json.Object}
    (same : ∀ field ∈ tool.method.fields,
      Members.find? others field.name = Members.find? members field.name) :
    tool.validate others = tool.validate members := by
  have faults : ∀ field ∈ tool.method.fields,
      tool.fieldFault? others field = tool.fieldFault? members field := by
    intro field member
    rw [fieldFault?, fieldFault?, same field member]
  simp only [validate, ← List.head?_filterMap, List.filterMap_congr faults]

/-- Objects whose fields of a method are the same up to their order agree on these fields. -/
theorem Method.find?_eq_of_fields_perm {method : Method} {arguments others : Json.Object}
    (differ : (Members.names arguments).Nodup)
    (perm : (arguments.filter fun entry => method.hasField entry.1).Perm
      (others.filter fun entry => method.hasField entry.1)) :
    ∀ field ∈ method.fields,
      Members.find? others field.name = Members.find? arguments field.name := by
  intro field member
  have declared : method.hasField field.name = true := by
    simpa [hasField] using ⟨field, member, rfl⟩
  have differ : (Members.names (arguments.filter fun entry => method.hasField entry.1)).Nodup :=
    differ.sublist (List.filter_sublist.map Prod.fst)
  rw [← Members.find?_filter declared others, ← Members.find?_filter declared arguments]
  exact (Members.find?_eq_of_perm differ perm field.name).symm

namespace ToolCatalog

variable {σ : Type} {definition : ServiceDefinition} {catalog : ToolCatalog} {tool : Tool}

/-- A call with an object of arguments is refused for them exactly when validation refuses them. -/
theorem dispatch_eq_invalidArguments_iff (found : catalog.find? tool.name = some tool)
    {arguments : Json} {members : Json.Object}
    (given : argumentValue (some arguments) = .object members) (backend : Backend σ) (state : σ)
    {owner : String} {named : Option String} {message : String} :
    (catalog.dispatch backend ⟨tool.name, arguments⟩ state).1 =
        .error (.invalidArguments owner named message) ↔
      tool.validate members = .error (.invalidArguments owner named message) := by
  have object : tool.argumentObject arguments = .ok members :=
    (@Tool.argumentObject_eq_ok_iff tool (some arguments) members).mpr given
  cases checked : tool.validate members with
  | error error =>
    simp only [dispatch, found, object, checked]
    rw [Except.error.injEq, Except.error.injEq]
  | ok =>
    have passed := GatewayError.ofOutcome_ne_invalidArguments ("handling " ++ tool.name)
      (backend.invoke tool.name (tool.marshal members) state).1 owner named message
    simp only [dispatch, found, object, checked, passed, reduceCtorEq]

/-- **A refused call names its first misfit.** A call of a listed tool with an object of arguments is
refused for them exactly if something is wrong with a field, and the refusal names the field declared
first of those, with what is wrong with it: it is required and absent, or there with a value that is
not of its kind. Objects with the same fields are refused alike, whatever the order of their members
and whatever else they hold. Arguments that are neither an object nor `null` are refused without a
field, and the backend is left alone. -/
theorem dispatch_refused_iff (built : ofDefinition definition = .ok catalog)
    (listed : tool ∈ catalog.tools) (backend : Backend σ) (state : σ) :
    let call (arguments : Json) :=
      catalog.dispatch backend.recorded ⟨tool.name, arguments⟩ (state, [])
    (∀ arguments members, argumentValue (some arguments) = .object members →
      ∀ owner named message,
        (call arguments).1 = .error (.invalidArguments owner named message) ↔
          owner = tool.name ∧ ∃ name, named = some name ∧
            tool.method.FirstMisfit members name message) ∧
    (∀ members others, (Members.names members).Nodup →
      (members.filter fun entry => tool.method.hasField entry.1).Perm
        (others.filter fun entry => tool.method.hasField entry.1) →
      ∀ owner named message,
        (call (.object others)).1 = .error (.invalidArguments owner named message) ↔
          (call (.object members)).1 = .error (.invalidArguments owner named message)) ∧
    ∀ arguments, arguments ≠ .null → (∀ members, arguments ≠ .object members) →
      call arguments = (.error (.invalidArguments tool.name none
        ("Arguments must be an object, got " ++ arguments.typeName)), state, []) := by
  intro call
  have found := find?_of_mem built listed
  have validated : ∀ arguments members, argumentValue (some arguments) = .object members →
      ∀ owner named message, (call arguments).1 = .error (.invalidArguments owner named message) ↔
        tool.validate members = .error (.invalidArguments owner named message) :=
    fun arguments members given owner named message =>
      dispatch_eq_invalidArguments_iff found given backend.recorded (state, [])
  refine ⟨?_, ?_, ?_⟩
  · intro arguments members given owner named message
    rw [validated arguments members given, Tool.validate_eq_error_iff]
    constructor
    · rintro ⟨name, message, first, same⟩
      obtain ⟨rfl, rfl, rfl⟩ := GatewayError.invalidArguments.inj same
      exact ⟨rfl, name, rfl, first⟩
    · rintro ⟨rfl, name, rfl, first⟩
      exact ⟨name, message, first, rfl⟩
  · intro members others differ perm owner named message
    have same := Tool.validate_of_same (Method.find?_eq_of_fields_perm differ perm)
    rw [validated _ others rfl, validated _ members rfl, same]
  · intro arguments given other
    cases arguments with
    | null => exact absurd rfl given
    | object members => exact absurd rfl (other members)
    | _ => simp only [call, dispatch, found, Tool.argumentObject]

/-- The list of roles is `null` and stands first, but the missing id is declared before it. -/
theorem dispatch_refused_iff_grant :
    ofDefinition grantService = .ok grantCatalog ∧ grantTool ∈ grantCatalog.tools ∧
      (grantCatalog.dispatch silentBackend.recorded
        ⟨grantTool.name, .object [("roles", .null), ("note", .string "id")]⟩ ((), [])).1 =
          .error (.invalidArguments "Grant" (some "id") "Missing required field id") := by
  refine ⟨ofDefinition_grantService, grantTool_listed, ?_⟩
  have law := (dispatch_refused_iff ofDefinition_grantService grantTool_listed silentBackend ()).1
  refine (law _ _ rfl _ _ _).mpr ⟨rfl, "id", rfl, [], .ofKind "id" .string, _, rfl, rfl, ?_, ?_⟩
  · exact .missing rfl rfl
  · exact List.forall_mem_nil _

end ToolCatalog

end ToolGateway
