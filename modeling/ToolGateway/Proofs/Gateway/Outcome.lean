import ToolGateway.Proofs.Schema.Agreement

/-!
# Outcomes of tool calls

A tool call asks for a tool by its name. `dispatch_classified` follows it to its end: a name that is
not listed and arguments that the tool does not take are refused without a call of the backend, and
every other tool call is one call of the backend, whose outcome it passes on unchanged.

The calls are counted by a backend that records them, and `dispatch_recorded` says that recording
makes no difference to anything else.
-/

namespace ToolGateway

/-- What the caller of a tool is told of an outcome of the backend. -/
inductive Outcome.PassedOn {α : Type} : Outcome α → Except GatewayError α → Prop where
  | done {result : α} : PassedOn (.done result) (.ok result)
  | refused {kind message : String} :
      PassedOn (.failed (.domain kind message)) (.error (.backendDomain kind message))
  | unreachable {message : String} :
      PassedOn (.failed (.unavailable message)) (.error (.backendUnavailable message))
  | brokenOff {message : String} : PassedOn .aborted (.error (.backendUnavailable message))

theorem Outcome.passedOn_ofOutcome {α : Type} (activity : String) (outcome : Outcome α) :
    outcome.PassedOn (GatewayError.ofOutcome activity outcome) := by
  rcases outcome with result | (⟨kind, message⟩ | message) | _
  · exact .done
  · exact .refused
  · exact .unreachable
  · exact .brokenOff

theorem GatewayError.ofOutcome_ofExcept {α : Type} (activity : String)
    (result : Except BackendError α) :
    ofOutcome activity (.ofExcept result) = result.mapError .ofBackend := by
  cases result <;> rfl

/-- The members of the arguments of a call that a tool takes: they are an object, or nothing for the
empty one, and they fit the method. -/
def Tool.Takes (tool : Tool) (arguments : Json) (members : Json.Object) : Prop :=
  argumentValue (some arguments) = .object members ∧ tool.method.Fits members

namespace ToolCatalog

variable {σ : Type} {catalog : ToolCatalog} {tool : Tool} (invocation : Invocation)

theorem find?_eq_none_iff {name : String} : catalog.find? name = none ↔ name ∉ catalog.names := by
  simp [find?, names]

theorem dispatch_of_unlisted (unlisted : invocation.name ∉ catalog.names) (backend : Backend σ)
    (state : σ) :
    catalog.dispatch backend invocation state = (.error (.unknownTool invocation.name), state) := by
  have unknown := find?_eq_none_iff.mpr unlisted
  simp only [dispatch, unknown]

theorem dispatch_of_not_takes (found : catalog.find? invocation.name = some tool)
    (untaken : ∀ members, ¬ tool.Takes invocation.arguments members) (backend : Backend σ)
    (state : σ) :
    ∃ field message, catalog.dispatch backend invocation state =
      (.error (.invalidArguments tool.name field message), state) := by
  refine dispatch_of_unfit invocation found ?_ backend state
  intro members given fits
  have given : argumentValue (some invocation.arguments) = .object members :=
    Tool.argumentObject_eq_ok_iff.mp given
  exact untaken members ⟨given, fits⟩

theorem dispatch_of_takes (found : catalog.find? invocation.name = some tool)
    {members : Json.Object} (taken : tool.Takes invocation.arguments members)
    (backend : Backend σ) (state : σ) :
    catalog.dispatch backend invocation state =
      (GatewayError.ofOutcome ("handling " ++ tool.name)
        (backend.invoke tool.name (tool.marshal members) state).1,
        (backend.invoke tool.name (tool.marshal members) state).2) := by
  have given : tool.argumentObject ((some invocation.arguments).getD .null) = .ok members :=
    Tool.argumentObject_eq_ok_iff.mpr taken.1
  exact dispatch_of_fits invocation found given taken.2 backend state

/-- Recording the calls of a backend changes neither the result of a tool call nor the state. -/
theorem dispatch_recorded (backend : Backend σ) (state : σ) (calls : List Call) :
    catalog.dispatch backend invocation state =
      ((catalog.dispatch backend.recorded invocation (state, calls)).1,
        (catalog.dispatch backend.recorded invocation (state, calls)).2.1) := by
  unfold dispatch
  split
  · rfl
  · split
    · rfl
    · split
      · rfl
      · rfl

/-- **Tool calls and calls of the backend.** A tool call makes at most one call of the backend and
leaves its state alone if it makes none. It makes none when the tool is not listed under exactly the
name asked for, whatever the arguments, and none when the tool does not take the arguments; else it
makes one call, under the tool's name and with the request made from the arguments, and passes the
outcome on. -/
theorem dispatch_classified {definition : ServiceDefinition}
    (built : ofDefinition definition = .ok catalog) (backend : Backend σ) (state : σ) :
    let run := catalog.dispatch backend.recorded invocation (state, [])
    catalog.dispatch backend invocation state = (run.1, run.2.1) ∧
      run.2.2.length ≤ 1 ∧ (run.2.2 = [] → run.2.1 = state) ∧
      (invocation.name ∉ catalog.names →
        run = (.error (.unknownTool invocation.name), state, [])) ∧
      ∀ tool ∈ catalog.tools, tool.name = invocation.name →
        ((∀ members, ¬ tool.Takes invocation.arguments members) → ∃ field message,
          run = (.error (.invalidArguments tool.name field message), state, [])) ∧
        ∀ members, tool.Takes invocation.arguments members →
          let request := tool.marshal members
          run.2 = ((backend.invoke tool.name request state).2, [.invoke tool.name request]) ∧
            (backend.invoke tool.name request state).1.PassedOn run.1 := by
  intro run
  have unrecorded : catalog.dispatch backend invocation state = (run.1, run.2.1) :=
    dispatch_recorded invocation backend state []
  refine ⟨unrecorded, ?_⟩
  by_cases listed : invocation.name ∈ catalog.names
  · obtain ⟨asked, member, named⟩ := List.mem_map.mp listed
    have found : catalog.find? invocation.name = some asked := named ▸ find?_of_mem built member
    -- the tool asked for is the only one of its name
    have only : ∀ tool ∈ catalog.tools, tool.name = invocation.name → tool = asked := by
      intro tool member named
      have same := find?_of_mem built member
      rw [named, found] at same
      exact (Option.some.inj same).symm
    by_cases taken : ∃ members, asked.Takes invocation.arguments members
    · obtain ⟨members, taken⟩ := taken
      have done := dispatch_of_takes invocation found taken backend.recorded (state, [])
      have called : run.2 = ((backend.invoke asked.name (asked.marshal members) state).2,
          [.invoke asked.name (asked.marshal members)]) := congrArg Prod.snd done
      have told : run.1 = _ := congrArg Prod.fst done
      refine ⟨by simp [called], by simp [called], fun unlisted => absurd listed unlisted, ?_⟩
      intro tool member named
      obtain rfl := only tool member named
      refine ⟨fun untaken => absurd taken (untaken members), ?_⟩
      intro others alsoTaken
      have same : members = others := by
        have := taken.1.symm.trans alsoTaken.1
        injection this
      subst same
      refine ⟨called, ?_⟩
      rw [told]
      exact Outcome.passedOn_ofOutcome _ _
    · have untaken : ∀ members, ¬ asked.Takes invocation.arguments members :=
        fun members takes => taken ⟨members, takes⟩
      obtain ⟨field, message, done⟩ :=
        dispatch_of_not_takes invocation found untaken backend.recorded (state, [])
      have left : run.2 = (state, []) := congrArg Prod.snd done
      refine ⟨by simp [left], fun _ => by rw [left], fun unlisted => absurd listed unlisted, ?_⟩
      intro tool member named
      obtain rfl := only tool member named
      exact ⟨fun _ => ⟨field, message, done⟩, fun members takes => absurd takes (untaken members)⟩
  · have done := dispatch_of_unlisted invocation listed backend.recorded (state, [])
    have left : run.2 = (state, []) := congrArg Prod.snd done
    refine ⟨by simp [left], fun _ => by rw [left], fun _ => done, ?_⟩
    intro tool member named
    exact absurd (named ▸ List.mem_map_of_mem member) listed

/-- A backend that counts the tool calls it gets and refuses them all. -/
def refusingBackend : Backend Nat :=
  ⟨fun _ _ count => (.failed (.domain "DENIED" "not today"), count + 1),
    fun _ count => (.aborted, count)⟩

/-- A refused call is counted once, and the caller reads the refusal word for word. -/
theorem dispatch_classified_refused : ∃ catalog, ofDefinition grantService = .ok catalog ∧
    catalog.dispatch refusingBackend
      ⟨"Grant", .object [("roles", .array []), ("id", .string "1")]⟩ 0 =
        (.error (.backendDomain "DENIED" "not today"), 1) := by
  have built : ofDefinition grantService =
      .ok ⟨"Grants", [Tool.ofMethod "Grants" grantMethod]⟩ := rfl
  refine ⟨_, built, ?_⟩
  have law := dispatch_classified
    ⟨"Grant", .object [("roles", .array []), ("id", .string "1")]⟩ built refusingBackend 0
  have taken : (Tool.ofMethod "Grants" grantMethod).Takes
      (.object [("roles", .array []), ("id", .string "1")])
      [("roles", .array []), ("id", .string "1")] :=
    ⟨rfl, Tool.validate_eq_ok_iff.mp rfl⟩
  obtain ⟨called, passed⟩ := (law.2.2.2.2 _ (List.mem_singleton_self _) rfl).2 _ taken
  rw [law.1, called]
  generalize (dispatch _ _ _ _).1 = told at passed ⊢
  cases passed
  rfl

end ToolCatalog

end ToolGateway
