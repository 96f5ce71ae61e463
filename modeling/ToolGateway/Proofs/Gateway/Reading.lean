import ToolGateway.Proofs.Gateway.Addressing
import ToolGateway.Proofs.Server.Recording

/-!
# What reading a resource does

A resource is read by the type token of its URI. `read_settled` follows a read to its end: a token
that no listed type has is refused without a call of the backend, and for any other one the backend is
asked once, and what it says is passed on under the URI as it was given. No scheme changes anything
about this: URIs with one token are read alike (`read_of_same_token`).

Nothing is assumed of the catalog. If several types of it have one name, the first of them is read.
-/

namespace ToolGateway.ResourceCatalog

variable {σ : Type} {catalog : ResourceCatalog}

/-- The first listed type of a name. -/
def FirstNamed (catalog : ResourceCatalog) (typeName : String) (resource : ResourceType) : Prop :=
  resource.typeName = typeName ∧ ∃ before after,
    catalog.resources = before ++ resource :: after ∧
      ∀ earlier ∈ before, earlier.typeName ≠ typeName

theorem find?_eq_some_iff {typeName : String} {resource : ResourceType} :
    catalog.find? typeName = some resource ↔ catalog.FirstNamed typeName resource := by
  simp [find?, FirstNamed, List.find?_eq_some_iff_append]

theorem find?_eq_none_iff {typeName : String} :
    catalog.find? typeName = none ↔ typeName ∉ catalog.resources.map ResourceType.typeName := by
  simp [find?]

/-- What is read is the first listed type that the token names. -/
theorem read_of_firstNamed {uri : String} {resource : ResourceType}
    (first : catalog.FirstNamed (ResourceUri.parse uri).typeToken resource) (backend : Backend σ)
    (state : σ) :
    let token := (ResourceUri.parse uri).typeToken
    catalog.read backend uri state =
      ((GatewayError.ofOutcome ("reading " ++ token) (backend.materialize token state).1).map
          fun text => ⟨uri, resource.mediaType, text⟩,
        (backend.materialize token state).2) := by
  have found := find?_eq_some_iff.mpr first
  dsimp only
  rw [read_of_find? found, first.1]

/-- URIs with one token are read alike, but for the URI that the contents show. -/
theorem read_of_same_token {uri other : String}
    (same : (ResourceUri.parse other).typeToken = (ResourceUri.parse uri).typeToken)
    (backend : Backend σ) (state : σ) :
    let run := catalog.read backend uri state
    catalog.read backend other state =
      (run.1.map fun contents => { contents with uri := other }, run.2) := by
  intro run
  cases found : catalog.find? (ResourceUri.parse uri).typeToken with
  | none =>
    have refused : run = _ := read_of_unknown found backend state
    rw [← same] at found
    rw [read_of_unknown found, refused, same]
    rfl
  | some resource =>
    have read : run = _ := read_of_find? found backend state
    rw [← same] at found
    rw [read_of_find? found, read]
    cases GatewayError.ofOutcome ("reading " ++ resource.typeName)
      (backend.materialize resource.typeName state).1 <;> rfl

/-- **Reads and calls of the backend.** A read goes by the part of the URI behind the last `://`, or
by all of it. If that is not exactly the name of a listed type, it is reported as unknown and the
backend is left alone. Otherwise the backend is asked for the type of this name and for nothing else,
and the outcome is passed on, a text with the URI as it was given and the media type that is listed.
Another URI with the same token is read with the same outcome, except that the contents show it. -/
theorem read_settled (catalog : ResourceCatalog) (backend : Backend σ) (uri : String) (state : σ) :
    let token := (ResourceUri.parse uri).typeToken
    let run := catalog.read backend.recorded uri (state, [])
    ResourceUri.Token uri token ∧
    catalog.read backend uri state = (run.1, run.2.1) ∧
    (token ∉ catalog.resources.map ResourceType.typeName →
      run = (.error (.unknownResourceType token), state, [])) ∧
    (token ∈ catalog.resources.map ResourceType.typeName →
      run.2 = ((backend.materialize token state).2, [.materialize token]) ∧
      ∃ resource told, catalog.FirstNamed token resource ∧
        (backend.materialize token state).1.PassedOn told ∧
        run.1 = told.map fun text => ⟨uri, resource.mediaType, text⟩) ∧
    ∀ other, ResourceUri.Token other token →
      catalog.read backend.recorded other (state, []) =
        (run.1.map fun contents => { contents with uri := other }, run.2) := by
  intro token run
  refine ⟨ResourceUri.token_iff.mpr rfl, catalog.read_recorded backend uri (state, []), ?_, ?_, ?_⟩
  · intro unlisted
    exact read_of_unknown (find?_eq_none_iff.mpr unlisted) backend.recorded (state, [])
  · intro listed
    obtain ⟨resource, found⟩ := Option.ne_none_iff_exists'.mp
      (fun absent => find?_eq_none_iff.mp absent listed)
    have first := find?_eq_some_iff.mp found
    have read : run = _ := read_of_firstNamed first backend.recorded (state, [])
    rw [read]
    exact ⟨rfl, resource, _, first, Outcome.passedOn_ofOutcome ("reading " ++ token) _, rfl⟩
  · intro other named
    exact read_of_same_token (ResourceUri.token_iff.mp named) backend.recorded (state, [])

end ToolGateway.ResourceCatalog
