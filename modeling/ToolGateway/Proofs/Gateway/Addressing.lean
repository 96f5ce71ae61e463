import ToolGateway.Gateway.ResourceReader
import ToolGateway.Proofs.Except
import ToolGateway.Proofs.Gateway.ResourceUri
import ToolGateway.Proofs.Service.Resolution

/-!
# Reading resources at their listed URIs

A resource is listed under a URI that its package and its name make up, and a URI is read by its type
token. `readable_iff` says for which resources the one leads back to the other: for those whose name
holds no separator. A name that holds one is cut at its last separator, so its resource is listed and
never read; what is read instead is another resource or none.
-/

namespace ToolGateway

/-- Reading a resource at its own URI selects it, asks the backend for it once, and gives what the
backend has for it. -/
structure ResourceCatalog.Readable (catalog : ResourceCatalog) (resource : ResourceType) : Prop where
  token : (ResourceUri.parse resource.uri).typeToken = resource.typeName
  selected : catalog.find? (ResourceUri.parse resource.uri).typeToken = some resource
  read : ∀ (σ : Type) (backend : Backend σ) state,
    catalog.read backend.recorded resource.uri (state, []) =
      ((GatewayError.ofOutcome ("reading " ++ resource.typeName)
          (backend.materialize resource.typeName state).1).map
          fun text => ⟨resource.uri, resource.mediaType, text⟩,
        (backend.materialize resource.typeName state).2, [.materialize resource.typeName])
  known : ∀ (σ : Type) (backend : Backend σ) state token,
    (catalog.read backend resource.uri state).1 ≠ .error (.unknownResourceType token)

namespace ResourceCatalog

variable {σ : Type} {catalog : ResourceCatalog} {resource : ResourceType} {uri : String}

theorem read_of_find? (found : catalog.find? (ResourceUri.parse uri).typeToken = some resource)
    (backend : Backend σ) (state : σ) :
    catalog.read backend uri state =
      ((GatewayError.ofOutcome ("reading " ++ resource.typeName)
          (backend.materialize resource.typeName state).1).map
          fun text => ⟨uri, resource.mediaType, text⟩,
        (backend.materialize resource.typeName state).2) := by
  simp only [read, found]

theorem read_of_unknown (unknown : catalog.find? (ResourceUri.parse uri).typeToken = none)
    (backend : Backend σ) (state : σ) : catalog.read backend uri state =
      (.error (.unknownResourceType (ResourceUri.parse uri).typeToken), state) := by
  simp only [read, unknown]

/-- The outcome of a backend is never taken for an unknown type. -/
theorem ofOutcome_ne_unknown {α β : Type} (activity : String) (outcome : Outcome α) (f : α → β)
    (token : String) : (GatewayError.ofOutcome activity outcome).map f ≠
      .error (.unknownResourceType token) := by
  rcases outcome with result | (⟨_, _⟩ | _) | _ <;>
    simp [GatewayError.ofOutcome, GatewayError.ofBackend, Except.map]

theorem readable_of_find?
    (token : (ResourceUri.parse resource.uri).typeToken = resource.typeName)
    (found : catalog.find? resource.typeName = some resource) : catalog.Readable resource := by
  rw [← token] at found
  refine ⟨token, found, ?_, ?_⟩
  · intro σ backend state
    rw [read_of_find? found]
    rfl
  · intro σ backend state unknown
    rw [read_of_find? found]
    exact ofOutcome_ne_unknown _ _ _ _

/-- A resource whose token is not its name is not the one that is read. -/
theorem read_of_token_ne (mistaken : (ResourceUri.parse resource.uri).typeToken ≠ resource.typeName)
    (backend : Backend σ) (state : σ) :
    let run := catalog.read backend.recorded resource.uri (state, [])
    (∃ token, run = (.error (.unknownResourceType token), state, [])) ∨
      ∃ other ∈ catalog.resources, other.typeName ≠ resource.typeName ∧
        run.2.2 = [.materialize other.typeName] := by
  intro run
  cases found : catalog.find? (ResourceUri.parse resource.uri).typeToken with
  | none => exact .inl ⟨_, read_of_unknown found _ _⟩
  | some other =>
    have named : other.typeName = (ResourceUri.parse resource.uri).typeToken :=
      name_of_find? ResourceType.typeName found
    refine .inr ⟨other, List.mem_of_find?_eq_some found, ?_, ?_⟩
    · rw [named]
      exact mistaken
    · have ran : run = _ := read_of_find? found _ _
      rw [ran]
      rfl

end ResourceCatalog

/-- **Listed resources and their URIs.** Every resource catalog of a definition that was read from a
text is built, and reading one of its resources at its listed URI leads back to the resource exactly
when its name holds no separator. Otherwise the read fails for an unknown type or asks the backend
for another resource. -/
theorem readable_iff {text : String} {definition : ServiceDefinition}
    (loaded : ServiceDefinition.ofText text = .ok definition) (selection : ResourceSelection) :
    ∃ catalog, ResourceCatalog.ofDefinition definition selection = .ok catalog ∧
      ∀ resource ∈ catalog.resources,
        (catalog.Readable resource ↔ ¬ ResourceUri.separator <:+: resource.typeName.toList) ∧
        (ResourceUri.separator <:+: resource.typeName.toList →
          ∀ (σ : Type) (backend : Backend σ) state,
            let run := catalog.read backend.recorded resource.uri (state, [])
            (∃ token, run = (.error (.unknownResourceType token), state, [])) ∨
              ∃ other ∈ catalog.resources, other.typeName ≠ resource.typeName ∧
                run.2.2 = [.materialize other.typeName]) := by
  have differ := ServiceDefinition.nodup_of_ofText loaded
  refine ⟨_, ResourceCatalog.ofDefinition_of_nodup differ selection, ?_⟩
  intro resource member
  obtain ⟨message, picked, rfl⟩ := List.mem_map.mp member
  have token := ResourceUri.typeToken_parse_iff definition.package message.name
  have names : ((definition.messages.filter (selection.picks definition)).map
      (ResourceType.ofMessage definition.package)).map ResourceType.typeName =
        (definition.messages.filter (selection.picks definition)).map Message.name := by
    rw [List.map_map]
    rfl
  have found := find?_name_of_nodup ResourceType.typeName
    (by rw [names]; exact differ.sublist (List.filter_sublist.map _)) member
  refine ⟨⟨fun readable => token.mp readable.token, ?_⟩, ?_⟩
  · intro outside
    exact ResourceCatalog.readable_of_find? (token.mpr outside) found
  · intro inside σ backend state
    refine ResourceCatalog.read_of_token_ne ?_ backend state
    intro same
    exact token.mp same inside

/-- A definition of two entities, one of which has a separator in its name. -/
def linkText : String :=
  "package = \"p\"\nservice = \"S\"\n[[messages]]\nname = \"User\"\nresource = true\n" ++
    "[[messages]]\nname = \"a://b\"\nresource = true\n"

/-- An entity without fields. -/
def entityNamed (name : String) : Message := ⟨name, [], .ofList [], true⟩

/-- The service of that text. -/
def linkDefinition : ServiceDefinition := ⟨"p", "S", [], [entityNamed "User", entityNamed "a://b"]⟩

/-- Its resources. -/
def linkCatalog : ResourceCatalog :=
  ⟨[.ofMessage "p" (entityNamed "User"), .ofMessage "p" (entityNamed "a://b")]⟩

theorem ofText_linkText : ServiceDefinition.ofText linkText = .ok linkDefinition :=
  toOption_eq_some_iff.mp (by decide +kernel)

theorem ofDefinition_linkDefinition :
    ResourceCatalog.ofDefinition linkDefinition .entities = .ok linkCatalog := rfl

/-- The resource with the plain name is read at its URI. -/
theorem readable_iff_link : ∃ resource ∈ linkCatalog.resources,
    resource.typeName = "User" ∧ linkCatalog.Readable resource := by
  obtain ⟨catalog, built, listed⟩ := readable_iff ofText_linkText .entities
  obtain rfl := Except.ok.inj (ofDefinition_linkDefinition.symm.trans built)
  have member : ResourceType.ofMessage "p" (entityNamed "User") ∈ linkCatalog.resources :=
    List.mem_cons_self
  exact ⟨_, member, rfl, (listed _ member).1.mpr (by decide)⟩

/-- The resource with a separator in its name is listed and not read. -/
theorem exists_not_readable_link : ServiceDefinition.ofText linkText = .ok linkDefinition ∧
    ResourceCatalog.ofDefinition linkDefinition .entities = .ok linkCatalog ∧
      ∃ resource ∈ linkCatalog.resources, ¬ linkCatalog.Readable resource := by
  refine ⟨ofText_linkText, rfl, .ofMessage "p" (entityNamed "a://b"), by simp [linkCatalog], ?_⟩
  intro readable
  exact absurd readable.token (by decide)

end ToolGateway
