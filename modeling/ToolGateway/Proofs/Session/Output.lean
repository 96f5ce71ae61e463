import ToolGateway.Proofs.Gateway.Outcome
import ToolGateway.Proofs.Json.Printed
import ToolGateway.Proofs.Json.RoundTrip
import ToolGateway.Proofs.Server.Sendable
import ToolGateway.Proofs.Text.Utf8

/-!
# The output of a session

Each response becomes one line of the output, whatever stands in it: no line feed comes from within
a response, nor any other byte below the space. A client that cuts the output at its line feeds gets
the responses back one by one, and from a line the very response that was sent, as long as no
floating-point number stands in its id.

* `lines_replies`: the lines of the output are the responses, whatever the server.
* `decode_reply`: a response that can be sent is read back from its line.
* `output_framed`: both, for every stream.
-/

namespace ToolGateway.Session

/-! ## One line for each response -/

theorem lineFeed_not_mem_compact (value : Json) : lineFeed ∉ Utf8.bytes value.compact :=
  fun member => absurd (Json.le_of_mem_bytes_compact value member) (by decide)

/-- The replies of a session are a text. -/
theorem exists_bytes_replies (responses : List Response) :
    ∃ text, responses.flatMap replyBytes = Utf8.bytes text := by
  induction responses with
  | nil => exact ⟨"", rfl⟩
  | cons response rest ih =>
    obtain ⟨text, same⟩ := ih
    refine ⟨response.toJson.compact ++ "\n" ++ text, ?_⟩
    rw [Utf8.bytes_append, Utf8.bytes_append, ← same]
    rfl

theorem count_replies (responses : List Response) :
    (responses.flatMap replyBytes).count lineFeed = responses.length := by
  induction responses with
  | nil => rfl
  | cons response rest ih =>
    have alone : (replyBytes response).count lineFeed = 1 := by
      rw [replyBytes, List.count_append,
        List.count_eq_zero_of_not_mem (lineFeed_not_mem_compact _)]
      rfl
    rw [List.flatMap_cons, List.count_append, alone, ih, List.length_cons, Nat.add_comm]

/-- Cutting the replies at their line feeds gives the responses one by one. -/
theorem lines_replies (responses : List Response) :
    lines (responses.flatMap replyBytes) =
      responses.map fun response => Utf8.bytes response.toJson.compact := by
  induction responses with
  | nil => rfl
  | cons response rest ih =>
    rw [List.flatMap_cons, replyBytes, List.append_assoc, List.singleton_append,
      lines_ended (lineFeed_not_mem_compact _), ih, List.map_cons]

/-! ## Reading a response back -/

/-- What a client makes of the line of a response. -/
theorem decode_reply {response : Response} (sendable : response.Sendable)
    (plain : ∀ value, response.id = some value → ¬ value.HasFloat) :
    ∃ value id, Json.parse (Utf8.bytes response.toJson.compact) = .ok value ∧
      Response.decode value = .ok { response with id } ∧
      id.getD .null = response.id.getD .null ∧
      replyBytes { response with id } = replyBytes response := by
  refine ⟨response.toJson, Request.givenParams (response.id.getD .null),
    Json.parse_compact (Response.exact_toJson sendable plain), Response.decode_toJson sendable,
    Request.getD_givenParams _, ?_⟩
  rw [replyBytes, Response.toJson_givenParams, replyBytes]

/-- **The output of a session is framed, and what was sent can be read back.** For every stream the
output is a text with one line for each response, in the order of the responses, and within a line
there is no byte below the space. When the server offers the tools and resources of a service, each
line whose id holds no floating-point number is JSON and decodes to the response that was sent, an
absent id and one that is `null` taken for the same; written again, it gives the same bytes. -/
theorem output_framed {σ : Type} (server : Server σ) (input : List UInt8) (state : ServerState σ) :
    let sent := (respondAll server (lines input) state).1
    let output := (serve server input state).1
    output = sent.flatMap replyBytes ∧
      (∃ text, Utf8.string? output = some text) ∧
      output.count lineFeed = sent.length ∧
      lines output = sent.map (fun response => Utf8.bytes response.toJson.compact) ∧
      (∀ response ∈ sent, ∀ b ∈ Utf8.bytes response.toJson.compact, 0x20 ≤ b) ∧
      ∀ definition selection, Gateway.ofDefinition definition selection = .ok server.gateway →
        ∀ response ∈ sent, (∀ id, response.id = some id → ¬ id.HasFloat) →
          ∃ value id, Json.parse (Utf8.bytes response.toJson.compact) = .ok value ∧
            Response.decode value = .ok { response with id } ∧
            id.getD .null = response.id.getD .null ∧
            replyBytes { response with id } = replyBytes response := by
  intro sent output
  have written : output = sent.flatMap replyBytes :=
    congrArg Prod.fst (serve_eq_respondAll server input state)
  refine ⟨written, ?text, ?count, ?cut, ?printable, ?decoded⟩
  case text =>
    obtain ⟨text, same⟩ := exists_bytes_replies sent
    exact ⟨text, by rw [written, same, Utf8.string?_bytes]⟩
  case count => rw [written, count_replies]
  case cut => rw [written, lines_replies]
  case printable =>
    intro response _ b member
    exact Json.le_of_mem_bytes_compact _ member
  case decoded =>
    intro definition selection built response member plain
    exact decode_reply (respondAll_sendable (Gateway.exact_inputSchema built) response member) plain

/-- A request whose method is a line feed. -/
def feedRequest : Json :=
  .object [("jsonrpc", .string rpcVersion), ("id", .integer 1), ("method", .string "\n")]

/-- The line feed in the method stays within the reply that repeats it. -/
theorem output_framed_feedRequest :
    ∃ gateway, Gateway.ofDefinition grantService .entities = .ok gateway ∧
      let server : Server Nat := ⟨none, gateway, ToolCatalog.refusingBackend⟩
      let response := Response.failure (some (.integer 1)) (.methodNotFound "\n")
      let line := Utf8.bytes response.toJson.compact
      lines (serve server (Utf8.bytes feedRequest.compact) ⟨none, 0⟩).1 = [line] ∧
        ∃ value id, Json.parse line = .ok value ∧
          Response.decode value = .ok { response with id } ∧ id.getD .null = .integer 1 := by
  obtain ⟨gateway, built⟩ : ∃ gateway, Gateway.ofDefinition grantService .entities = .ok gateway :=
    ⟨_, rfl⟩
  refine ⟨gateway, built, ?_⟩
  intro server response line
  have one : Json.Exact 126 (.integer 1) := Json.exact_integer_iff.mpr (by decide)
  have exact : Json.Exact Json.depthLimit feedRequest :=
    Json.exact_object_iff.mpr ⟨by decide, by simp [one]⟩
  have accepted : Request.ofBytes (Utf8.bytes feedRequest.compact) =
      .ok ⟨rpcVersion, some (.integer 1), "\n", none⟩ :=
    Request.ofBytes_eq_ok_iff.mpr ⟨feedRequest,
      Json.parse_eq_ok_iff.mp (Json.parse_compact exact), .object rfl rfl, rfl⟩
  have trimmed : trim (Utf8.bytes feedRequest.compact) = Utf8.bytes feedRequest.compact := by
    decide +kernel
  have filled : Utf8.bytes feedRequest.compact ≠ [] := by decide +kernel
  have replied : (respond server (Utf8.bytes feedRequest.compact) ⟨none, 0⟩).1 =
      some response := by
    simp only [respond, trimmed, List.isEmpty_iff, filled, if_false, accepted]
    rfl
  have sent : (respondAll server (lines (Utf8.bytes feedRequest.compact)) ⟨none, 0⟩).1 =
      [response] := by
    rw [lines_last filled (lineFeed_not_mem_compact _)]
    simp only [respondAll, replied]
    rfl
  obtain ⟨_, _, _, cut, _, decoded⟩ :=
    output_framed server (Utf8.bytes feedRequest.compact) ⟨none, 0⟩
  rw [sent] at cut decoded
  have plain : ∀ id, response.id = some id → ¬ id.HasFloat := by
    intro id numbered
    obtain rfl := Option.some.inj numbered
    exact one.plain
  obtain ⟨value, id, parsed, read, same, -⟩ :=
    decoded grantService .entities built response (List.mem_singleton_self _) plain
  exact ⟨cut, value, id, parsed, read, same⟩

end ToolGateway.Session
