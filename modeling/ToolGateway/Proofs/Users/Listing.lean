import ToolGateway.Proofs.Except
import ToolGateway.Proofs.Json.RoundTrip
import ToolGateway.Proofs.Users.Growth

/-!
# The listing shows the stored users

There are two ways to see the users in a store: the resource that lists them all, and a request for
the user of an id. `materialize_shows_users` says that both show the same. The listing is a JSON text
that is read as an object of the type and the items, and the items are decoded as the users in the
order of their creation; each item is what the reply to a request for its id brings. For the latter the
ids have to differ, since a request finds the first user of an id.
-/

namespace ToolGateway

/-! ## A user is decoded as it is shown -/

theorem UserStatus.decode_toJson (status : UserStatus) : decode status.toJson = .ok status := by
  cases status <;> rfl

/-- A required field that is there and decodes is read. -/
theorem Fields.required_of_find? {α β : Type} {members : Members α} {name : String} {given : α}
    {decode : Decoder α β} {result : β} (found : members.find? name = some given)
    (decoded : decode given = .ok result) :
    (Fields.named members).required name decode = .value result :=
  required_eq_value_iff.mpr ⟨given, found, decoded⟩

theorem User.decode_toJson (user : User) : decode user.toJson = .ok user := by
  rw [decode, toJson, Decoder.record_object_eq_ok_iff,
    Fields.required_of_find? rfl (Decoder.string_eq_ok_iff.mpr rfl),
    Fields.required_of_find? rfl (Decoder.string_eq_ok_iff.mpr rfl),
    Fields.required_of_find? rfl (Decoder.string_eq_ok_iff.mpr rfl),
    Fields.required_of_find? rfl (Decoder.list_string_eq_ok_iff.mpr rfl),
    Fields.required_of_find? rfl user.status.decode_toJson]
  rfl

theorem User.exact_toJson (user : User) : user.toJson.Exact 2 := by
  simp [toJson, UserStatus.toJson, Json.strings, Members.names]

namespace UserStore

theorem exact_listing (store : UserStore) : store.listing.Exact 4 := by
  have items : ∀ user : User, user.toJson.Exact 2 := User.exact_toJson
  simp [listing, Members.names, items]

/-- The text of the listing is read as the listing. -/
theorem parse_listing (store : UserStore) :
    Json.parse (Utf8.bytes store.listing.pretty) = .ok store.listing :=
  Json.parse_pretty (store.exact_listing.mono (by decide))

theorem mapM_decode_toJson (users : List User) :
    (users.map User.toJson).mapM User.decode = .ok users := by
  rw [mapM_eq_ok_iff, List.forall₂_map_left_iff, List.forall₂_same]
  exact fun user _ => user.decode_toJson

/-! ## A user is found under its id -/

theorem find?_of_mem {store : UserStore} (differ : store.storedIds.Nodup) {user : User}
    (stored : user ∈ store.users) : store.find? user.id = some user := by
  obtain ⟨before, after, split⟩ := List.append_of_mem stored
  rw [find?, List.find?_eq_some_iff_append]
  refine ⟨beq_self_eq_true _, before, after, split, ?_⟩
  intro other earlier
  rw [storedIds, split, List.map_append, List.map_cons, List.nodup_append] at differ
  simpa using differ.2.2 other.id (List.mem_map_of_mem earlier) user.id List.mem_cons_self

/-- Whoever asks for a stored user gets what the listing shows of it. -/
theorem invoke_getUser (ids : Nat → String) {store : UserStore} (differ : store.storedIds.Nodup)
    {user : User} (stored : user ∈ store.users) {arguments : Json.Object}
    (about : UserCall.TextAt arguments "id" user.id) :
    store.invoke ids "GetUser" arguments = (.ok (.object [("user", user.toJson)]), store) := by
  have asks : UserCall.Asks ⟨"GetUser", arguments⟩ (.get ⟨user.id⟩) := .get rfl about
  refine (answer_of_asks asks store).trans ?_
  rw [perform_get, get, find?_of_mem differ stored]
  rfl

/-- **The listing shows the stored users.** After any calls, if the ids given out are different, the
representation of the resource `User` is a JSON text of an object with the type and the items only.
The items are decoded as the users in the store, and these stand in the order in which they were
created; and each item is what the reply to a request for its id shows as the user. There is no
representation of any other resource, and asking for one changes no user. -/
theorem materialize_shows_users {ids : Nat → String} {calls : List Call}
    (distinct : ((List.range
      (((backend ids).serveAll calls empty).1.countP createdUser)).map ids).Nodup) :
    let history := ((backend ids).serveAll calls empty).1
    let store := ((backend ids).serveAll calls empty).2
    (∃ text items, ((backend ids).materialize "User" store).1 = .done text ∧
      Json.parse (Utf8.bytes text) =
        .ok (.object [("type", .string "User"), ("items", .array items)]) ∧
      items.mapM User.decode = .ok store.users ∧
      store.users.map User.id = history.filterMap createdId? ∧
      ∀ item ∈ items, ∃ id, item.get? "id" = some (.string id) ∧
        ∀ arguments, UserCall.TextAt arguments "id" id → ∃ answer,
          (backend ids).invoke "GetUser" arguments store = (.done answer, store) ∧
          answer.get? "user" = some item) ∧
    (∀ typeName, typeName ≠ "User" → ((backend ids).materialize typeName store).1 =
      .failed (.domain "NOT_FOUND" ("Resource type " ++ typeName ++ " has no stored instances"))) ∧
    ∀ typeName, ((backend ids).materialize typeName store).2 = store := by
  intro history store
  have grown : Grown ids history store := grown_serveAll ids calls
  have differ : store.storedIds.Nodup := by
    rw [grown.supplied, grown.counted]
    exact distinct
  refine ⟨⟨store.listing.pretty, store.users.map User.toJson, rfl, store.parse_listing,
    mapM_decode_toJson store.users, grown.listed, ?shown⟩, ?others, fun _ => rfl⟩
  case shown =>
    intro item member
    obtain ⟨user, stored, rfl⟩ := List.mem_map.mp member
    refine ⟨user.id, rfl, fun arguments about => ?_⟩
    refine ⟨.object [("user", user.toJson)], ?_, rfl⟩
    show (Outcome.ofExcept (store.invoke ids "GetUser" arguments).1,
      (store.invoke ids "GetUser" arguments).2) = _
    rw [invoke_getUser ids differ stored about]
    rfl
  case others =>
    intro typeName other
    show Outcome.ofExcept (store.materialize typeName) = _
    rw [materialize, if_neg other]
    rfl

/-- Two users, one with a quote, a line feed and an escape in its name and its roles. -/
def quotedCalls : List Call := [
  .invoke "CreateUser" [("name", .string "\"Ann\"\n"), ("roles", .strings ["", "\\u0022"])],
  .materialize "User",
  .invoke "CreateUser" [("email", .string "bob@b.org")]]

theorem materialize_shows_users_quoted :
    let store := ((backend fun n => ["ann", "bob"].getD n "").serveAll quotedCalls empty).2
    ∃ text items, ((backend fun n => ["ann", "bob"].getD n "").materialize "User" store).1 =
        .done text ∧
      Json.parse (Utf8.bytes text) =
        .ok (.object [("type", .string "User"), ("items", .array items)]) ∧
      items.mapM User.decode = .ok [⟨"ann", "\"Ann\"\n", "", ["", "\\u0022"], .active⟩,
        ⟨"bob", "", "bob@b.org", [], .active⟩] := by
  obtain ⟨⟨text, items, shown, read, decoded, -⟩, -⟩ :=
    @materialize_shows_users (fun n => ["ann", "bob"].getD n "") quotedCalls (by decide)
  exact ⟨text, items, shown, read, decoded⟩

end UserStore

end ToolGateway
