import ToolGateway.Proofs.Wire.Users

/-!
# What the wire keeps

Each of the five messages of the user service is read back from its binary form as it was written:
empty strings that are left out, roles that are empty or repeated, numbers that are no status, and
strings that are absent. `messages_roundTrip` says so of all five, with what follows for updates and
for the users that are shown.

A binary form has fewer than `2 ^ 64` bytes, as everything in the memory of a machine has; lists have
no such bound, so it is named in `Wire.RoundTrips`. That absence and an empty string are written
differently (`toWire_name_ne`, `toWire_email_ne`) needs no bound: what is absent takes no bytes at
all, and what is there takes at least those of its number and its length.
-/

namespace ToolGateway

namespace Wire

/-- Every message that can be written in 64 bits of length is read back as it was. -/
def RoundTrips {α : Type} (write : α → List UInt8) (read? : List UInt8 → Option α) : Prop :=
  ∀ message, (write message).length < wordCount64 → read? (write message) = some message

/-- What is absent takes no bytes, and what is there at least those of its number. -/
theorem optionalField_none_ne (number : Nat) (value : String) :
    optionalField number none ≠ optionalField number (some value) := by
  intro same
  have empty : stringField number value = [] := same.symm
  rw [stringField, bytesField, List.append_eq_nil_iff, List.append_eq_nil_iff] at empty
  obtain ⟨⟨noKey, -⟩, -⟩ := empty
  exact varint_ne_nil _ noKey

end Wire

open Wire

namespace UpdateUserRequest

/-- A name that is absent is not written like any that is there, the empty one included. -/
theorem toWire_name_ne (request : UpdateUserRequest) (name : String) :
    { request with name := none }.toWire ≠ { request with name := some name }.toWire := by
  simpa [toWire] using optionalField_none_ne 2 name

/-- An email that is absent is not written like any that is there, the empty one included. -/
theorem toWire_email_ne (request : UpdateUserRequest) (email : String) :
    { request with email := none }.toWire ≠ { request with email := some email }.toWire := by
  simpa [toWire] using optionalField_none_ne 3 email

end UpdateUserRequest

namespace WireUser

/-- The name under which the status of a number is shown. Only two numbers have a name of their
own. -/
inductive StatusShown : Int32 → String → Prop where
  | active : StatusShown 1 "USER_STATUS_ACTIVE"
  | inactive : StatusShown 2 "USER_STATUS_INACTIVE"
  | unspecified {number : Int32} (notActive : number ≠ 1) (notInactive : number ≠ 2) :
      StatusShown number "USER_STATUS_UNSPECIFIED"

theorem statusShown_ofNumber (number : Int32) :
    StatusShown number (UserStatus.ofNumber number).name := by
  unfold UserStatus.ofNumber
  split
  next active =>
    rw [active]
    exact .active
  next notActive =>
    split
    next inactive =>
      rw [inactive]
      exact .inactive
    next notInactive => exact .unspecified notActive notInactive

end WireUser

/-- **Messages survive the wire.** A user, each of the three requests and a response are read back
from what is written for them. An update without a name or an email is written differently from the
same update with one, even if it is empty. A user that was read is shown with the id, the name, the
email and the roles it was sent with, and with the name of its status. -/
theorem messages_roundTrip :
    RoundTrips WireUser.toWire WireUser.ofWire? ∧
    RoundTrips CreateUserRequest.toWire CreateUserRequest.ofWire? ∧
    RoundTrips UpdateUserRequest.toWire UpdateUserRequest.ofWire? ∧
    RoundTrips GetUserRequest.toWire GetUserRequest.ofWire? ∧
    RoundTrips WireResponse.toWire WireResponse.ofWire? ∧
    (∀ (request : UpdateUserRequest) (text : String),
      { request with name := none }.toWire ≠ { request with name := some text }.toWire ∧
      { request with email := none }.toWire ≠ { request with email := some text }.toWire) ∧
    (∀ user : WireUser, ∃ status, WireUser.StatusShown user.status status ∧
      user.toUser.toJson = .object [("id", .string user.id), ("name", .string user.name),
        ("email", .string user.email), ("roles", .array (user.roles.map .string)),
        ("status", .string status)]) := by
  refine ⟨?user, ?create, ?update, ?get, ?response, ?presence, ?shown⟩
  case user => exact fun user short => user.absorbAll_toWire short nestingLimit
  case create => exact fun request short => request.ofWire?_toWire short
  case update => exact fun request short => request.ofWire?_toWire short
  case get => exact fun request short => request.ofWire?_toWire short
  case response => exact fun response short => response.ofWire?_toWire short
  case presence =>
    intro request text
    exact ⟨request.toWire_name_ne text, request.toWire_email_ne text⟩
  case shown =>
    intro user
    exact ⟨_, WireUser.statusShown_ofNumber user.status, rfl⟩

/-- A user with a name left out, an empty role, a repeated one and a number that is no status. -/
theorem messages_roundTrip_undeclared :
    WireUser.ofWire? (WireUser.toWire ⟨"1", "", "é", ["b", "", "b"], -7⟩) =
      some ⟨"1", "", "é", ["b", "", "b"], -7⟩ := by
  obtain ⟨users, -⟩ := messages_roundTrip
  exact users _ (by decide +kernel)

end ToolGateway
