import ToolGateway.Proofs.Wire.Field
import ToolGateway.Wire.Users

/-!
# The user service's messages are read back as written

Every string field of a message is written as so many byte strings under its number: one for each
item of a list, one or none for an optional string, and none for an empty string that need not be
told apart from an absent one. `foldlM_stringFields` says what reading such fields does to a message,
and each message is its string fields, one number after the other. A user's status is a number of its
own.
-/

namespace ToolGateway

open Wire

namespace Wire

/-! ## String fields -/

/-- The fields of a number that are written for these strings. -/
def stringFields (number : Nat) (values : List String) : List WireField :=
  values.map fun value => ⟨number, .bytes (Utf8.bytes value)⟩

/-- A string that is not written when it is empty. -/
def filled (value : String) : List String := if value.isEmpty then [] else [value]

@[simp]
theorem flatMap_stringFields (number : Nat) (values : List String) :
    (stringFields number values).flatMap fieldText = repeatedField number values := by
  rw [stringFields, List.flatMap_map]
  rfl

theorem plainField_eq (number : Nat) (value : String) :
    plainField number value = repeatedField number (filled value) := by
  unfold plainField filled
  split <;> simp [repeatedField]

theorem optionalField_eq (number : Nat) (value : Option String) :
    optionalField number value = repeatedField number value.toList := by
  cases value <;> simp [optionalField, repeatedField]

theorem writable_stringFields {number : Nat} (valid : IsFieldNumber number) (values : List String) :
    ∀ field ∈ stringFields number values, Writable field := by
  intro field member
  obtain ⟨value, -, rfl⟩ := List.mem_map.mp member
  exact ⟨valid, .inl ⟨_, rfl⟩⟩

section

variable {α : Type} {absorb : α → WireField → Option α} {number : Nat} {add : α → String → α}

/-- A byte string under this number adds its string to a message. -/
def Takes (absorb : α → WireField → Option α) (number : Nat) (add : α → String → α) : Prop :=
  ∀ message content, absorb message ⟨number, .bytes content⟩ =
    (Utf8.string? content).bind fun value => some (add message value)

/-- Reading string fields takes their strings over one after the other. -/
theorem foldlM_stringFields (takes : Takes absorb number add) (values : List String) (message : α) :
    (stringFields number values).foldlM absorb message = some (values.foldl add message) := by
  induction values generalizing message with
  | nil => rfl
  | cons value rest ih =>
    rw [stringFields, List.map_cons, List.foldlM_cons, takes, Utf8.string?_bytes]
    exact ih (add message value)

/-- A string that is not written when it is empty is taken over all the same, if it is empty to
begin with. -/
theorem foldlM_filled (takes : Takes absorb number add) (value : String) (message : α)
    (empty : add message "" = message) :
    (stringFields number (filled value)).foldlM absorb message = some (add message value) := by
  rw [foldlM_stringFields takes, filled]
  split
  next blank =>
    rw [String.isEmpty_iff.mp blank, empty]
    rfl
  next => rfl

/-- Strings that are added at the end of a list are added all together. -/
theorem foldlM_collected (takes : Takes absorb number add) (addAll : α → List String → α)
    (none : ∀ message, addAll message [] = message)
    (more : ∀ message value rest, addAll (add message value) rest = addAll message (value :: rest))
    (values : List String) (message : α) :
    (stringFields number values).foldlM absorb message = some (addAll message values) := by
  rw [foldlM_stringFields takes]
  induction values generalizing message with
  | nil => rw [none, List.foldl_nil]
  | cons value rest ih => rw [List.foldl_cons, ih, more]

end

end Wire

/-! ## Requests -/

namespace CreateUserRequest

/-- The fields that are written for a request. -/
def wireFields (request : CreateUserRequest) : List WireField :=
  stringFields 1 (filled request.name) ++ stringFields 2 (filled request.email)
    ++ stringFields 3 request.roles

theorem toWire_eq (request : CreateUserRequest) :
    request.toWire = request.wireFields.flatMap fieldText := by
  simp [toWire, wireFields, plainField_eq]

theorem writable_wireFields (request : CreateUserRequest) :
    ∀ field ∈ request.wireFields, Writable field := by
  simp only [wireFields, List.forall_mem_append]
  exact ⟨⟨writable_stringFields (by decide) _, writable_stringFields (by decide) _⟩,
    writable_stringFields (by decide) _⟩

theorem takes_name : Takes absorb 1 fun request name => { request with name } := fun _ _ => rfl

theorem takes_email : Takes absorb 2 fun request email => { request with email } := fun _ _ => rfl

theorem takes_role :
    Takes absorb 3 fun request role => { request with roles := request.roles ++ [role] } :=
  fun _ _ => rfl

theorem foldlM_wireFields (request : CreateUserRequest) :
    request.wireFields.foldlM absorb ⟨"", "", []⟩ = some request := by
  obtain ⟨name, email, roles⟩ := request
  have named := foldlM_filled takes_name name ⟨"", "", []⟩ rfl
  have addressed := foldlM_filled takes_email email ⟨name, "", []⟩ rfl
  have given := foldlM_collected takes_role
    (fun request roles => { request with roles := request.roles ++ roles }) (fun _ => by simp)
    (fun _ _ _ => by simp) roles
  simp only [wireFields, List.foldlM_append, named, addressed, given, Option.bind_eq_bind,
    Option.bind_some, List.nil_append]

/-- A request is read back as it was written. -/
theorem ofWire?_toWire (request : CreateUserRequest) (short : request.toWire.length < wordCount64) :
    ofWire? request.toWire = some request := by
  rw [toWire_eq] at short
  rw [ofWire?, toWire_eq, readFields?_texts request.writable_wireFields short]
  exact request.foldlM_wireFields

end CreateUserRequest

namespace UpdateUserRequest

/-- The fields that are written for a request. -/
def wireFields (request : UpdateUserRequest) : List WireField :=
  stringFields 1 (filled request.id) ++ stringFields 2 request.name.toList
    ++ stringFields 3 request.email.toList ++ stringFields 4 request.roles

theorem toWire_eq (request : UpdateUserRequest) :
    request.toWire = request.wireFields.flatMap fieldText := by
  simp [toWire, wireFields, plainField_eq, optionalField_eq]

theorem writable_wireFields (request : UpdateUserRequest) :
    ∀ field ∈ request.wireFields, Writable field := by
  simp only [wireFields, List.forall_mem_append]
  exact ⟨⟨⟨writable_stringFields (by decide) _, writable_stringFields (by decide) _⟩,
    writable_stringFields (by decide) _⟩, writable_stringFields (by decide) _⟩

theorem takes_id : Takes absorb 1 fun request id => { request with id } := fun _ _ => rfl

theorem takes_name : Takes absorb 2 fun request name => { request with name := some name } :=
  fun _ _ => rfl

theorem takes_email : Takes absorb 3 fun request email => { request with email := some email } :=
  fun _ _ => rfl

theorem takes_role :
    Takes absorb 4 fun request role => { request with roles := request.roles ++ [role] } :=
  fun _ _ => rfl

theorem foldlM_wireFields (request : UpdateUserRequest) :
    request.wireFields.foldlM absorb ⟨"", none, none, []⟩ = some request := by
  obtain ⟨id, name, email, roles⟩ := request
  have about := foldlM_filled takes_id id ⟨"", none, none, []⟩ rfl
  have given := foldlM_collected takes_role
    (fun request roles => { request with roles := request.roles ++ roles }) (fun _ => by simp)
    (fun _ _ _ => by simp) roles
  simp only [wireFields, List.foldlM_append, about, foldlM_stringFields takes_name,
    foldlM_stringFields takes_email, given, Option.bind_eq_bind, Option.bind_some]
  cases name <;> cases email <;> rfl

/-- A request is read back as it was written. -/
theorem ofWire?_toWire (request : UpdateUserRequest) (short : request.toWire.length < wordCount64) :
    ofWire? request.toWire = some request := by
  rw [toWire_eq] at short
  rw [ofWire?, toWire_eq, readFields?_texts request.writable_wireFields short]
  exact request.foldlM_wireFields

end UpdateUserRequest

namespace GetUserRequest

/-- A request is read back as it was written. -/
theorem ofWire?_toWire (request : GetUserRequest) (short : request.toWire.length < wordCount64) :
    ofWire? request.toWire = some request := by
  have written : request.toWire = (stringFields 1 (filled request.id)).flatMap fieldText := by
    rw [flatMap_stringFields, ← plainField_eq]
    rfl
  have takes : Takes absorb 1 fun request id => { request with id } := fun _ _ => rfl
  rw [written] at short
  rw [ofWire?, written, readFields?_texts (writable_stringFields (by decide) _) short]
  exact foldlM_filled takes request.id ⟨""⟩ rfl

end GetUserRequest

/-! ## Responses -/

namespace WireUser

/-- A number of 32 bits is read back from its extension to 64 bits. -/
theorem ofNat_extended (n : Int32) : Int32.ofNat (extended n) = n := by
  have whole : ((extended n : Nat) : Int) = n.toInt % wordCount64 :=
    Int.toNat_of_nonneg (Int.emod_nonneg _ (by decide))
  apply Int32.toInt_inj.mp
  -- 32 bits of the extension are the lower 32 of its 64
  rw [Int32.toInt_ofNat', whole, ← Int.emod_bmod, Int.emod_emod_of_dvd _ (by decide), Int.emod_bmod]
  exact n.toInt_bmod

theorem extended_lt (n : Int32) : extended n < wordCount64 := by
  unfold extended wordCount64
  omega

/-- The field that is written for a status; none is written for zero. -/
def statusFields (status : Int32) : List WireField :=
  if status = 0 then [] else [⟨5, .varint (extended status)⟩]

/-- The fields that are written for a user. -/
def wireFields (user : WireUser) : List WireField :=
  stringFields 1 (filled user.id) ++ stringFields 2 (filled user.name)
    ++ stringFields 3 (filled user.email) ++ stringFields 4 user.roles ++ statusFields user.status

theorem toWire_eq (user : WireUser) : user.toWire = user.wireFields.flatMap fieldText := by
  have status : (statusFields user.status).flatMap fieldText =
      if user.status = 0 then [] else varintField 5 (extended user.status) := by
    unfold statusFields
    split <;> simp [fieldText]
  simp [toWire, wireFields, plainField_eq, status]

theorem writable_wireFields (user : WireUser) : ∀ field ∈ user.wireFields, Writable field := by
  have status : ∀ field ∈ statusFields user.status, Writable field := by
    unfold statusFields
    split
    · simp
    · intro field member
      obtain rfl := List.mem_singleton.mp member
      exact ⟨show IsFieldNumber 5 by decide, .inr ⟨_, extended_lt _, rfl⟩⟩
  simp only [wireFields, List.forall_mem_append]
  exact ⟨⟨⟨⟨writable_stringFields (by decide) _, writable_stringFields (by decide) _⟩,
    writable_stringFields (by decide) _⟩, writable_stringFields (by decide) _⟩, status⟩

theorem takes_id : Takes absorb 1 fun user id => { user with id } := fun _ _ => rfl

theorem takes_name : Takes absorb 2 fun user name => { user with name } := fun _ _ => rfl

theorem takes_email : Takes absorb 3 fun user email => { user with email } := fun _ _ => rfl

theorem takes_role : Takes absorb 4 fun user role => { user with roles := user.roles ++ [role] } :=
  fun _ _ => rfl

theorem foldlM_statusFields (status : Int32) (user : WireUser) (unset : user.status = 0) :
    (statusFields status).foldlM absorb user = some { user with status } := by
  unfold statusFields
  split
  next zero =>
    rw [zero, ← unset]
    rfl
  next =>
    show (some { user with status := Int32.ofNat (extended status) } >>= pure) = _
    rw [ofNat_extended]
    rfl

theorem foldlM_wireFields (user : WireUser) : user.wireFields.foldlM absorb empty = some user := by
  obtain ⟨id, name, email, roles, status⟩ := user
  have known := foldlM_filled takes_id id ⟨"", "", "", [], 0⟩ rfl
  have named := foldlM_filled takes_name name ⟨id, "", "", [], 0⟩ rfl
  have addressed := foldlM_filled takes_email email ⟨id, name, "", [], 0⟩ rfl
  have given := foldlM_collected takes_role
    (fun user roles => { user with roles := user.roles ++ roles }) (fun _ => by simp)
    (fun _ _ _ => by simp) roles
  have set := foldlM_statusFields status ⟨id, name, email, roles, 0⟩ rfl
  simp only [wireFields, empty, List.foldlM_append, known, named, addressed, given, set,
    Option.bind_eq_bind, Option.bind_some, List.nil_append]

theorem absorbAll_toWire (user : WireUser) (short : user.toWire.length < wordCount64) (depth : Nat) :
    empty.absorbAll depth user.toWire = some user := by
  rw [toWire_eq] at short
  rw [absorbAll, toWire_eq, readFields?_texts user.writable_wireFields short]
  exact user.foldlM_wireFields

end WireUser

namespace WireResponse

/-- A response is read back as it was written. -/
theorem ofWire?_toWire (response : WireResponse) (short : response.toWire.length < wordCount64) :
    ofWire? response.toWire = some response := by
  rcases response with ⟨_ | user⟩
  · have read : readFields? nestingLimit [] = some [] := by
      rw [readFields?, readFieldsFrom?]
      rfl
    show readFields? nestingLimit [] >>= _ = _
    rw [read]
    rfl
  · have written : toWire ⟨some user⟩ = [⟨1, .bytes user.toWire⟩].flatMap fieldText := by
      simp [toWire, fieldText]
    have writable : ∀ field ∈ [WireField.mk 1 (.bytes user.toWire)], Writable field := by
      intro field member
      obtain rfl := List.mem_singleton.mp member
      exact ⟨show IsFieldNumber 1 by decide, .inl ⟨_, rfl⟩⟩
    have inner : user.toWire.length < wordCount64 := by
      simp only [toWire, bytesField, Option.map_some, Option.getD_some, List.length_append] at short
      omega
    have taken : absorb empty ⟨1, .bytes user.toWire⟩ = some ⟨some user⟩ := by
      simp [absorb, empty, WireUser.absorbAll_toWire user inner]
    rw [written] at short
    rw [ofWire?, written, readFields?_texts writable short]
    show absorb empty ⟨1, .bytes user.toWire⟩ >>= pure = _
    rw [taken]
    rfl

end WireResponse

end ToolGateway
