import Mathlib.Data.List.Perm.Basic
import ToolGateway.Proofs.Users.Runs
import ToolGateway.Proofs.Users.Section

/-!
# Updates one after the other

An update is a change of one user: it writes the parts that it provides and leaves the others. So two
updates of one id are a single one, which takes each part from the later of the two that provides it
(`update_update`), and two updates can change places when they are `Independent`: their ids differ, or
no part is provided by both (`update_comm`). All of this holds of any store and whether or not there is
a user of the id, since an update that finds nobody changes nothing.

* `updateAll_eq_merged`, `updateAll_of_perm`: the same of any number of updates.
* `updates_compose`: the laws for two calls, with their replies.
-/

namespace ToolGateway

/-- The parts of a user that an update can provide. -/
inductive UserPart where
  | name
  | email
  | roles
deriving DecidableEq

namespace UpdateUserRequest

/-- The update provides this part: a name or an email that is there, or roles that are not empty. -/
inductive Provides (request : UpdateUserRequest) : UserPart → Prop where
  | name {name : String} (given : request.name = some name) : Provides request .name
  | email {email : String} (given : request.email = some email) : Provides request .email
  | roles (filled : request.roles ≠ []) : Provides request .roles

/-- Two updates that write nothing in common: they are about different ids, or no part is provided by
both. -/
def Independent (first second : UpdateUserRequest) : Prop :=
  first.id ≠ second.id ∨ ∀ part, first.Provides part → ¬ second.Provides part

/-- One update for two: each part is taken from the second if it provides it, and else from the
first. -/
def merge (first second : UpdateUserRequest) : UpdateUserRequest where
  id := second.id
  name := second.name.or first.name
  email := second.email.or first.email
  roles := if second.roles.isEmpty then first.roles else second.roles

theorem merge_self (request : UpdateUserRequest) : request.merge request = request := by
  obtain ⟨id, name, email, roles⟩ := request
  simp [merge]

theorem Independent.symm {first second : UpdateUserRequest} (independent : first.Independent second) :
    second.Independent first := by
  rcases independent with different | disjoint
  · exact .inl (Ne.symm different)
  · exact .inr fun part provided before => disjoint part before provided

theorem none_or_none {α : Type} {first second : Option α}
    (apart : ∀ x y, first = some x → second = some y → False) : first = none ∨ second = none := by
  cases first with
  | none => exact .inl rfl
  | some x =>
    cases second with
    | none => exact .inr rfl
    | some y => exact (apart x y rfl rfl).elim

theorem or_comm_of_none {α : Type} {first second : Option α} (none : first = none ∨ second = none) :
    second.or first = first.or second := by
  rcases none with rfl | rfl <;> simp

/-- Updates that provide different parts merge to the same update either way. -/
theorem merge_comm {first second : UpdateUserRequest} (same : first.id = second.id)
    (disjoint : ∀ part, first.Provides part → ¬ second.Provides part) :
    first.merge second = second.merge first := by
  have name := none_or_none fun _ _ before after => disjoint .name (.name before) (.name after)
  have email := none_or_none fun _ _ before after => disjoint .email (.email before) (.email after)
  have roles : first.roles = [] ∨ second.roles = [] := by
    by_contra both
    obtain ⟨before, after⟩ := not_or.mp both
    exact disjoint .roles (.roles before) (.roles after)
  simp only [merge, same, or_comm_of_none name, or_comm_of_none email, mk.injEq, true_and]
  rcases roles with none | none <;> simp +contextual [none]

/-- The call of `UpdateUser` for an update. -/
def call (request : UpdateUserRequest) : UserCall where
  method := "UpdateUser"
  arguments := [("id", .string request.id), ("name", .ofString? request.name),
    ("email", .ofString? request.email), ("roles", .strings request.roles)]

theorem asks_call (request : UpdateUserRequest) : request.call.Asks (.update request) :=
  .update rfl (.inl rfl) (.inl rfl) (.inl rfl) (.inl rfl)

end UpdateUserRequest

namespace UserStore

open UpdateUserRequest

variable {store : UserStore} {first second : UpdateUserRequest}

/-! ## One update -/

theorem changed_changed (first second : UpdateUserRequest) (user : User) :
    changed second (changed first user) = changed (first.merge second) user := by
  obtain ⟨id, name, email, roles⟩ := second
  cases name <;> cases email <;> cases roles <;> simp [changed, merge]

theorem changeFirst_of_absent {id : String} {change : User → User} {users : List User}
    (absent : users.find? (fun user => user.id == id) = none) :
    changeFirst id change users = users := by
  induction users with
  | nil => rfl
  | cons user rest ih =>
    obtain ⟨other, absent⟩ := List.forall_mem_cons.mp (List.find?_eq_none.mp absent)
    rw [changeFirst, if_neg (by simpa using other), ih (List.find?_eq_none.mpr absent)]

/-- An update changes the first user of its id, where there is one. -/
theorem update_snd (store : UserStore) (request : UpdateUserRequest) :
    (store.update request).2 = ⟨changeFirst request.id (changed request) store.users⟩ := by
  rw [update]
  split
  next absent => rw [changeFirst_of_absent absent]
  next => rfl

/-- Changes of users with different ids can change places. -/
theorem changeFirst_comm {id other : String} (different : id ≠ other) {first second : User → User}
    (keeps : ∀ user, (first user).id = user.id) (keeps' : ∀ user, (second user).id = user.id)
    (users : List User) :
    changeFirst other second (changeFirst id first users) =
      changeFirst id first (changeFirst other second users) := by
  induction users with
  | nil => rfl
  | cons user rest ih =>
    by_cases here : user.id = id
    · have there : user.id ≠ other := here ▸ different
      simp [changeFirst, here, keeps, different]
    · by_cases there : user.id = other
      · simp [changeFirst, there, keeps', Ne.symm different]
      · simp [changeFirst, here, there, ih]

/-! ## Two updates -/

/-- Two updates of one id are one, in what they leave and in the last reply. -/
theorem update_update (store : UserStore) (same : first.id = second.id) :
    (store.update first).2.update second = store.update (first.merge second) := by
  have left : ((store.update first).2.update second).2 = (store.update (first.merge second)).2 := by
    rw [update_snd, update_snd, update_snd, same, changeFirst_changeFirst (changed_id first)]
    simp only [changed_changed]
    rfl
  refine Prod.ext ?_ left
  rw [update_fst, update_fst, left]
  rfl

theorem update_comm_of_ne (store : UserStore) (different : first.id ≠ second.id) :
    ((store.update first).2.update second).2 = ((store.update second).2.update first).2 := by
  simp only [update_snd]
  rw [changeFirst_comm different (changed_id first) (changed_id second)]

/-- What an update answers does not depend on an update of another id before it. -/
theorem update_fst_of_ne (store : UserStore) (different : first.id ≠ second.id) :
    ((store.update first).2.update second).1 = (store.update second).1 := by
  have unmoved : (store.update first).2.find? second.id = store.find? second.id := by
    rw [find?_update, if_neg (Ne.symm different)]
  have alike : ((store.update first).2.update second).2.find? second.id =
      (store.update second).2.find? second.id := by
    rw [find?_update _ second, find?_update store second, unmoved]
  rw [update_fst, update_fst store, get, get, alike]

/-- Independent updates leave the same store in either order. -/
theorem update_comm (store : UserStore) (independent : first.Independent second) :
    ((store.update first).2.update second).2 = ((store.update second).2.update first).2 := by
  by_cases same : first.id = second.id
  · have disjoint := independent.resolve_left (not_not_intro same)
    rw [update_update store same, update_update store same.symm, merge_comm same disjoint]
  · exact update_comm_of_ne store same

/-! ## Any number of updates -/

/-- The store after updates, one after the other. -/
def updateAll (store : UserStore) (requests : List UpdateUserRequest) : UserStore :=
  requests.foldl (fun store request => (store.update request).2) store

/-- Updates of one id are one update. -/
theorem updateAll_eq_merged (store : UserStore) {requests : List UpdateUserRequest}
    (same : ∀ request ∈ requests, request.id = first.id) :
    store.updateAll (first :: requests) = (store.update (requests.foldl merge first)).2 := by
  induction requests generalizing first with
  | nil => rfl
  | cons second requests ih =>
    obtain ⟨next, same⟩ := List.forall_mem_cons.mp same
    have merged : store.updateAll (first :: second :: requests) =
        store.updateAll (first.merge second :: requests) := by
      simp only [updateAll, List.foldl_cons, update_update store next.symm]
    rw [merged, List.foldl_cons]
    exact ih fun request member => (same request member).trans next.symm

/-- Updates of which any two are independent leave the same store in any order. -/
theorem updateAll_of_perm (store : UserStore) {requests others : List UpdateUserRequest}
    (perm : requests.Perm others) (independent : requests.Pairwise Independent) :
    store.updateAll requests = store.updateAll others := by
  induction perm generalizing store with
  | nil => rfl
  | cons request _ ih =>
    exact ih _ (List.pairwise_cons.mp independent).2
  | swap first second rest =>
    have apart := (List.pairwise_cons.mp independent).1 first List.mem_cons_self
    simp only [updateAll, List.foldl_cons, update_comm store apart]
  | trans before _ ih ih' =>
    exact (ih store independent).trans
      (ih' store (before.pairwise independent fun apart => apart.symm))

/-! ## Calls -/

variable {ids : Nat → String} {call other : UserCall}

theorem answer_of_update (asks : call.Asks (.update first)) (store : UserStore) :
    answer ids call store = (shown (store.update first).1, (store.update first).2) :=
  answer_of_asks asks store

/-- Two calls for updates, one after the other. -/
theorem run_updates (asks : call.Asks (.update first)) (asks' : other.Asks (.update second))
    (store : UserStore) : run ids [call, other] store =
      ([shown (store.update first).1, shown ((store.update first).2.update second).1],
        ((store.update first).2.update second).2) := by
  simp only [run, answer_of_update asks, answer_of_update asks']

/-- **Updates compose, and independent updates commute.** Take two calls for updates. If they are about
one id, they leave the users that the single merged update leaves, and the second is answered as that
one is; so a call made twice is a call made once. If they are about different ids, or provide no part
in common, they leave the same users in either order, and if the ids differ, each call also gets the
same reply in either order. -/
theorem updates_compose (ids : Nat → String) (store : UserStore) {call other : UserCall}
    {first second : UpdateUserRequest} (asks : call.Asks (.update first))
    (asks' : other.Asks (.update second)) :
    (first.id = second.id →
      (∃ merged : UserCall, merged.Asks (.update (first.merge second))) ∧
      ∀ merged : UserCall, merged.Asks (.update (first.merge second)) →
        (run ids [call, other] store).2 = (answer ids merged store).2 ∧
        (run ids [call, other] store).1.getLast? = some (answer ids merged store).1) ∧
    run ids [call, call] store =
      ([(answer ids call store).1, (answer ids call store).1], (answer ids call store).2) ∧
    (first.Independent second →
      (run ids [call, other] store).2 = (run ids [other, call] store).2) ∧
    (first.id ≠ second.id →
      (run ids [other, call] store).1 = (run ids [call, other] store).1.reverse) := by
  refine ⟨?merged, ?twice, ?commute, ?replies⟩
  case merged =>
    intro same
    refine ⟨⟨_, asks_call _⟩, fun merged asksMerged => ?_⟩
    rw [run_updates asks asks', answer_of_update asksMerged, update_update store same]
    exact ⟨rfl, rfl⟩
  case twice =>
    rw [run_updates asks asks, answer_of_update asks, update_update store rfl, merge_self]
  case commute =>
    intro independent
    rw [run_updates asks asks', run_updates asks' asks]
    exact update_comm store independent
  case replies =>
    intro different
    rw [run_updates asks asks', run_updates asks' asks, update_fst_of_ne store different,
      update_fst_of_ne store (Ne.symm different)]
    rfl

/-- A user whose email and name are changed by two calls, one of which gives `null` and no roles. -/
theorem updates_compose_annToBea :
    let store : UserStore := ⟨[⟨"u", "Ann", "ann@x", ["admin"], .active⟩]⟩
    let readdress : UserCall := ⟨"UpdateUser", [("id", .string "u"), ("name", .null),
      ("email", .string "bea@x"), ("roles", .array [])]⟩
    let rename : UserCall := ⟨"UpdateUser", [("id", .string "u"), ("name", .string "Bea")]⟩
    let changed : UserStore := ⟨[⟨"u", "Bea", "bea@x", ["admin"], .active⟩]⟩
    (run (fun _ => "u") [readdress, rename] store).2 = changed ∧
      (run (fun _ => "u") [rename, readdress] store).2 = changed := by
  intro store readdress rename changed
  have readdresses : readdress.Asks (.update ⟨"u", none, some "bea@x", []⟩) :=
    .update rfl (.inl rfl) (.inl rfl) (.inl rfl) (.inl rfl)
  have renames : rename.Asks (.update ⟨"u", some "Bea", none, []⟩) :=
    .update rfl (.inl rfl) (.inl rfl) (.inr ⟨rfl, rfl⟩) (.inr ⟨rfl, rfl⟩)
  have independent : Independent ⟨"u", none, some "bea@x", []⟩ ⟨"u", some "Bea", none, []⟩ := by
    refine .inr ?_
    rintro _ (given | _ | filled)
    · cases given
    · rintro ⟨⟩
      contradiction
    · exact absurd rfl filled
  obtain ⟨composed, -, commute, -⟩ := updates_compose (fun _ => "u") store readdresses renames
  obtain ⟨merged, -⟩ := (composed rfl).2 _ (asks_call _)
  have left : (run (fun _ => "u") [readdress, rename] store).2 = changed := merged
  exact ⟨left, (commute independent).symm.trans left⟩

end UserStore

end ToolGateway
