import ToolGateway.Proofs.Users.Runs

/-!
# How the users in a store grow

A store gets two kinds of calls: a method is invoked, or a representation of the users is asked for.
`Effect` lists what a call comes to. It adds a user at the end, or it gives the user whose id was asked
for a new name, email and roles, or it leaves the users alone; that is all. So a user keeps its place,
its id and its status for good, and the ids in a store are those that were answered to the calls for
new users, in their order. `users_of_serveAll` says this of the store after any calls.
-/

namespace ToolGateway

/-! ## Calls with their replies -/

/-- What a backend replies to a call. -/
inductive Reply where
  | result (outcome : Outcome Json)
  | representation (outcome : Outcome String)
deriving Inhabited

namespace Backend

variable {σ : Type}

/-- Carries out a call. -/
def serve (backend : Backend σ) (call : Call) (state : σ) : Reply × σ :=
  match call with
  | .invoke method request =>
    let (outcome, state) := backend.invoke method request state
    (.result outcome, state)
  | .materialize typeName =>
    let (outcome, state) := backend.materialize typeName state
    (.representation outcome, state)

/-- Carries out calls, one after the other, and keeps each of them with its reply. -/
def serveAll (backend : Backend σ) : List Call → σ → List (Call × Reply) × σ
  | [], state => ([], state)
  | call :: calls, state =>
    let (reply, state) := backend.serve call state
    let (history, state) := backend.serveAll calls state
    ((call, reply) :: history, state)

theorem serveAll_concat (backend : Backend σ) (calls : List Call) (call : Call) (state : σ) :
    backend.serveAll (calls ++ [call]) state =
      ((backend.serveAll calls state).1 ++
          [(call, (backend.serve call (backend.serveAll calls state).2).1)],
        (backend.serve call (backend.serveAll calls state).2).2) := by
  induction calls generalizing state with
  | nil => rfl
  | cons first rest ih => simp only [List.cons_append, serveAll, ih]

end Backend

namespace UserStore

/-- Whether a call for a new user succeeded. -/
def createdUser : Call × Reply → Bool
  | (.invoke method _, .result (.done _)) => method == "CreateUser"
  | _ => false

/-- The id of the new user, as the reply to a successful call for one gives it. -/
def createdId? (served : Call × Reply) : Option String :=
  match served with
  | (.invoke _ _, .result (.done answer)) =>
    if createdUser served then ((answer.get? "user").bind (·.get? "id")).bind Json.asString?
    else none
  | _ => none

/-! ## What one call does -/

/-- What a call comes to: its reply, and the store after it. -/
inductive Effect (ids : Nat → String) (store : UserStore) : Call → Reply → UserStore → Prop where
  /-- A new user stands at the end. -/
  | creates {request : Json.Object} {user : User} (given : user.id = ids store.size)
      (active : user.status = .active) :
      Effect ids store (.invoke "CreateUser" request)
        (.result (.done (UserResponse.mk user).toJson)) ⟨store.users ++ [user]⟩
  /-- The first user of the id asked for has a new name, email and roles. -/
  | updates {request : Json.Object} {before after : List User} {user : User} {name email : String}
      {roles : List String} (held : store.users = before ++ user :: after)
      (about : UserCall.TextAt request "id" user.id) (first : ∀ other ∈ before, other.id ≠ user.id) :
      Effect ids store (.invoke "UpdateUser" request)
        (.result (.done (UserResponse.mk { user with name, email, roles }).toJson))
        ⟨before ++ { user with name, email, roles } :: after⟩
  | reads {request : Json.Object} {user : User} (held : user ∈ store.users)
      (about : UserCall.TextAt request "id" user.id) :
      Effect ids store (.invoke "GetUser" request)
        (.result (.done (UserResponse.mk user).toJson)) store
  | refused {method : String} {request : Json.Object} {error : BackendError} :
      Effect ids store (.invoke method request) (.result (.failed error)) store
  | lists {typeName : String} :
      Effect ids store (.materialize typeName)
        (.representation (.ofExcept (store.materialize typeName))) store

theorem changeFirst_append {before after : List User} {user : User}
    (first : ∀ other ∈ before, other.id ≠ user.id) (change : User → User) :
    changeFirst user.id change (before ++ user :: after) = before ++ change user :: after := by
  induction before with
  | nil => rw [List.nil_append, changeFirst, if_pos rfl, List.nil_append]
  | cons other before ih =>
    obtain ⟨different, first⟩ := List.forall_mem_cons.mp first
    rw [List.cons_append, changeFirst, if_neg different, ih first, List.cons_append]

theorem exists_append_of_find? {store : UserStore} {id : String} {user : User}
    (found : store.find? id = some user) : ∃ before after,
      store.users = before ++ user :: after ∧ user.id = id ∧
        ∀ other ∈ before, other.id ≠ user.id := by
  obtain ⟨same, before, after, held, others⟩ := List.find?_eq_some_iff_append.mp found
  obtain rfl := eq_of_beq same
  exact ⟨before, after, held, rfl, fun other member => by simpa using others other member⟩

/-- Every call comes to one of these. -/
theorem effect_serve (ids : Nat → String) (store : UserStore) (call : Call) :
    Effect ids store call ((backend ids).serve call store).1 ((backend ids).serve call store).2 := by
  cases call with
  | materialize typeName => exact .lists
  | invoke method request =>
    show Effect ids store _ (.result (.ofExcept (answer ids ⟨method, request⟩ store).1))
      (answer ids ⟨method, request⟩ store).2
    rcases UserCall.asks_or_refused ⟨method, request⟩ with ⟨asked, asks⟩ | ⟨error, refused⟩
    · rw [answer_of_asks asks]
      cases asks with
      | create called =>
        obtain rfl : method = "CreateUser" := called
        exact .creates rfl rfl
      | @update id name email roles called about =>
        obtain rfl : method = "UpdateUser" := called
        rw [perform_update, update]
        cases found : store.find? id with
        | none => exact .refused
        | some user =>
          obtain ⟨before, after, held, rfl, first⟩ := exists_append_of_find? found
          rw [held, changeFirst_append first]
          exact .updates held about first
      | @get id called about =>
        obtain rfl : method = "GetUser" := called
        rw [perform_get, get]
        cases found : store.find? id with
        | none => exact .refused
        | some user =>
          obtain ⟨before, after, held, rfl, -⟩ := exists_append_of_find? found
          exact .reads (by simp [held]) about
    · rw [answer_of_refused refused]
      exact .refused

variable {ids : Nat → String} {store next : UserStore} {call : Call} {reply : Reply}

/-- A user keeps its place, its id and its status, and only an update of its id gives it new values. -/
theorem Effect.getElem?_eq (effect : Effect ids store call reply next) {n : Nat} {user : User}
    (held : store.users[n]? = some user) :
    (∃ name email roles, next.users[n]? = some { user with name, email, roles }) ∧
      ((∀ request, call = .invoke "UpdateUser" request → ¬ UserCall.TextAt request "id" user.id) →
        next.users[n]? = some user) := by
  have unchanged : ∀ users : List User, users[n]? = some user →
      (∃ name email roles, users[n]? = some { user with name, email, roles }) ∧
        ((∀ request, call = .invoke "UpdateUser" request →
          ¬ UserCall.TextAt request "id" user.id) → users[n]? = some user) :=
    fun users same => ⟨⟨_, _, _, same⟩, fun _ => same⟩
  cases effect with
  | creates =>
    refine unchanged _ ?_
    rw [List.getElem?_append_left (List.getElem?_eq_some_iff.mp held).1, held]
  | @updates request before after changed name email roles parts about =>
    rw [parts] at held
    by_cases here : n = before.length
    · subst here
      rw [List.getElem?_append_right (Nat.le_refl _), Nat.sub_self] at held ⊢
      obtain rfl := Option.some.inj held
      exact ⟨⟨_, _, _, rfl⟩, fun other => absurd about (other request rfl)⟩
    · refine unchanged _ ?_
      rw [← held]
      -- the two lists differ at the place of the changed user only
      rcases Nat.lt_or_gt_of_ne here with early | late
      · rw [List.getElem?_append_left early, List.getElem?_append_left early]
      · obtain ⟨d, rfl⟩ := Nat.exists_eq_add_of_lt late
        simp [List.getElem?_append_right, Nat.add_assoc]
  | reads | refused | lists => exact unchanged _ held

/-! ## What holds after any calls -/

/-- What ties the users in a store to the calls that were answered. -/
structure Grown (ids : Nat → String) (history : List (Call × Reply)) (store : UserStore) : Prop where
  listed : store.storedIds = history.filterMap createdId?
  supplied : store.storedIds = (List.range store.size).map ids
  counted : store.size = history.countP createdUser
  active : ∀ user ∈ store.users, user.status = .active

/-- A call that adds no user and changes no id and no status keeps what ties users and calls. -/
theorem Grown.of_same {history : List (Call × Reply)} (grown : Grown ids history store)
    (sameIds : next.storedIds = store.storedIds) (uncreated : createdUser (call, reply) = false)
    (active : ∀ user ∈ next.users, user.status = .active) :
    Grown ids (history ++ [(call, reply)]) next := by
  have size : next.size = store.size := by
    rw [← length_storedIds, sameIds, length_storedIds]
  have unanswered : createdId? (call, reply) = none := by
    unfold createdId?
    split
    next same =>
      rw [uncreated]
      rfl
    next => rfl
  refine ⟨?_, ?_, ?_, active⟩
  · rw [sameIds, grown.listed, List.filterMap_append]
    simp [unanswered]
  · rw [sameIds, size, grown.supplied]
  · rw [size, grown.counted, List.countP_append]
    simp [uncreated]

theorem Effect.grown (effect : Effect ids store call reply next) {history : List (Call × Reply)}
    (grown : Grown ids history store) : Grown ids (history ++ [(call, reply)]) next := by
  cases effect with
  | @creates request user given active =>
    have size : UserStore.size ⟨store.users ++ [user]⟩ = store.size + 1 := List.length_append
    have added : UserStore.storedIds ⟨store.users ++ [user]⟩ = store.storedIds ++ [user.id] :=
      List.map_append
    refine ⟨?_, ?_, ?_, ?_⟩
    · rw [added, grown.listed, List.filterMap_append]
      rfl
    · rw [added, size, List.range_succ, List.map_append, ← grown.supplied, given]
      rfl
    · rw [size, grown.counted, List.countP_append]
      rfl
    · rw [List.forall_mem_append]
      exact ⟨grown.active, by simpa using active⟩
  | @updates request before after user name email roles held =>
    have actives := grown.active
    refine grown.of_same ?_ rfl ?_
    · simp [storedIds, held]
    · rw [held, List.forall_mem_append, List.forall_mem_cons] at actives
      rw [List.forall_mem_append, List.forall_mem_cons]
      exact actives
  | reads => exact grown.of_same rfl rfl grown.active
  | refused => exact grown.of_same rfl rfl grown.active
  | lists => exact grown.of_same rfl rfl grown.active

theorem grown_serveAll (ids : Nat → String) (calls : List Call) :
    Grown ids ((backend ids).serveAll calls empty).1 ((backend ids).serveAll calls empty).2 := by
  induction calls using List.reverseRecOn with
  | nil => exact ⟨rfl, rfl, rfl, List.forall_mem_nil _⟩
  | append_singleton calls call ih =>
    rw [Backend.serveAll_concat]
    exact (effect_serve ids _ call).grown ih

/-- **How the users in a store grow.** After any calls, if the ids given out are different, the ids of
the users are different and are those that the calls for new users were answered, in the order of
these calls; there are as many users as calls for a new one that succeeded, and all of them are
active. A further call has one of five effects, and every user there keeps its place, its id and its
status; unless the call is an update of its id, it keeps all the rest too. -/
theorem users_of_serveAll {ids : Nat → String} {calls : List Call}
    (distinct : ((List.range
      (((backend ids).serveAll calls empty).1.countP createdUser)).map ids).Nodup) :
    let history := ((backend ids).serveAll calls empty).1
    let store := ((backend ids).serveAll calls empty).2
    store.storedIds.Nodup ∧ store.storedIds = history.filterMap createdId? ∧
      store.size = history.countP createdUser ∧ (∀ user ∈ store.users, user.status = .active) ∧
      ∀ call,
        let reply := ((backend ids).serve call store).1
        let next := ((backend ids).serve call store).2
        Effect ids store call reply next ∧
        ∀ (n : Nat) (user : User), store.users[n]? = some user →
          (∃ name email roles, next.users[n]? = some { user with name, email, roles }) ∧
          ((∀ request, call = .invoke "UpdateUser" request →
            ¬ UserCall.TextAt request "id" user.id) → next.users[n]? = some user) := by
  intro history store
  have grown : Grown ids history store := grown_serveAll ids calls
  refine ⟨?_, grown.listed, grown.counted, grown.active, ?_⟩
  · rw [grown.supplied, grown.counted]
    exact distinct
  · intro call reply next
    have effect : Effect ids store call reply next := effect_serve ids store call
    exact ⟨effect, fun n user held => effect.getElem?_eq held⟩

/-- Two users are created, with calls between that fail or only look. -/
def mixedCalls : List Call := [
  .invoke "CreateUser" [("name", .string "Ann"), ("id", .string "root")],
  .materialize "User",
  .invoke "CreateUser" [("name", .null)],
  .invoke "UpdateUser" [("id", .string "bob"), ("name", .string "Bob")],
  .invoke "CreateUser" [("roles", .strings ["admin"])]]

/-- The second id goes to the second call that succeeds, and the first user stays while it changes. -/
theorem users_of_serveAll_mixedCalls :
    let store := ((backend fun n => ["ann", "bob"].getD n "").serveAll mixedCalls empty).2
    store.storedIds = ["ann", "bob"] ∧ store.size = 2 ∧ ∃ name email roles,
      (store.invoke (fun n => ["ann", "bob"].getD n "") "UpdateUser"
        [("id", .string "ann"), ("name", .string "Anna")]).2.users[0]? =
          some ⟨"ann", name, email, roles, .active⟩ := by
  obtain ⟨-, listed, counted, -, step⟩ :=
    @users_of_serveAll (fun n => ["ann", "bob"].getD n "") mixedCalls (by decide)
  exact ⟨listed, counted, ((step (.invoke "UpdateUser"
    [("id", .string "ann"), ("name", .string "Anna")])).2 0 ⟨"ann", "Ann", "", [], .active⟩ rfl).1⟩

end UserStore

end ToolGateway
