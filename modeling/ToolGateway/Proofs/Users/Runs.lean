import Mathlib.Data.List.Induction
import ToolGateway.Proofs.Users.Calls
import ToolGateway.Proofs.Users.Store

/-!
# Runs of calls

Calls that a store answers one after the other. A call that makes no request leaves the store alone,
any other one is answered by `perform`; so the ids in a store are those given out to the calls for
new users, in their order.
-/

namespace ToolGateway

/-- The number of calls that make a request for a new user. -/
def UserCall.created (calls : List UserCall) : Nat := calls.countP UserCall.creates

namespace UserStore

open UserCall (created)

variable {ids : Nat → String}

/-- What a caller gets to see of a result. -/
def shown (result : Except BackendError User) : Except BackendError Json :=
  result.map fun user => (UserResponse.mk user).toJson

/-- Answers a call. -/
def answer (ids : Nat → String) (call : UserCall) (store : UserStore) :
    Except BackendError Json × UserStore :=
  store.invoke ids call.method call.arguments

/-- Answers calls, one after the other. -/
def run (ids : Nat → String) : List UserCall → UserStore → List (Except BackendError Json) × UserStore
  | [], store => ([], store)
  | call :: calls, store =>
    let (reply, store) := answer ids call store
    let (replies, store) := run ids calls store
    (reply :: replies, store)

/-- The store after calls were answered, in the beginning an empty one. -/
def after (ids : Nat → String) (calls : List UserCall) : UserStore := (run ids calls empty).2

/-- The reply to a call after other calls. -/
def reply (ids : Nat → String) (calls : List UserCall) (call : UserCall) : Except BackendError Json :=
  (answer ids call (after ids calls)).1

theorem run_append (first second : List UserCall) (store : UserStore) :
    run ids (first ++ second) store =
      ((run ids first store).1 ++ (run ids second (run ids first store).2).1,
        (run ids second (run ids first store).2).2) := by
  induction first generalizing store with
  | nil => rfl
  | cons call rest ih => simp only [List.cons_append, run, ih]

@[simp]
theorem after_concat (calls : List UserCall) (call : UserCall) :
    after ids (calls ++ [call]) = (answer ids call (after ids calls)).2 := by
  rw [after, run_append]
  rfl

theorem run_concat (calls : List UserCall) (call : UserCall) :
    run ids (calls ++ [call]) empty =
      ((run ids calls empty).1 ++ [reply ids calls call], (answer ids call (after ids calls)).2) :=
  run_append calls [call] empty

theorem length_run (calls : List UserCall) (store : UserStore) :
    (run ids calls store).1.length = calls.length := by
  induction calls generalizing store with
  | nil => rfl
  | cons call rest ih => simp only [run, List.length_cons, ih]

/-! ## One call -/

theorem answer_of_asks {call : UserCall} {request : UserRequest} (asks : call.Asks request)
    (store : UserStore) : answer ids call store =
      (shown (store.perform (ids store.size) request).1,
        (store.perform (ids store.size) request).2) := by
  rw [answer, invoke, UserRequest.ofCall_eq_ok_iff.mpr asks]
  rfl

theorem answer_of_refused {call : UserCall} {error : BackendError}
    (refused : UserRequest.ofCall call.method call.arguments = .error error) (store : UserStore) :
    answer ids call store = (.error error, store) := by
  rw [answer, invoke, refused]

theorem reply_of_get {get : UserCall} {id : String} (asks : get.Asks (.get ⟨id⟩))
    (calls : List UserCall) : reply ids calls get = shown ((after ids calls).get ⟨id⟩) := by
  rw [reply, answer_of_asks asks, perform_get]

/-! ## The ids given out -/

theorem created_append (first second : List UserCall) :
    created (first ++ second) = created first + created second := List.countP_append

/-- Only a request for a new user adds an id, and it adds the one it is given. -/
theorem storedIds_perform (store : UserStore) (newId : String) (request : UserRequest) :
    (store.perform newId request).2.storedIds =
      store.storedIds ++ if request.isCreate then [newId] else [] := by
  cases request with
  | create request => exact storedIds_create store newId request
  | update request => exact (storedIds_update store request).trans (List.append_nil _).symm
  | get request => exact (List.append_nil _).symm

/-- The id for a new user does not matter to another request. -/
theorem perform_of_not_isCreate {request : UserRequest} (stays : request.isCreate = false)
    (first second : String) (store : UserStore) :
    store.perform first request = store.perform second request := by
  cases request with
  | create request => cases stays
  | update request => rfl
  | get request => rfl

/-- The ids given out to calls. -/
def givenIds (ids : Nat → String) (calls : List UserCall) : List String :=
  (List.range (created calls)).map ids

theorem givenIds_append (first second : List UserCall) :
    givenIds ids (first ++ second) = givenIds ids first ++
      (List.range (created second)).map fun n => ids (created first + n) := by
  rw [givenIds, created_append, List.range_add, List.map_append, List.map_map]
  rfl

theorem givenIds_concat (calls : List UserCall) (call : UserCall) :
    givenIds ids (calls ++ [call]) =
      givenIds ids calls ++ if call.creates then [ids (created calls)] else [] := by
  have one : created [call] = if call.creates then 1 else 0 := List.countP_singleton
  rw [givenIds_append, one]
  split <;> rfl

theorem length_givenIds (calls : List UserCall) : (givenIds ids calls).length = created calls := by
  rw [givenIds, List.length_map, List.length_range]

theorem storedIds_after (calls : List UserCall) :
    (after ids calls).storedIds = givenIds ids calls := by
  induction calls using List.reverseRecOn with
  | nil => rfl
  | append_singleton calls call ih =>
    have size : (after ids calls).size = created calls := by
      rw [← length_storedIds, ih, length_givenIds]
    rw [after_concat, givenIds_concat]
    rcases call.asks_or_refused with ⟨request, asks⟩ | ⟨error, refused⟩
    · rw [answer_of_asks asks, storedIds_perform, asks.creates_eq, ih, size]
    · rw [answer_of_refused refused, UserCall.creates_of_refused refused, ih]
      exact (List.append_nil _).symm

theorem size_after (calls : List UserCall) : (after ids calls).size = created calls := by
  rw [← length_storedIds, storedIds_after, length_givenIds]

end UserStore

end ToolGateway
