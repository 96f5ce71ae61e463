import Mathlib.Data.List.Basic
import Mathlib.Logic.Function.Basic
import ToolGateway.Proofs.Users.Runs
import ToolGateway.Proofs.Users.Section

/-!
# Calls that share a store

Calls that are under way at the same time, and the steps that each of them takes: it decodes its
request, a call for a new user chooses an id that was never chosen, it enters its critical section,
works there, leaves, and replies. `SharedStore.Step` is one step of one call. The lock lets a call in
for writing only if no other call is inside, and for reading only if none is inside for writing; apart
from that the steps of different calls come in any order.
-/

namespace ToolGateway

namespace SharedStore

/-- How far a call has come. -/
inductive Stage where
  | arrived
  /-- Decoded as a request for a new user that has no id yet. -/
  | naming (request : CreateUserRequest)
  /-- Waiting for the lock. -/
  | waiting (part : Section)
  /-- Holding the lock. -/
  | inside (part : Section)
  /-- Done with the lock, or refused without it. -/
  | answered (answer : Except BackendError User)
  | replied (answer : Except BackendError User)

/-- A call that is under way or over, and what it knows. -/
structure Task where
  call : UserCall
  newId : Option String
  stage : Stage

/-- What a call does next. -/
inductive Action where
  | arrive (call : UserCall)
  /-- Fails to decode. -/
  | refuse
  | decode
  | choose (id : String)
  | enter
  | work
  | leave
  | reply (reply : Except BackendError Json)

/-- Whether a call is in its critical section no more. -/
def Action.leaves : Action → Bool
  | leave => true
  | _ => false

/-- Whether the answer to a call is settled. -/
def Action.settles : Action → Bool
  | leave | refuse => true
  | _ => false

theorem Action.settles_of_leaves {action : Action} (leaves : action.leaves = true) :
    action.settles = true := by
  cases action <;> first | rfl | cases leaves

/-- A step of the call of this number. -/
structure Event where
  number : Nat
  action : Action

end SharedStore

open SharedStore in
/-- A store that calls share, the ids chosen so far, and the calls by their numbers. -/
structure SharedStore where
  store : UserStore
  issued : List String
  tasks : Nat → Option Task

namespace SharedStore

def initial : SharedStore := ⟨.empty, [], fun _ => none⟩

/-- The call of this number has come to this point. -/
def move (s : SharedStore) (n : Nat) (task : Task) : SharedStore :=
  { s with tasks := Function.update s.tasks n (some task) }

/-- The call of this number is in its critical section, and this is left of it. -/
def Inside (s : SharedStore) (n : Nat) (part : Section) : Prop :=
  ∃ call newId, s.tasks n = some ⟨call, newId, .inside part⟩

/-- The lock can be had for this section. -/
def Admits (s : SharedStore) (part : Section) : Prop :=
  ∀ m other, s.Inside m other → part.exclusive = false ∧ other.exclusive = false

/-- No call holds the lock for writing. -/
def Unwritten (s : SharedStore) : Prop := ∀ n part, s.Inside n part → part.exclusive = false

/-- The stage of a call whose request was decoded. -/
def decodedStage : UserRequest → Stage
  | .create request => .naming request
  | .update request => .waiting (.search request)
  | .get request => .waiting (.look request.id)

/-- One step of one call. -/
inductive Step (s : SharedStore) : Event → SharedStore → Prop where
  | arrive {n : Nat} {call : UserCall} (new : s.tasks n = none) :
      Step s ⟨n, .arrive call⟩ (s.move n ⟨call, none, .arrived⟩)
  | refuse {n : Nat} {call : UserCall} {error : BackendError}
      (here : s.tasks n = some ⟨call, none, .arrived⟩)
      (refused : UserRequest.ofCall call.method call.arguments = .error error) :
      Step s ⟨n, .refuse⟩ (s.move n ⟨call, none, .answered (.error error)⟩)
  | decode {n : Nat} {call : UserCall} {request : UserRequest}
      (here : s.tasks n = some ⟨call, none, .arrived⟩)
      (decoded : UserRequest.ofCall call.method call.arguments = .ok request) :
      Step s ⟨n, .decode⟩ (s.move n ⟨call, none, decodedStage request⟩)
  | choose {n : Nat} {call : UserCall} {request : CreateUserRequest} {id : String}
      (here : s.tasks n = some ⟨call, none, .naming request⟩) (fresh : id ∉ s.issued) :
      Step s ⟨n, .choose id⟩
        { s.move n ⟨call, some id, .waiting (.push (UserStore.newUser id request))⟩ with
          issued := id :: s.issued }
  | enter {n : Nat} {call : UserCall} {newId : Option String} {part : Section}
      (here : s.tasks n = some ⟨call, newId, .waiting part⟩) (admitted : s.Admits part) :
      Step s ⟨n, .enter⟩ (s.move n ⟨call, newId, .inside part⟩)
  | work {n : Nat} {call : UserCall} {newId : Option String} {part : Section}
      (here : s.tasks n = some ⟨call, newId, .inside part⟩) :
      Step s ⟨n, .work⟩
        { s.move n ⟨call, newId, .inside (part.work s.store).1⟩ with
          store := (part.work s.store).2 }
  | leave {n : Nat} {call : UserCall} {newId : Option String} {exclusive : Bool}
      {answer : Except BackendError User}
      (here : s.tasks n = some ⟨call, newId, .inside (.done exclusive answer)⟩) :
      Step s ⟨n, .leave⟩ (s.move n ⟨call, newId, .answered answer⟩)
  | reply {n : Nat} {call : UserCall} {newId : Option String} {answer : Except BackendError User}
      (here : s.tasks n = some ⟨call, newId, .answered answer⟩) :
      Step s ⟨n, .reply (UserStore.shown answer)⟩ (s.move n ⟨call, newId, .replied answer⟩)

/-- The steps, in their order, that lead from an empty store without calls to a state. -/
inductive Runs : List Event → SharedStore → Prop where
  | start : Runs [] initial
  | step {events : List Event} {event : Event} {s s' : SharedStore} (runs : Runs events s)
      (step : Step s event s') : Runs (events ++ [event]) s'

/-! ## Reading a run -/

/-- The calls in the order in which they left their critical sections. -/
def sections (events : List Event) : List Nat :=
  (events.filter (·.action.leaves)).map Event.number

/-- The calls in the order in which they left their sections or were refused without one. -/
def settled (events : List Event) : List Nat :=
  (events.filter (·.action.settles)).map Event.number

def callOf (s : SharedStore) (n : Nat) : UserCall := ((s.tasks n).map Task.call).getD default

/-- The id that a call for a new user chose. -/
def idOf? (s : SharedStore) (n : Nat) : Option String := (s.tasks n).bind Task.newId

/-- The calls of these numbers answered one after the other, each new user getting the id that the
call chose. -/
def oneByOne (s : SharedStore) (order : List Nat) : List (Except BackendError Json) × UserStore :=
  UserStore.run (fun k => (order.filterMap s.idOf?).getD k "") (order.map s.callOf) .empty

/-! ## What a step leaves -/

section

variable {s s' : SharedStore} {n : Nat} {event : Event}

@[simp]
theorem move_tasks (s : SharedStore) (n : Nat) (task : Task) :
    (s.move n task).tasks = Function.update s.tasks n (some task) := rfl

@[simp]
theorem move_store (s : SharedStore) (n : Nat) (task : Task) : (s.move n task).store = s.store := rfl

@[simp]
theorem move_issued (s : SharedStore) (n : Nat) (task : Task) :
    (s.move n task).issued = s.issued := rfl

/-- A call has its answer, whether or not it has replied. -/
def Concluded (s : SharedStore) (n : Nat) (call : UserCall) (newId : Option String)
    (answer : Except BackendError User) : Prop :=
  s.tasks n = some ⟨call, newId, .answered answer⟩ ∨ s.tasks n = some ⟨call, newId, .replied answer⟩

theorem Concluded.callOf_eq {call : UserCall} {newId : Option String}
    {answer : Except BackendError User} (concluded : s.Concluded n call newId answer) :
    s.callOf n = call := by
  rcases concluded with here | here <;> rw [callOf, here] <;> rfl

theorem Concluded.idOf?_eq {call : UserCall} {newId : Option String}
    {answer : Except BackendError User} (concluded : s.Concluded n call newId answer) :
    s.idOf? n = newId := by
  rcases concluded with here | here <;> rw [idOf?, here] <;> rfl

theorem Concluded.answer_eq {call call' : UserCall} {newId newId' : Option String}
    {answer answer' : Except BackendError User} (concluded : s.Concluded n call newId answer)
    (concluded' : s.Concluded n call' newId' answer') : answer = answer' := by
  rcases concluded with here | here <;> rcases concluded' with here' | here' <;>
    rw [here] at here' <;> cases here' <;> rfl

theorem Step.tasks_eq (step : Step s event s') :
    ∃ task, s'.tasks = Function.update s.tasks event.number (some task) := by
  cases step <;> exact ⟨_, rfl⟩

/-- The other calls stay where they are. -/
theorem Step.tasks_of_ne (step : Step s event s') (other : n ≠ event.number) :
    s'.tasks n = s.tasks n := by
  obtain ⟨task, moved⟩ := step.tasks_eq
  rw [moved, Function.update_of_ne other]

/-- An answer stays. -/
theorem Step.concluded (step : Step s event s') {call : UserCall} {newId : Option String}
    {answer : Except BackendError User} (concluded : s.Concluded n call newId answer) :
    s'.Concluded n call newId answer := by
  by_cases same : n = event.number
  · subst same
    cases step <;> simp_all [Concluded]
  · rw [Concluded, step.tasks_of_ne same]
    exact concluded

/-- A call keeps what it was called with. -/
theorem Step.callOf_eq (step : Step s event s') (known : s.tasks n ≠ none) :
    s'.tasks n ≠ none ∧ s'.callOf n = s.callOf n := by
  by_cases same : n = event.number
  · subst same
    cases step <;> simp_all [callOf]
  · rw [callOf, step.tasks_of_ne same]
    exact ⟨known, rfl⟩

/-- An id that was chosen is kept. -/
theorem Step.idOf?_eq (step : Step s event s') {id : String} (chosen : s.idOf? n = some id) :
    s'.idOf? n = some id := by
  by_cases same : n = event.number
  · subst same
    cases step <;> simp_all [idOf?]
  · rw [idOf?, step.tasks_of_ne same]
    exact chosen

/-- An id that is new in a step is one that was never chosen before. -/
theorem Step.idOf?_cases (step : Step s event s') {id : String} (chosen : s'.idOf? n = some id) :
    s.idOf? n = some id ∨ (n = event.number ∧ id ∉ s.issued ∧ id ∈ s'.issued) := by
  by_cases same : n = event.number
  · subst same
    cases step <;> simp_all [idOf?]
  · rw [idOf?, step.tasks_of_ne same] at chosen
    exact .inl chosen

theorem Step.issued_subset (step : Step s event s') : s.issued ⊆ s'.issued := by
  cases step <;> simp

end

/-! ## Who has an answer -/

def Settled (s : SharedStore) (n : Nat) : Prop :=
  ∃ call newId answer, s.Concluded n call newId answer

/-- The call was refused without entering a critical section. -/
def Refused (s : SharedStore) (n : Nat) : Prop :=
  ∃ call error, s.Concluded n call none (.error error) ∧
    UserRequest.ofCall call.method call.arguments = .error error

section

variable {s s' : SharedStore} {n : Nat} {event : Event}

theorem Step.settled_iff (step : Step s event s') :
    s'.Settled n ↔ s.Settled n ∨ (n = event.number ∧ event.action.settles = true) := by
  by_cases same : n = event.number
  · subst same
    cases step with
    | @decode _ _ request here decoded =>
      cases request <;> simp_all [Settled, Concluded, Action.settles, decodedStage]
    | _ => simp_all [Settled, Concluded, Action.settles]
  · simp [Settled, Concluded, step.tasks_of_ne same, same]

/-- A call gets its answer once. -/
theorem Step.not_settled (step : Step s event s') (settles : event.action.settles = true) :
    ¬ s.Settled event.number := by
  cases step <;> simp_all [Settled, Concluded, Action.settles]

theorem Step.leaves_or_refused (step : Step s event s') (settles : event.action.settles = true) :
    event.action.leaves = true ∨ s'.Refused event.number := by
  cases step <;> simp_all [Refused, Concluded, Action.settles, Action.leaves]

theorem Step.refused (step : Step s event s') (refused : s.Refused n) : s'.Refused n := by
  obtain ⟨call, error, concluded, decoded⟩ := refused
  exact ⟨call, error, step.concluded concluded, decoded⟩

end

/-! ## What a run leaves -/

theorem settled_concat (events : List Event) (event : Event) :
    settled (events ++ [event]) =
      settled events ++ if event.action.settles then [event.number] else [] := by
  cases settles : event.action.settles <;> simp [settled, settles]

theorem sections_concat (events : List Event) (event : Event) :
    sections (events ++ [event]) =
      sections events ++ if event.action.leaves then [event.number] else [] := by
  cases leaves : event.action.leaves <;> simp [sections, leaves]

theorem mem_settled_of_mem_sections {events : List Event} {n : Nat} (left : n ∈ sections events) :
    n ∈ settled events := by
  obtain ⟨event, happened, rfl⟩ := List.mem_map.mp left
  rw [List.mem_filter] at happened
  exact List.mem_map.mpr
    ⟨event, List.mem_filter.mpr ⟨happened.1, Action.settles_of_leaves happened.2⟩, rfl⟩

namespace Runs

variable {events : List Event} {s : SharedStore} {n : Nat}

theorem mem_settled_iff (runs : Runs events s) : n ∈ settled events ↔ s.Settled n := by
  induction runs with
  | start => simp [settled, initial, Settled, Concluded]
  | @step events event _ _ runs step ih =>
    rw [settled_concat, List.mem_append, ih, step.settled_iff]
    cases event.action.settles <;> simp

theorem not_mem_settled (runs : Runs events s) {s' : SharedStore} {event : Event}
    (step : Step s event s') (settles : event.action.settles = true) :
    event.number ∉ settled events := by
  rw [runs.mem_settled_iff]
  exact step.not_settled settles

theorem nodup_settled (runs : Runs events s) : (settled events).Nodup := by
  induction runs with
  | start => exact List.nodup_nil
  | @step events event _ _ runs step ih =>
    rw [settled_concat]
    split
    next settles =>
      refine List.nodup_append.mpr ⟨ih, List.pairwise_singleton _ _, ?_⟩
      intro m earlier m' now same
      rw [same, List.mem_singleton.mp now] at earlier
      exact runs.not_mem_settled step settles earlier
    next => rwa [List.append_nil]

/-- Among the settled calls, those with a critical section stand in the order of these. -/
theorem filter_settled (runs : Runs events s) :
    (settled events).filter (· ∈ sections events) = sections events := by
  induction runs with
  | start => rfl
  | @step events event _ _ runs step ih =>
    rw [settled_concat, sections_concat]
    cases leaves : event.action.leaves with
    | true =>
      have settles := Action.settles_of_leaves leaves
      have earlier : (settled events).filter (· ∈ sections events ++ [event.number]) =
          (settled events).filter (· ∈ sections events) := by
        refine List.filter_congr fun m before => ?_
        have other : m ≠ event.number := by
          rintro rfl
          exact runs.not_mem_settled step settles before
        simp [other]
      rw [if_pos settles, if_pos rfl, List.filter_append, earlier, ih]
      simp
    | false =>
      cases settles : event.action.settles with
      | true =>
        have apart : event.number ∉ sections events := fun left =>
          runs.not_mem_settled step settles (mem_settled_of_mem_sections left)
        simp [List.filter_append, ih, apart]
      | false => simp [ih]

theorem refused_of_settled (runs : Runs events s) (answered : n ∈ settled events)
    (apart : n ∉ sections events) : s.Refused n := by
  induction runs with
  | start => cases answered
  | @step events event _ _ runs step ih =>
    rw [sections_concat, List.mem_append, not_or] at apart
    rw [settled_concat, List.mem_append] at answered
    rcases answered with earlier | now
    · exact step.refused (ih earlier apart.1)
    · cases settles : event.action.settles with
      | false => simp [settles] at now
      | true =>
        obtain rfl : n = event.number := by simpa [settles] using now
        rcases step.leaves_or_refused settles with leaves | refused
        · simp [leaves] at apart
        · exact refused

theorem concluded_of_reply (runs : Runs events s) {reply : Except BackendError Json}
    (replied : ⟨n, .reply reply⟩ ∈ events) :
    ∃ call newId answer, s.Concluded n call newId answer ∧ reply = UserStore.shown answer := by
  induction runs with
  | start => cases replied
  | step runs step ih =>
    rcases List.mem_append.mp replied with earlier | now
    · obtain ⟨call, newId, answer, concluded, same⟩ := ih earlier
      exact ⟨call, newId, answer, step.concluded concluded, same⟩
    · obtain rfl := List.mem_singleton.mp now
      cases step with
      | @reply _ call newId answer here =>
        exact ⟨call, newId, answer, .inr (Function.update_self ..), rfl⟩

theorem callOf_eq (runs : Runs events s) {call : UserCall} (arrived : ⟨n, .arrive call⟩ ∈ events) :
    s.tasks n ≠ none ∧ s.callOf n = call := by
  induction runs with
  | start => cases arrived
  | step runs step ih =>
    rcases List.mem_append.mp arrived with earlier | now
    · obtain ⟨known, same⟩ := ih earlier
      rw [← same]
      exact step.callOf_eq known
    · obtain rfl := List.mem_singleton.mp now
      cases step with
      | arrive new => simp [callOf]

theorem idOf?_eq (runs : Runs events s) {id : String} (chosen : ⟨n, .choose id⟩ ∈ events) :
    s.idOf? n = some id := by
  induction runs with
  | start => cases chosen
  | step runs step ih =>
    rcases List.mem_append.mp chosen with earlier | now
    · exact step.idOf?_eq (ih earlier)
    · obtain rfl := List.mem_singleton.mp now
      cases step with
      | choose here fresh => simp [idOf?]

theorem mem_issued (runs : Runs events s) {id : String} (chosen : s.idOf? n = some id) :
    id ∈ s.issued := by
  induction runs with
  | start => cases chosen
  | step runs step ih =>
    rcases step.idOf?_cases chosen with earlier | ⟨-, -, now⟩
    · exact step.issued_subset (ih earlier)
    · exact now

/-- Different calls have different ids. -/
theorem idOf?_inj (runs : Runs events s) {m : Nat} {id : String} (first : s.idOf? m = some id)
    (second : s.idOf? n = some id) : m = n := by
  induction runs with
  | start => cases first
  | step runs step ih =>
    rcases step.idOf?_cases first with earlier | ⟨here, fresh, -⟩
    · rcases step.idOf?_cases second with earlier' | ⟨-, fresh, -⟩
      · exact ih earlier earlier'
      · exact (fresh (runs.mem_issued earlier)).elim
    · rcases step.idOf?_cases second with earlier' | ⟨here', -, -⟩
      · exact (fresh (runs.mem_issued earlier')).elim
      · exact here.trans here'.symm

/-- A call that replied before another one arrived is settled before it. -/
theorem settled_in_time (runs : Runs events s) {a b : Nat} {reply : Except BackendError Json}
    {call : UserCall} (before : [⟨a, .reply reply⟩, ⟨b, .arrive call⟩].Sublist events)
    (answered : b ∈ settled events) : [a, b].Sublist (settled events) := by
  induction runs with
  | start => cases before
  | @step events event _ _ runs step ih =>
    rw [settled_concat] at answered ⊢
    obtain ⟨first, second, split, earlier, now⟩ := List.sublist_append_iff.mp before
    rcases List.sublist_singleton.mp now with rfl | rfl
    · rw [List.append_nil] at split
      subst split
      rcases List.mem_append.mp answered with settled | settles
      · exact (ih earlier settled).trans (List.sublist_append_left _ _)
      · -- `b` is settled by this step, `a` since it replied
        obtain ⟨call, newId, answer, concluded, -⟩ :=
          runs.concluded_of_reply (earlier.subset List.mem_cons_self)
        have first : a ∈ settled events := runs.mem_settled_iff.mpr ⟨call, newId, answer, concluded⟩
        exact (List.singleton_sublist.mpr first).append (List.singleton_sublist.mpr settles)
    · -- `b` arrives with this step, so it is not settled yet
      have split : [_] ++ [_] = first ++ [event] := split
      obtain ⟨-, same⟩ := List.append_inj' split rfl
      obtain rfl := List.singleton_inj.mp same
      cases step with
      | arrive new =>
        rw [if_neg (by simp [Action.settles]), List.append_nil, runs.mem_settled_iff] at answered
        obtain ⟨_, _, _, here | here⟩ := answered <;> simp [new] at here

end Runs

end SharedStore

end ToolGateway
