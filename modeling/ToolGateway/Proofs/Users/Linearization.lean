import Mathlib.Data.List.Nodup
import ToolGateway.Proofs.Users.Concurrency

/-!
# Concurrent calls as calls one by one

Calls that share a store get the replies, and leave the users, that they would if they were carried
out one after the other in the order of their critical sections. The proof goes along a run with a
log, which is the store that the calls make that have left their sections. Whoever is inside a section
will finish it with what `perform` makes of the log (`Sound`), and as long as nobody is inside for
writing, the log is the store itself.
-/

namespace ToolGateway.SharedStore

variable {s s' : SharedStore} {log store store' : UserStore} {n m : Nat}

/-- A call makes this request, and has chosen this id if it is for a new user. -/
def Wants (call : UserCall) (newId : Option String) (request : UserRequest) (id : String) : Prop :=
  call.Asks request ∧ newId = if request.isCreate then some id else none

/-! ## The log -/

/-- The calls of these numbers have got the answers that they get one after the other, and this store
is what they make. -/
inductive Served (s : SharedStore) : List Nat → UserStore → Prop where
  | none : Served s [] .empty
  | next {numbers : List Nat} {log : UserStore} {n : Nat} {call : UserCall} {newId : Option String}
      {request : UserRequest} {id : String} (served : Served s numbers log)
      (wants : Wants call newId request id)
      (concluded : s.Concluded n call newId (log.perform id request).1) :
      Served s (numbers ++ [n]) (log.perform id request).2

theorem Step.served {event : Event} (step : Step s event s') {numbers : List Nat}
    (served : Served s numbers log) : Served s' numbers log := by
  induction served with
  | none => exact .none
  | next served wants concluded ih => exact .next ih wants (step.concluded concluded)

/-! ## The lock -/

/-- What holds of a call while the others have made this log and the store is this one. -/
def Sound (store log : UserStore) (task : Task) : Prop :=
  match task.stage with
  | .naming request => task.call.Asks (.create request)
  | .waiting part => ∃ request id, Wants task.call task.newId request id ∧ part = .begin id request
  | .inside part =>
    ∃ request id, Wants task.call task.newId request id ∧ part.finish store = log.perform id request
  | .arrived | .answered _ | .replied _ => True

/-- Store and log matter only to a call that is inside. -/
theorem Sound.of_outside {log' : UserStore} {task : Task} (sound : Sound store log task)
    (outside : ∀ part, task.stage = .inside part → store' = store ∧ log' = log) :
    Sound store' log' task := by
  obtain ⟨call, newId, stage⟩ := task
  cases stage with
  | inside part =>
    obtain ⟨rfl, rfl⟩ := outside part rfl
    exact sound
  | _ => exact sound

/-- A call that holds the lock for writing is the only one that holds it. -/
def Exclusive (s : SharedStore) : Prop :=
  ∀ m n part other, m ≠ n → s.Inside m part → s.Inside n other →
    part.exclusive = false ∧ other.exclusive = false

/-- What the calls that have left their sections have made of an empty store, beside what is there:
the others are sound, and the two are the same while nobody writes. -/
structure Logged (s : SharedStore) (log : UserStore) : Prop where
  sound : ∀ n task, s.tasks n = some task → Sound s.store log task
  exclusive : Exclusive s
  current : Unwritten s → s.store = log

theorem Exclusive.of_inside (exclusive : Exclusive s)
    (inside : ∀ n part, s'.Inside n part → ∃ old, s.Inside n old ∧ old.exclusive = part.exclusive) :
    Exclusive s' := by
  intro m n part other different first second
  obtain ⟨old, before, same⟩ := inside m part first
  obtain ⟨old', before', same'⟩ := inside n other second
  rw [← same, ← same']
  exact exclusive m n old old' different before before'

theorem inside_move_iff {task : Task} {part : Section} :
    (s.move n task).Inside m part ↔
      (m = n ∧ task.stage = .inside part) ∨ (m ≠ n ∧ s.Inside m part) := by
  obtain ⟨call, newId, stage⟩ := task
  by_cases same : m = n
  · subst same
    simp [Inside]
  · simp [Inside, same]

theorem logged_initial : Logged initial .empty where
  sound := by
    intro n task here
    cases here
  exclusive := by
    rintro m n part other - ⟨call, newId, here⟩
    cases here
  current := fun _ => rfl

/-- Only the call that moves has to be looked at. -/
theorem sound_move {task : Task} (sound : Sound store log task)
    (others : ∀ m task, m ≠ n → s.tasks m = some task → Sound store log task) :
    ∀ m task', (s.move n task).tasks m = some task' → Sound store log task' := by
  intro m task' here
  rw [move_tasks, Function.update_apply] at here
  split at here
  · obtain rfl := Option.some.inj here
    exact sound
  next different => exact others m task' different here

namespace Logged

/-- Steps outside of the critical sections. -/
theorem move (logged : Logged s log) {task : Task}
    (before : ∀ call newId part, s.tasks n ≠ some ⟨call, newId, .inside part⟩)
    (sound : Sound s.store log task) (outside : ∀ part, task.stage ≠ .inside part) :
    Logged (s.move n task) log := by
  have inside : ∀ m part, (s.move n task).Inside m part ↔ s.Inside m part := by
    intro m part
    rw [inside_move_iff]
    by_cases same : m = n
    · subst same
      simp [Inside, before, outside]
    · simp [same]
  refine ⟨sound_move sound fun m task _ => logged.sound m task, ?_, ?_⟩
  · exact logged.exclusive.of_inside fun m part there => ⟨part, (inside m part).mp there, rfl⟩
  · intro unwritten
    exact logged.current fun m part there => unwritten m part ((inside m part).mpr there)

theorem enter (logged : Logged s log) {call : UserCall} {newId : Option String} {part : Section}
    (here : s.tasks n = some ⟨call, newId, .waiting part⟩) (admitted : s.Admits part) :
    Logged (s.move n ⟨call, newId, .inside part⟩) log := by
  have current : s.store = log := logged.current fun m other inside => (admitted m other inside).2
  refine ⟨sound_move ?_ fun m task _ => logged.sound m task, ?_, fun _ => current⟩
  · obtain ⟨request, id, wants, rfl⟩ := logged.sound n _ here
    exact ⟨request, id, wants, by rw [Section.finish_begin, move_store, current]⟩
  · intro m m' first second different inside inside'
    rw [inside_move_iff] at inside inside'
    rcases inside with ⟨rfl, same⟩ | ⟨-, inside⟩
    · obtain rfl := Stage.inside.inj same
      rcases inside' with ⟨rfl, -⟩ | ⟨-, inside'⟩
      · exact (different rfl).elim
      · exact admitted m' second inside'
    · rcases inside' with ⟨rfl, same⟩ | ⟨-, inside'⟩
      · obtain rfl := Stage.inside.inj same
        exact (admitted m first inside).symm
      · exact logged.exclusive m m' first second different inside inside'

theorem work (logged : Logged s log) {call : UserCall} {newId : Option String} {part : Section}
    (here : s.tasks n = some ⟨call, newId, .inside part⟩) :
    Logged { s.move n ⟨call, newId, .inside (part.work s.store).1⟩ with
      store := (part.work s.store).2 } log := by
  have inside : s.Inside n part := ⟨call, newId, here⟩
  refine ⟨sound_move ?_ ?_, ?_, ?_⟩
  · obtain ⟨request, id, wants, finishes⟩ := logged.sound n _ here
    exact ⟨request, id, wants, by rw [Section.finish_work, finishes]⟩
  · -- nobody else is inside, or nothing is written
    intro m task different there
    refine (logged.sound m task there).of_outside fun other stage => ⟨?_, rfl⟩
    have inside' : s.Inside m other := ⟨task.call, task.newId, by rw [there, ← stage]⟩
    exact Section.work_of_shared (logged.exclusive m n other part different inside' inside).2 s.store
  · refine logged.exclusive.of_inside fun m other there => ?_
    rcases inside_move_iff.mp there with ⟨rfl, same⟩ | ⟨-, inside'⟩
    · obtain rfl := Stage.inside.inj same
      exact ⟨part, inside, (Section.exclusive_work part s.store).symm⟩
    · exact ⟨other, inside', rfl⟩
  · intro unwritten
    have shared : part.exclusive = false := by
      rw [← Section.exclusive_work part s.store]
      exact unwritten n _ (inside_move_iff.mpr (.inl ⟨rfl, rfl⟩))
    have before : Unwritten s := by
      intro m other inside'
      by_cases same : m = n
      · subst same
        obtain ⟨_, _, there⟩ := inside'
        simp_all
      · exact unwritten m other (inside_move_iff.mpr (.inr ⟨same, inside'⟩))
    exact (Section.work_of_shared shared s.store).trans (logged.current before)

/-- A call that leaves its section enters the log, which catches up with the store. -/
theorem leave (logged : Logged s log) {call : UserCall} {newId : Option String} {exclusive : Bool}
    {answer : Except BackendError User}
    (here : s.tasks n = some ⟨call, newId, .inside (.done exclusive answer)⟩) :
    Logged (s.move n ⟨call, newId, .answered answer⟩) s.store := by
  have inside : s.Inside n (.done exclusive answer) := ⟨call, newId, here⟩
  refine ⟨sound_move trivial ?_, ?_, fun _ => rfl⟩
  · intro m task different there
    refine (logged.sound m task there).of_outside fun other stage => ⟨rfl, ?_⟩
    have inside' : s.Inside m other := ⟨task.call, task.newId, by rw [there, ← stage]⟩
    refine logged.current fun m' part inside'' => ?_
    by_cases same : m' = n
    · subst same
      exact (logged.exclusive m' m part other (Ne.symm different) inside'' inside').1
    · exact (logged.exclusive m' n part _ same inside'' inside).1
  · refine logged.exclusive.of_inside fun m other there => ?_
    rcases inside_move_iff.mp there with ⟨-, stage⟩ | ⟨-, inside'⟩
    · cases stage
    · exact ⟨other, inside', rfl⟩

end Logged

theorem sound_decodedStage {call : UserCall} {request : UserRequest} (asks : call.Asks request) :
    Sound store log ⟨call, none, decodedStage request⟩ := by
  cases request with
  | create request => exact asks
  | update request => exact ⟨_, "", ⟨asks, rfl⟩, rfl⟩
  | get request => exact ⟨_, "", ⟨asks, rfl⟩, rfl⟩

/-- Every run has a log. -/
theorem Runs.logged {events : List Event} (runs : Runs events s) :
    ∃ log, Logged s log ∧ Served s (sections events) log := by
  induction runs with
  | start => exact ⟨.empty, logged_initial, .none⟩
  | @step events event s s' runs step ih =>
    obtain ⟨log, logged, served⟩ := ih
    rw [sections_concat]
    have served := step.served served
    have stays : event.action.leaves = false →
        Served s' (sections events ++ if event.action.leaves then [event.number] else []) log := by
      intro stays
      simpa [stays] using served
    cases step with
    | arrive new => exact ⟨log, logged.move (by simp [new]) trivial (by simp), stays rfl⟩
    | refuse here refused =>
      exact ⟨log, logged.move (by simp [here]) trivial (by simp), stays rfl⟩
    | @decode _ call request here decoded =>
      have asks := UserRequest.ofCall_eq_ok_iff.mp decoded
      have outside : ∀ part, decodedStage request ≠ .inside part := by
        cases request <;> simp [decodedStage]
      exact ⟨log, logged.move (by simp [here]) (sound_decodedStage asks) outside, stays rfl⟩
    | @choose n call request id here fresh =>
      have asks : call.Asks (.create request) := logged.sound _ _ here
      have moved : Logged (s.move n ⟨call, some id, .waiting (.begin id (.create request))⟩) log :=
        logged.move (by simp [here]) ⟨_, id, ⟨asks, rfl⟩, rfl⟩ (by simp)
      exact ⟨log, ⟨moved.sound, moved.exclusive, moved.current⟩, stays rfl⟩
    | enter here admitted => exact ⟨log, logged.enter here admitted, stays rfl⟩
    | work here => exact ⟨log, logged.work here, stays rfl⟩
    | @leave n call newId exclusive answer here =>
      obtain ⟨request, id, wants, finishes⟩ := logged.sound _ _ here
      have same : (answer, s.store) = log.perform id request := finishes
      refine ⟨s.store, logged.leave here, ?_⟩
      have concluded : (s.move n ⟨call, newId, .answered answer⟩).Concluded n call newId
          (log.perform id request).1 := by
        rw [← same]
        exact .inl (Function.update_self ..)
      have next := Served.next served wants concluded
      rw [← same] at next
      exact next
    | reply here => exact ⟨log, logged.move (by simp [here]) trivial (by simp), stays rfl⟩

/-! ## One by one -/

theorem Served.of_nil (served : Served s [] log) : log = .empty := by
  generalize nothing : [] = numbers at served
  cases served with
  | none => rfl
  | next => simp at nothing

theorem Served.of_concat {numbers : List Nat} (served : Served s (numbers ++ [n]) log) :
    ∃ before call newId request id, Served s numbers before ∧ Wants call newId request id ∧
      s.Concluded n call newId (before.perform id request).1 ∧
      log = (before.perform id request).2 := by
  generalize split : numbers ++ [n] = all at served
  cases served with
  | none => simp at split
  | next served wants concluded =>
    obtain ⟨rfl, same⟩ := List.append_inj' split rfl
    obtain rfl := List.singleton_inj.mp same
    exact ⟨_, _, _, _, _, served, wants, concluded, rfl⟩

/-- The store has the ids that the calls chose. -/
theorem Served.storedIds_eq {numbers : List Nat} (served : Served s numbers log) :
    log.storedIds = numbers.filterMap s.idOf? := by
  induction served with
  | none => rfl
  | @next numbers log n call newId request id served wants concluded ih =>
    rw [UserStore.storedIds_perform, ih, List.filterMap_append]
    cases made : request.isCreate <;> simp [concluded.idOf?_eq, wants.2, made]

/-- A refused call chose no id. -/
theorem idOf?_of_refused (refused : s.Refused n) : s.idOf? n = none := by
  obtain ⟨call, error, concluded, -⟩ := refused
  exact concluded.idOf?_eq

theorem filterMap_idOf?_eq {order parts : List Nat}
    (refused : ∀ n ∈ order, n ∉ parts → s.Refused n) :
    (order.filter (· ∈ parts)).filterMap s.idOf? = order.filterMap s.idOf? := by
  rw [List.filterMap_filter]
  refine List.filterMap_congr fun n here => ?_
  by_cases served : n ∈ parts
  · simp [served]
  · simp [served, idOf?_of_refused (refused n here served)]

/-- The ids that calls get one after the other begin with these. -/
def Supplies (ids : Nat → String) (chosen : List String) : Prop :=
  ∀ k id, chosen[k]? = some id → ids k = id

theorem supplies_getD (chosen : List String) : Supplies (fun k => chosen.getD k "") chosen := by
  intro k id found
  simp [found]

theorem Supplies.of_append {ids : Nat → String} {first second : List String}
    (supplies : Supplies ids (first ++ second)) : Supplies ids first := by
  intro k id found
  apply supplies k id
  rw [List.getElem?_append_left (List.getElem?_eq_some_iff.mp found).1]
  exact found

theorem Supplies.last {ids : Nat → String} {chosen : List String} {id : String}
    (supplies : Supplies ids (chosen ++ [id])) : ids chosen.length = id :=
  supplies chosen.length id List.getElem?_concat_length

open UserStore (run after reply shown answer)

variable {ids : Nat → String} {parts order : List Nat}

/-- These replies are those to the calls of these numbers. -/
def Matches (s : SharedStore) (order : List Nat) (replies : List (Except BackendError Json)) : Prop :=
  ∀ n ∈ order, ∀ call newId answer, s.Concluded n call newId answer →
    (n, shown answer) ∈ order.zip replies

theorem Matches.concat {replies : List (Except BackendError Json)} (before : s.Matches order replies)
    (lengths : order.length = replies.length) {call : UserCall} {newId : Option String}
    {answer : Except BackendError User} (concluded : s.Concluded n call newId answer) :
    s.Matches (order ++ [n]) (replies ++ [shown answer]) := by
  intro m member call' newId' answer' concluded'
  rw [List.zip_append lengths, List.mem_append]
  rcases List.mem_append.mp member with earlier | now
  · exact .inl (before m earlier call' newId' answer' concluded')
  · obtain rfl := List.mem_singleton.mp now
    rw [concluded'.answer_eq concluded]
    exact .inr (List.mem_singleton_self _)

theorem answer_of_wants {call : UserCall} {newId : Option String} {request : UserRequest}
    {id : String} (wants : Wants call newId request id)
    (supplied : newId = some id → ids store.size = id) :
    answer ids call store = (shown (store.perform id request).1, (store.perform id request).2) := by
  rw [UserStore.answer_of_asks wants.1]
  cases made : request.isCreate with
  | true => rw [supplied (by rw [wants.2, if_pos made])]
  | false => rw [UserStore.perform_of_not_isCreate made (ids store.size) id]

/-- Calls of which some were served in this order, and the others refused, get the same answers when
they are carried out one after the other. -/
theorem after_of_served (served : Served s (order.filter (· ∈ parts)) log)
    (refused : ∀ n ∈ order, n ∉ parts → s.Refused n)
    (supplies : Supplies ids (order.filterMap s.idOf?)) :
    after ids (order.map s.callOf) = log ∧
      s.Matches order (run ids (order.map s.callOf) .empty).1 := by
  induction order using List.reverseRecOn generalizing log with
  | nil =>
    obtain rfl := served.of_nil
    exact ⟨rfl, fun n here => by cases here⟩
  | append_singleton order n ih =>
    have refused' : ∀ n ∈ order, n ∉ parts → s.Refused n := fun m member =>
      refused m (List.mem_append_left _ member)
    have lengths : order.length = (run ids (order.map s.callOf) .empty).1.length := by
      rw [UserStore.length_run, List.length_map]
    rw [List.filterMap_append] at supplies
    rw [List.map_append, List.map_singleton, UserStore.run_concat, UserStore.after_concat, reply]
    by_cases member : n ∈ parts
    · rw [List.filter_append, List.filter_cons_of_pos (by simpa using member)] at served
      obtain ⟨before, call, newId, request, id, earlier, wants, concluded, rfl⟩ := served.of_concat
      obtain ⟨same, replies⟩ := ih earlier refused' supplies.of_append
      have size : before.size = (order.filterMap s.idOf?).length := by
        rw [← UserStore.length_storedIds, earlier.storedIds_eq, filterMap_idOf?_eq refused']
      have supplied : newId = some id → ids before.size = id := by
        rintro rfl
        rw [size]
        apply Supplies.last
        simpa [concluded.idOf?_eq] using supplies
      rw [same, concluded.callOf_eq, answer_of_wants wants supplied]
      exact ⟨rfl, replies.concat lengths concluded⟩
    · rw [List.filter_append, List.filter_cons_of_neg (by simpa using member), List.filter_nil,
        List.append_nil] at served
      obtain ⟨call, error, concluded, decoded⟩ := refused n (by simp) member
      obtain ⟨same, replies⟩ := ih served refused' supplies.of_append
      rw [same, concluded.callOf_eq, UserStore.answer_of_refused decoded]
      exact ⟨rfl, replies.concat lengths concluded⟩

/-- Whether these calls, answered one by one in this order, explain a run: they get every reply that
was sent, and leave the users that are there when nobody writes. -/
structure Explains (events : List Event) (final : SharedStore) (order : List Nat) : Prop where
  replies : ∀ n reply, ⟨n, .reply reply⟩ ∈ events → (n, reply) ∈ order.zip (final.oneByOne order).1
  users : final.Unwritten → (final.oneByOne order).2 = final.store

theorem Runs.explains {events : List Event} {final : SharedStore} (runs : Runs events final)
    {order : List Nat} (all : order.Perm (settled events))
    (inOrder : order.filter (· ∈ sections events) = sections events) :
    Explains events final order := by
  obtain ⟨log, logged, served⟩ := runs.logged
  have refused : ∀ n ∈ order, n ∉ sections events → final.Refused n := fun n member =>
    runs.refused_of_settled (all.mem_iff.mp member)
  rw [← inOrder] at served
  obtain ⟨same, replies⟩ :=
    after_of_served served refused (supplies_getD (order.filterMap final.idOf?))
  refine ⟨?_, fun unwritten => same.trans (logged.current unwritten).symm⟩
  intro n reply replied
  obtain ⟨call, newId, answer, concluded, rfl⟩ := runs.concluded_of_reply replied
  have member : n ∈ order := by
    rw [all.mem_iff, runs.mem_settled_iff]
    exact ⟨call, newId, answer, concluded⟩
  exact replies n member call newId answer concluded

/-- Calls that share a store are explained by carrying them out one after the other, in the order of
their critical sections and with the refused ones anywhere. One such order is that in which the calls
were settled, where a call that replied comes before all that arrived later. Each call that has left its
section as one for a new user has put its id into the store, once. -/
theorem runs_linearize {events : List Event} {final : SharedStore} (runs : Runs events final) :
    (∀ order : List Nat, order.Perm (settled events) →
      order.filter (· ∈ sections events) = sections events → Explains events final order) ∧
    ((settled events).filter (· ∈ sections events) = sections events ∧ (settled events).Nodup ∧
      ∀ a b reply call, [⟨a, .reply reply⟩, ⟨b, .arrive call⟩].Sublist events →
        b ∈ settled events → [a, b].Sublist (settled events)) ∧
    (∀ n call, ⟨n, .arrive call⟩ ∈ events → final.callOf n = call) ∧
    (∀ n id, ⟨n, .choose id⟩ ∈ events → final.idOf? n = some id) ∧
    (final.Unwritten → final.store.storedIds = (sections events).filterMap final.idOf? ∧
      final.store.storedIds.Nodup) := by
  refine ⟨fun order all inOrder => runs.explains all inOrder,
    ⟨runs.filter_settled, runs.nodup_settled, fun a b reply call => runs.settled_in_time⟩,
    fun n call arrived => (runs.callOf_eq arrived).2, fun n id chosen => runs.idOf?_eq chosen, ?_⟩
  intro unwritten
  obtain ⟨log, logged, served⟩ := runs.logged
  have stored := served.storedIds_eq
  rw [← logged.current unwritten] at stored
  refine ⟨stored, ?_⟩
  rw [stored, ← runs.filter_settled]
  exact (runs.nodup_settled.filter _).filterMap fun m n id first second => runs.idOf?_inj first second

/-- A new user is added between the arrival of a call that reads it and the reading; a third call is
refused meanwhile. -/
theorem runs_linearize_interleaved : ∃ events final, Runs events final ∧
    settled events = [2, 0, 1] ∧ Explains events final [0, 2, 1] := by
  have s1 := Runs.start.step (@Step.arrive _ 0 ⟨"CreateUser", [("name", .string "Ann")]⟩ rfl)
  have s2 := s1.step (@Step.arrive _ 1 ⟨"GetUser", [("id", .string "ann")]⟩ rfl)
  have s3 := s2.step (.decode (n := 0) rfl rfl)
  have s4 := s3.step (@Step.arrive _ 2 ⟨"DropUser", []⟩ rfl)
  have s5 := s4.step (.decode (n := 1) rfl rfl)
  have s6 := s5.step (@Step.choose _ 0 _ _ "ann" rfl (by decide))
  have s7 := s6.step (.refuse (n := 2) rfl rfl)
  have s8 := s7.step (.enter (n := 0) rfl (by
    rintro m other ⟨call, newId, here⟩
    rcases m with _ | _ | _ | m <;> cases here))
  have s9 := s8.step (.work (n := 0) rfl)
  have s10 := s9.step (.leave (n := 0) rfl)
  have s11 := s10.step (.enter (n := 1) rfl (by
    rintro m other ⟨call, newId, here⟩
    rcases m with _ | _ | _ | m <;> cases here))
  have s12 := s11.step (.reply (n := 0) rfl)
  have s13 := s12.step (.work (n := 1) rfl)
  have s14 := s13.step (.leave (n := 1) rfl)
  have s15 := s14.step (.reply (n := 1) rfl)
  exact ⟨_, _, s15, by decide, (runs_linearize s15).1 _ (by decide) (by decide)⟩

end ToolGateway.SharedStore
