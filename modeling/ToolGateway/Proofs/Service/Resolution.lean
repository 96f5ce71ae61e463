import ToolGateway.Proofs.Service.Names
import ToolGateway.Service.DefinitionFile

/-!
# Resolved definition files

A definition file resolves only if the names of its messages differ, and then the messages of the
service are those of the file, in their order. Since a selection only leaves messages out, every
resource catalog of a service that was read from a text is built.
-/

namespace ToolGateway

namespace DefinitionFile

theorem addMessage_eq_ok_iff {before after : List Message} {entry : MessageEntry} :
    addMessage before entry = .ok after ↔ entry.name ∉ before.map Message.name ∧
      (entry.fields.map FieldEntry.name).Nodup ∧ after = before ++ [entry.message] := by
  rw [← firstRepeated?_eq_none_iff, addMessage]
  split
  next known =>
    have member : entry.name ∈ before.map Message.name := by simpa using known
    simp [member]
  next fresh =>
    have outside : entry.name ∉ before.map Message.name := by simpa using fresh
    split
    next field repeated => simp [repeated]
    next differ => simp [outside, differ, eq_comm]

/-- Adding message after message keeps the names apart. -/
theorem foldlM_addMessage_eq_ok_iff {entries : List MessageEntry} {before after : List Message}
    (apart : (before.map Message.name).Nodup) :
    entries.foldlM addMessage before = .ok after ↔
      (before.map Message.name ++ entries.map MessageEntry.name).Nodup ∧
        (∀ entry ∈ entries, (entry.fields.map FieldEntry.name).Nodup) ∧
          after = before ++ entries.map MessageEntry.message := by
  induction entries generalizing before with
  | nil =>
    simp only [List.foldlM_nil, List.map_nil, List.append_nil]
    constructor
    · intro same
      obtain rfl := Except.ok.inj same
      exact ⟨apart, by simp, rfl⟩
    · rintro ⟨-, -, rfl⟩
      rfl
  | cons entry entries ih =>
    rw [List.foldlM_cons]
    cases added : addMessage before entry with
    | error error =>
      -- a refused entry repeats a name or a name of its fields, and the right side excludes both
      constructor
      · intro same
        cases same
      · rintro ⟨differ, fields, rfl⟩
        have fresh : entry.name ∉ before.map Message.name := by
          intro member
          exact (List.nodup_append.mp differ).2.2 _ member _ List.mem_cons_self rfl
        have := addMessage_eq_ok_iff.mpr ⟨fresh, fields entry List.mem_cons_self, rfl⟩
        rw [added] at this
        cases this
    | ok next =>
      obtain ⟨fresh, differ, rfl⟩ := addMessage_eq_ok_iff.mp added
      have regroup : (before ++ [entry.message]).map Message.name =
          before.map Message.name ++ [entry.name] := by
        rw [List.map_append]
        rfl
      have further : ((before ++ [entry.message]).map Message.name).Nodup := by
        rw [regroup, List.nodup_append]
        refine ⟨apart, by simp, ?_⟩
        intro name member other only same
        rw [List.mem_singleton.mp only] at same
        rw [same] at member
        exact fresh member
      show entries.foldlM addMessage (before ++ [entry.message]) = .ok after ↔ _
      rw [ih further, regroup]
      simp [differ]

/-- What a file that resolves is like, and what it resolves to. -/
theorem parts_of_resolve {file : DefinitionFile} {definition : ServiceDefinition}
    (resolved : file.resolve = .ok definition) :
    (file.messages.map MessageEntry.name).Nodup ∧
      (∀ entry ∈ file.messages, (entry.fields.map FieldEntry.name).Nodup) ∧
        ∃ methods, file.methods.mapM (resolveMethod (file.messages.map MessageEntry.message)) =
            .ok methods ∧
          definition =
            ⟨file.package, file.service, methods, file.messages.map MessageEntry.message⟩ := by
  simp only [resolve, bind, Except.bind, pure, Except.pure, throw, throwThe,
    MonadExceptOf.throw] at resolved
  split at resolved
  · cases resolved
  split at resolved
  · cases resolved
  split at resolved
  · cases resolved
  next messages added =>
    split at resolved
    · cases resolved
    next methods declared =>
      obtain rfl := Except.ok.inj resolved
      have start : (([] : List Message).map Message.name).Nodup := List.nodup_nil
      obtain ⟨differ, fields, rfl⟩ := (foldlM_addMessage_eq_ok_iff start).mp added
      exact ⟨differ, fields, methods, declared, rfl⟩

theorem messages_of_resolve {file : DefinitionFile} {definition : ServiceDefinition}
    (resolved : file.resolve = .ok definition) :
    definition.package = file.package ∧ definition.name = file.service ∧
      definition.messages = file.messages.map MessageEntry.message ∧
        (definition.messages.map Message.name).Nodup := by
  obtain ⟨differ, -, methods, -, rfl⟩ := parts_of_resolve resolved
  refine ⟨rfl, rfl, rfl, ?_⟩
  rw [List.map_map]
  exact differ

end DefinitionFile

theorem ServiceDefinition.nodup_of_ofText {text : String} {definition : ServiceDefinition}
    (loaded : ofText text = .ok definition) : (definition.messages.map Message.name).Nodup := by
  unfold ofText at loaded
  split at loaded
  · cases loaded
  split at loaded
  · cases loaded
  next file decoded => exact (DefinitionFile.messages_of_resolve loaded).2.2.2

/-- Whatever is selected, the resource catalog of a service whose messages have different names is
built, of all the messages picked. -/
theorem ResourceCatalog.ofDefinition_of_nodup {definition : ServiceDefinition}
    (differ : (definition.messages.map Message.name).Nodup) (selection : ResourceSelection) :
    ofDefinition definition selection =
      .ok ⟨(definition.messages.filter (selection.picks definition)).map
        (ResourceType.ofMessage definition.package)⟩ := by
  refine ofDefinition_eq_ok_iff.mpr ⟨?_, rfl⟩
  exact differ.sublist (List.filter_sublist.map _)

end ToolGateway
