import ToolGateway.Decode.Record

/-!
# When records decode

A reading of several fields gives a value exactly when each of the fields does, so a record decodes
exactly when all its fields do, in whatever order they stand. What is refused, and for which cause, is
settled elsewhere.
-/

namespace ToolGateway

namespace Reading

variable {β γ : Type}

theorem result_eq_ok_iff {reading : Reading β} {result : β} :
    reading.result = .ok result ↔ reading = .value result := by
  cases reading with
  | value found => simp [Reading.result]
  | missing field => simp [Reading.result]
  | refused position error => simp [Reading.result]

theorem both_eq_value_iff {first : Reading (β → γ)} {second : Reading β} {result : γ} :
    first.both second = .value result ↔
      ∃ f x, first = .value f ∧ second = .value x ∧ result = f x := by
  cases first with
  | value f => cases second <;> simp [both, eq_comm]
  | missing field => cases second <;> simp [both]
  | refused position error =>
    cases second with
    | refused position' error' =>
      rw [both]
      split <;> simp
    | _ => simp [both]

theorem seq_eq_value_iff {first : Reading (β → γ)} {second : Reading β} {result : γ} :
    first <*> second = .value result ↔
      ∃ f x, first = .value f ∧ second = .value x ∧ result = f x :=
  both_eq_value_iff

theorem map_eq_value_iff {f : β → γ} {reading : Reading β} {result : γ} :
    f <$> reading = .value result ↔ ∃ x, reading = .value x ∧ result = f x := by
  show (Reading.value f).both reading = .value result ↔ _
  rw [both_eq_value_iff]
  simp

theorem seqLeft_eq_value_iff {first : Reading β} {second : Reading γ} {result : β} :
    first <* second = .value result ↔ first = .value result ∧ ∃ x, second = .value x := by
  show (Function.const γ <$> first).both second = .value result ↔ _
  rw [both_eq_value_iff]
  constructor
  · rintro ⟨f, x, mapped, rfl, rfl⟩
    obtain ⟨y, rfl, rfl⟩ := map_eq_value_iff.mp mapped
    exact ⟨rfl, x, rfl⟩
  · rintro ⟨rfl, x, rfl⟩
    exact ⟨_, x, map_eq_value_iff.mpr ⟨result, rfl, rfl⟩, rfl, rfl⟩

/-- A reading gives just this value, and that under just this condition. -/
def Gives (reading : Reading β) (condition : Prop) (result : β) : Prop :=
  ∀ other, reading = .value other ↔ condition ∧ other = result

theorem Gives.map {reading : Reading β} {condition : Prop} {x : β} (f : β → γ)
    (gives : reading.Gives condition x) : (f <$> reading).Gives condition (f x) := by
  intro other
  rw [map_eq_value_iff]
  constructor
  · rintro ⟨y, read, rfl⟩
    obtain ⟨holds, rfl⟩ := (gives y).mp read
    exact ⟨holds, rfl⟩
  · rintro ⟨holds, rfl⟩
    exact ⟨x, (gives x).mpr ⟨holds, rfl⟩, rfl⟩

/-- Two joined readings give a value when both do. -/
theorem Gives.seq {first : Reading (β → γ)} {second : Reading β} {condition condition' : Prop}
    {f : β → γ} {x : β} (gives : first.Gives condition f) (gives' : second.Gives condition' x) :
    (first <*> second).Gives (condition ∧ condition') (f x) := by
  intro other
  rw [seq_eq_value_iff]
  constructor
  · rintro ⟨g, y, read, read', rfl⟩
    obtain ⟨holds, rfl⟩ := (gives g).mp read
    obtain ⟨holds', rfl⟩ := (gives' y).mp read'
    exact ⟨⟨holds, holds'⟩, rfl⟩
  · rintro ⟨⟨holds, holds'⟩, rfl⟩
    exact ⟨f, x, (gives f).mpr ⟨holds, rfl⟩, (gives' x).mpr ⟨holds', rfl⟩, rfl⟩

theorem value_seq_ofField (f : β → γ) (position : Nat) (decoded : Except DecodeError β) :
    Reading.value f <*> ofField position decoded = ofField position (decoded.map f) := by
  cases decoded <;> rfl

theorem ofField_eq_value_iff {position : Nat} {decoded : Except DecodeError β} {result : β} :
    ofField position decoded = .value result ↔ decoded = .ok result := by
  cases decoded <;> simp [ofField]

end Reading

namespace Fields

variable {α β : Type}

/-- The value of a field, if it is given. -/
def value? (fields : Fields α) (name : String) : Option α := (fields.locate name).2

@[simp]
theorem value?_named (members : Members α) (name : String) :
    (named members).value? name = members.find? name := rfl

@[simp]
theorem value?_listed (names : List String) (expected : String) (items : List α) (name : String) :
    (listed names expected items).value? name = items[names.idxOf name]? := rfl

theorem readOr_eq_value_iff {fields : Fields α} {name : String} {decode : Decoder α β}
    {absent : Reading β} {result : β} : fields.readOr name decode absent = .value result ↔
      (∃ given, fields.value? name = some given ∧ decode given = .ok result) ∨
        (fields.value? name = none ∧ absent = .value result) := by
  unfold readOr value?
  split
  next position given found =>
    rw [found, Reading.ofField_eq_value_iff]
    simp
  next position found =>
    rw [found]
    simp

theorem lacking_ne_value (fields : Fields α) (name : String) (result : β) :
    fields.lacking name ≠ .value result := by
  cases fields <;> simp [lacking]

theorem required_eq_value_iff {fields : Fields α} {name : String} {decode : Decoder α β}
    {result : β} : fields.required name decode = .value result ↔
      ∃ given, fields.value? name = some given ∧ decode given = .ok result := by
  rw [required, readOr_eq_value_iff]
  simp [lacking_ne_value]

theorem withDefault_eq_value_iff {fields : Fields α} {name : String} {decode : Decoder α β}
    {absent result : β} : fields.withDefault name decode absent = .value result ↔
      (∃ given, fields.value? name = some given ∧ decode given = .ok result) ∨
        (fields.value? name = none ∧ result = absent) := by
  rw [withDefault, readOr_eq_value_iff]
  simp [eq_comm]

theorem exists_position_of_find? {members : Members α} {name : String} {given : α}
    (found : Members.find? members name = some given) (decode : Decoder α β) (absent : β) :
    ∃ position, (named members).withDefault name decode absent =
      .ofField position (decode given) := by
  simp only [withDefault, readOr, locate, found]
  exact ⟨_, rfl⟩

theorem noSurplus_eq_value_iff [Document α] {known : List String} {items : List α} {u : Unit} :
    noSurplus known items = .value u ↔
      (Document.refusesSurplus α = true → items.length ≤ known.length) := by
  rw [noSurplus]
  split
  next surplus =>
    have : ¬ items.length ≤ known.length := Nat.not_le.mpr surplus.2
    simp [surplus.1, this]
  next fits =>
    simp only [not_and, Nat.not_lt] at fits
    simpa using fits

theorem onlyKnown_eq_value_iff {known : List String} {members : Members α} {u : Unit} :
    onlyKnown known members = .value u ↔ ∀ member ∈ members, member.1 ∈ known := by
  rw [onlyKnown]
  cases stray : members.findIdx? fun member => !known.contains member.1 with
  | none =>
    rw [List.findIdx?_eq_none_iff] at stray
    simpa using stray
  | some position =>
    obtain ⟨inside, unknown, -⟩ := List.findIdx?_eq_some_iff_getElem.mp stray
    constructor
    · intro read
      cases read
    · intro all
      have := all _ (List.getElem_mem inside)
      simp [this] at unknown

end Fields

variable {α β : Type} [Document α]

/-- A record whose further members are ignored decodes from a map of its fields or from a sequence
of them, and from nothing else. -/
theorem Decoder.record_eq_ok_iff {name : String} {names : List String}
    {read : Fields α → Reading β} {value : α} {result : β} :
    Decoder.record name names .ignored read value = .ok result ↔
      (∃ members, Document.shape value = .map members ∧
        read (.named members) = .value result) ∨
      ∃ items, Document.shape value = .sequence items ∧
        read (.listed names (sequenceForm ("struct " ++ name) names.length) items) = .value result ∧
          (Document.refusesSurplus α = true → items.length ≤ names.length) := by
  unfold Decoder.record
  cases shape : Document.shape value with
  | map members =>
    simp only [Reading.result_eq_ok_iff, Reading.seqLeft_eq_value_iff]
    simp [pure]
  | sequence items =>
    simp only [Reading.result_eq_ok_iff, Reading.seqLeft_eq_value_iff,
      Fields.noSurplus_eq_value_iff]
    simp
  | _ => simp [refuse]

/-- A map whose members all have to be fields decodes when they are, and its fields decode. -/
theorem Decoder.record_refused_eq_ok_iff {name : String} {names : List String}
    {read : Fields α → Reading β} {value : α} {members : Members α}
    (shape : Document.shape value = .map members) {result : β} :
    Decoder.record name names .refused read value = .ok result ↔
      read (.named members) = .value result ∧ ∀ member ∈ members, member.1 ∈ names := by
  simp only [Decoder.record, shape, Reading.result_eq_ok_iff, Reading.seqLeft_eq_value_iff,
    Fields.onlyKnown_eq_value_iff, exists_const]

end ToolGateway
