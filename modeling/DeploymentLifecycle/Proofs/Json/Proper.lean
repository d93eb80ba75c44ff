import DeploymentLifecycle.Json.Tree

namespace DeploymentLifecycle.Json

/-! Values as a reader takes them out of a text, and only these, are left as they are when they are
read again. -/

namespace Fields

variable {fields : Fields} {key : String} {value : Json}

/-- The fields are in the order of their keys, and no key has two of them. -/
def Ordered (fields : Fields) : Prop :=
  fields.Pairwise fun first second => first.1 < second.1

theorem insert_last (last : ∀ field ∈ fields, field.1 < key) :
    Fields.insert fields key value = fields ++ [(key, value)] := by
  induction fields with
  | nil => rfl
  | cons field rest ih =>
      obtain ⟨before, others⟩ := List.forall_mem_cons.1 last
      have different : key ≠ field.1 := by grind
      have behind : ¬ key < field.1 := by grind
      simp [Fields.insert, different, behind, ih others]

theorem mem_insert {field : String × Json} (member : field ∈ Fields.insert fields key value) :
    field = (key, value) ∨ field ∈ fields := by
  induction fields with
  | nil => simpa [Fields.insert] using member
  | cons held rest ih => grind [Fields.insert]

theorem Ordered.insert (ordered : fields.Ordered) : (Fields.insert fields key value).Ordered := by
  induction fields with
  | nil => exact List.pairwise_singleton _ _
  | cons held rest ih =>
      obtain ⟨first, others⟩ := List.pairwise_cons.1 ordered
      rw [Fields.insert]
      split
      · next same =>
        subst same
        exact List.pairwise_cons.2 ⟨first, others⟩
      · next different =>
        split
        · next before =>
          refine List.pairwise_cons.2 ⟨?_, ordered⟩
          exact List.forall_mem_cons.2 ⟨before, fun field member => by grind⟩
        · next behind =>
          refine List.pairwise_cons.2 ⟨fun field member => ?_, ih others⟩
          rcases mem_insert member with rfl | kept
          · grind
          · exact first field kept

theorem foldl_insert {start : Fields} (pairs : Fields) (ordered : (start ++ pairs).Ordered) :
    pairs.foldl (fun fields (key, value) => Fields.insert fields key value) start =
      start ++ pairs := by
  induction pairs generalizing start with
  | nil => simp
  | cons pair pairs ih =>
      obtain ⟨key, value⟩ := pair
      obtain ⟨_, _, before⟩ := List.pairwise_append.1 ordered
      have last : ∀ field ∈ start, field.1 < key := fun field member =>
        before field member (key, value) List.mem_cons_self
      have whole : (start ++ [(key, value)] ++ pairs).Ordered := by simpa using ordered
      simpa [insert_last last] using ih whole

theorem Ordered.ofList (ordered : fields.Ordered) : Fields.ofList fields = fields :=
  foldl_insert fields ordered

theorem ordered_foldl {start : Fields} (pairs : Fields) (ordered : start.Ordered) :
    (pairs.foldl (fun fields (key, value) => Fields.insert fields key value) start).Ordered := by
  induction pairs generalizing start with
  | nil => exact ordered
  | cons pair pairs ih => exact ih ordered.insert

theorem mem_foldl {start : Fields} {field : String × Json} (pairs : Fields)
    (member : field ∈
      pairs.foldl (fun fields (key, value) => Fields.insert fields key value) start) :
    field ∈ start ∨ field ∈ pairs := by
  induction pairs generalizing start with
  | nil => exact .inl member
  | cons pair pairs ih =>
      rcases ih member with held | later
      · rcases mem_insert held with rfl | earlier
        · exact .inr List.mem_cons_self
        · exact .inl earlier
      · exact .inr (List.mem_cons_of_mem _ later)

theorem ordered_ofList (pairs : Fields) : (Fields.ofList pairs).Ordered :=
  ordered_foldl pairs List.Pairwise.nil

theorem mem_ofList {pairs : Fields} {field : String × Json} (member : field ∈ Fields.ofList pairs) :
    field ∈ pairs := by
  simpa using mem_foldl pairs member

end Fields

mutual

/-- The value is one of a text that nests at most `budget` arrays and objects: all its objects have
their fields in order. -/
def Proper (budget : Nat) : Json → Prop
  | .array items =>
    match budget with
    | 0 => False
    | budget + 1 => ItemsProper budget items
  | .object fields =>
    match budget with
    | 0 => False
    | budget + 1 => Fields.Ordered fields ∧ FieldsProper budget fields
  | _ => True

def ItemsProper (budget : Nat) : List Json → Prop
  | [] => True
  | item :: rest => item.Proper budget ∧ ItemsProper budget rest

def FieldsProper (budget : Nat) : Fields → Prop
  | [] => True
  | (_, value) :: rest => value.Proper budget ∧ FieldsProper budget rest

end

theorem fieldsProper_iff {budget : Nat} {fields : Fields} :
    FieldsProper budget fields ↔ ∀ field ∈ fields, field.2.Proper budget := by
  induction fields with
  | nil => simp [FieldsProper]
  | cons field rest ih => simp [FieldsProper, ih]

mutual

theorem toJson?_toTree : (budget : Nat) → (value : Json) → value.Proper budget →
    value.toTree.toJson? budget = some value
  | _, .null, _ => rfl
  | _, .bool _, _ => rfl
  | _, .number _, _ => rfl
  | _, .string _, _ => rfl
  | budget + 1, .array items, proper => by
    simp [toTree, Tree.toJson?, itemsToJson?_itemsToTree budget items proper]
  | budget + 1, .object fields, ⟨ordered, proper⟩ => by
    simp [toTree, Tree.toJson?, fieldsToJson?_fieldsToTree budget fields proper, ordered.ofList]

theorem itemsToJson?_itemsToTree : (budget : Nat) → (items : List Json) →
    ItemsProper budget items → Tree.itemsToJson? budget (itemsToTree items) = some items
  | _, [], _ => rfl
  | budget, item :: rest, ⟨first, others⟩ => by
    simp [itemsToTree, Tree.itemsToJson?, toJson?_toTree budget item first,
      itemsToJson?_itemsToTree budget rest others]

theorem fieldsToJson?_fieldsToTree : (budget : Nat) → (fields : Fields) →
    FieldsProper budget fields → Tree.fieldsToJson? budget (fieldsToTree fields) = some fields
  | _, [], _ => rfl
  | budget, (key, value) :: rest, ⟨first, others⟩ => by
    simp [fieldsToTree, Tree.fieldsToJson?, toJson?_toTree budget value first,
      fieldsToJson?_fieldsToTree budget rest others]

end

namespace Tree

mutual

theorem proper_of_toJson? : (tree : Tree) → ∀ {budget value}, tree.toJson? budget = some value →
    value.Proper budget
  | .null, _, _, taken => by cases taken; trivial
  | .bool _, _, _, taken => by cases taken; trivial
  | .number value, _, _, taken => by
    obtain ⟨_, _, rfl⟩ := Option.map_eq_some_iff.1 taken
    trivial
  | .string value, _, _, taken => by
    obtain ⟨_, _, rfl⟩ := Option.map_eq_some_iff.1 taken
    trivial
  | .array items, budget + 1, _, taken => by
    obtain ⟨_, read, rfl⟩ := Option.map_eq_some_iff.1 taken
    exact itemsProper_of_itemsToJson? items read
  | .object fields, budget + 1, _, taken => by
    obtain ⟨pairs, read, rfl⟩ := Option.map_eq_some_iff.1 taken
    have each := fieldsProper_iff.1 (fieldsProper_of_fieldsToJson? fields read)
    exact ⟨Fields.ordered_ofList pairs,
      fieldsProper_iff.2 fun field member => each field (Fields.mem_ofList member)⟩

theorem itemsProper_of_itemsToJson? : (items : List Tree) → ∀ {budget values},
    itemsToJson? budget items = some values → ItemsProper budget values
  | [], _, _, taken => by cases taken; trivial
  | item :: rest, _, _, taken => by
    simp only [itemsToJson?, Option.bind_eq_bind, Option.bind_eq_some_iff, Option.pure_def,
      Option.some.injEq] at taken
    obtain ⟨value, first, values, others, rfl⟩ := taken
    exact ⟨proper_of_toJson? item first, itemsProper_of_itemsToJson? rest others⟩

theorem fieldsProper_of_fieldsToJson? : (fields : List (Option String × Tree)) →
    ∀ {budget pairs}, fieldsToJson? budget fields = some pairs → FieldsProper budget pairs
  | [], _, _, taken => by cases taken; trivial
  | (key, tree) :: rest, _, _, taken => by
    simp only [fieldsToJson?, Option.bind_eq_bind, Option.bind_eq_some_iff, Option.pure_def,
      Option.some.injEq] at taken
    obtain ⟨_, _, value, first, pairs, others, rfl⟩ := taken
    exact ⟨proper_of_toJson? tree first, fieldsProper_of_fieldsToJson? rest others⟩

end

end Tree

end DeploymentLifecycle.Json
