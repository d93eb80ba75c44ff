import DeploymentLifecycle.Proofs.Json.Proper
import DeploymentLifecycle.Proofs.Json.RoundTrip
import DeploymentLifecycle.State.Codec

namespace DeploymentLifecycle

/-! The text of a document is read as that document, and what is read of any text is a document that
is read back in the same way. -/

namespace Json.Tree

variable {names passed : List String} {slots done later : List (Option Tree)}

/-- The fields of a record that have a value, each under its name. -/
def present : List String → List (Option Tree) → List (Option String × Tree)
  | name :: names, some value :: slots => (some name, value) :: present names slots
  | _ :: names, none :: slots => present names slots
  | _, _ => []

theorem takeField?_free {name : String} {value : Tree} (aligned : done.length = passed.length)
    (new : name ∉ passed) :
    takeField? (done ++ none :: later) (passed ++ name :: names) name value =
      some (done ++ some value :: later) := by
  induction done generalizing passed with
  | nil =>
      obtain rfl := List.length_eq_zero_iff.1 aligned.symm
      simp [takeField?]
  | cons slot done ih =>
      cases passed with
      | nil => simp at aligned
      | cons other passed =>
          have different : other ≠ name := fun same => new (by simp [same])
          have rest := @ih passed (by simpa using aligned) (by grind)
          simp [takeField?, different, rest]

theorem takeFields?_present (aligned : done.length = passed.length)
    (distinct : (passed ++ names).Nodup) (filled : slots.length = names.length) :
    takeFields? (passed ++ names) (done ++ names.map fun _ => none) (present names slots) =
      some (done ++ slots) := by
  induction names generalizing slots passed done with
  | nil =>
      obtain rfl := List.length_eq_zero_iff.1 filled
      simp [present, takeFields?]
  | cons name names ih =>
      cases slots with
      | nil => simp at filled
      | cons slot slots =>
          have rest := @ih (passed ++ [name]) slots (done ++ [slot]) (by simp [aligned])
            (by simpa using distinct) (by simpa using filled)
          cases slot with
          | none => simpa [present] using rest
          | some value =>
              have new : name ∉ passed := by grind
              simpa [present, takeFields?, takeField?_free aligned new] using rest

/-- A record is read field by field as it was written, whatever fields are left out. -/
theorem record?_present (names : List String) (slots : List (Option Tree))
    (distinct : names.Nodup) (filled : slots.length = names.length) :
    record? names (.object (present names slots)) = some slots :=
  @takeFields?_present names [] slots [] rfl distinct filled

end Json.Tree

namespace Json

theorem itemsWhole_iff {items : List Json} : ItemsWhole items ↔ ∀ item ∈ items, item.Whole := by
  induction items with
  | nil => simp [ItemsWhole]
  | cons item rest ih => simp [ItemsWhole, ih]

theorem fieldsWhole_iff {fields : Fields} :
    FieldsWhole fields ↔ ∀ field ∈ fields, field.2.Whole := by
  induction fields with
  | nil => simp [FieldsWhole]
  | cons field rest ih => simp [FieldsWhole, ih]

theorem toNatural?_natural {limit value : Nat} (fits : value ≤ limit) :
    (natural value).toTree.toNatural? limit = some value := by
  simp [natural, toTree, Tree.toNatural?, fits]

theorem natural_whole {value : Nat} (fits : value ≤ Text.maxUInt64) : (natural value).Whole :=
  .int (by simp [Number.leastInt]) (Int.ofNat_le.2 fits)

theorem toFields?_toTree {budget : Nat} {fields : Fields} (proper : (object fields).Proper budget) :
    (object fields).toTree.toFields? budget = some fields := by
  have read := toJson?_toTree budget (object fields) proper
  simp only [toTree] at read ⊢
  simp [Tree.toFields?, read]

end Json

namespace Record

variable {kind : Kind} {budget : Nat}

theorem diskOfTree?_toJson {record : Record .disk}
    (proper : (Json.object record.details.cloudProperties).Proper budget) :
    diskOfTree? budget record.toJson.toTree = some record := by
  have fields := Json.Tree.record?_present ["id", "cid", "size", "cloud_properties"]
    [some (.string (some record.id.text)), some (.string (some record.cid.text)),
      some (Json.natural record.details.size.toNat).toTree,
      some (Json.object record.details.cloudProperties).toTree] (by decide) rfl
  change record.toJson.toTree.record? _ = _ at fields
  have size : record.details.size.toNat ≤ Text.maxUInt64 :=
    Nat.le_of_lt_succ record.details.size.toNat_lt
  simp [diskOfTree?, fields, Json.toNatural?_natural size, Json.toFields?_toTree proper,
    Json.Tree.toText?]

theorem stemcellOfTree?_toJson (record : Record .stemcell) :
    stemcellOfTree? record.toJson.toTree = some record := by
  have fields := Json.Tree.record?_present ["id", "name", "version", "api_version", "cid"]
    [some (.string (some record.id.text)), some (.string (some record.details.name)),
      some (.string (some record.details.version)),
      some (Json.natural record.details.apiVersion.toNat).toTree,
      some (.string (some record.cid.text))] (by decide) rfl
  change record.toJson.toTree.record? _ = _ at fields
  have apiVersion : record.details.apiVersion.toNat ≤ Text.maxUInt32 :=
    Nat.le_of_lt_succ record.details.apiVersion.toNat_lt
  simp [stemcellOfTree?, fields, Json.toNatural?_natural apiVersion, Json.Tree.toText?,
    Json.Tree.fieldText?]

/-- Records are read one by one as they were written. -/
theorem mapM_toTree {read : Json.Tree → Option (Record kind)} {records : List (Record kind)}
    (each : ∀ record ∈ records, read record.toJson.toTree = some record) :
    (Json.itemsToTree (records.map toJson)).mapM read = some records := by
  induction records with
  | nil => rfl
  | cons record rest ih =>
      obtain ⟨first, others⟩ := List.forall_mem_cons.1 each
      simp [Json.itemsToTree, first, ih others]

theorem diskToJson_whole {record : Record .disk}
    (whole : Json.FieldsWhole record.details.cloudProperties) : record.toJson.Whole := by
  have size : record.details.size.toNat ≤ Text.maxUInt64 :=
    Nat.le_of_lt_succ record.details.size.toNat_lt
  simp [toJson, diskToJson, Json.Whole, Json.FieldsWhole, Json.natural_whole size, whole]

theorem stemcellToJson_whole (record : Record .stemcell) : record.toJson.Whole := by
  have apiVersion : record.details.apiVersion.toNat ≤ Text.maxUInt64 :=
    Nat.le_trans (Nat.le_of_lt record.details.apiVersion.toNat_lt) (by decide)
  simp [toJson, stemcellToJson, Json.Whole, Json.FieldsWhole, Json.natural_whole apiVersion]

end Record

namespace Document

variable {document : Document}

/-- No pointer is an empty text. -/
structure Named (document : Document) : Prop where
  vm : document.currentVm ≠ some ⟨""⟩
  current : ∀ kind, (document.inventory kind).current ≠ some ⟨""⟩

/-- Cloud properties are values that a reader could have made. -/
def Proper (document : Document) : Prop :=
  ∀ record ∈ document.disks.records,
    (Json.object record.details.cloudProperties).Proper propertiesBudget

/-- A document as it can be read: with named pointers and proper cloud properties. -/
structure Settled (document : Document) : Prop extends Named document where
  proper : document.Proper

/-- All numbers in cloud properties are whole. -/
def Whole (document : Document) : Prop :=
  ∀ record ∈ document.disks.records, Json.FieldsWhole record.details.cloudProperties

def pointerTree (pointer : Option String) : Option Json.Tree :=
  pointer.map fun text => .string (some text)

theorem pointer?_pointerTree (pointer : Option String) :
    Json.Tree.pointer? (pointerTree pointer) = some (pointer.filter (· ≠ "")) := by
  cases pointer with
  | none => rfl
  | some text =>
      by_cases empty : text = "" <;>
        simp [pointerTree, Json.Tree.pointer?, Json.Tree.toText?, Option.filter, empty]

/-- A file does not tell an empty pointer from one that is not set. -/
def settle (document : Document) : Document where
  directorId := document.directorId
  installationId := document.installationId
  currentVm := document.currentVm.filter (·.text ≠ "")
  disks := { document.disks with current := document.disks.current.filter (·.text ≠ "") }
  stemcells :=
    { document.stemcells with current := document.stemcells.current.filter (·.text ≠ "") }

theorem filter_eq_self {α : Type} {text : α → String} {ofText : String → α} {pointer : Option α}
    (inverse : ∀ name, ofText (text name) = name) (named : pointer ≠ some (ofText "")) :
    pointer.filter (text · ≠ "") = pointer := by
  cases pointer with
  | none => rfl
  | some name =>
      have visible : text name ≠ "" := fun empty => named (by rw [← empty, inverse])
      simp [Option.filter, visible]

theorem Named.settle (named : document.Named) : document.settle = document := by
  have vm := filter_eq_self (fun _ => rfl) named.vm
  have disk := filter_eq_self (fun _ => rfl) (named.current .disk)
  have stemcell := filter_eq_self (fun _ => rfl) (named.current .stemcell)
  simp only [inventory] at disk stemcell
  simp only [Document.settle, vm, disk, stemcell]

theorem map_filter {α : Type} {text : α → String} {ofText : String → α}
    (inverse : ∀ name, ofText (text name) = name) (pointer : Option α) :
    ((pointer.map text).filter (· ≠ "")).map ofText = pointer.filter (text · ≠ "") := by
  cases pointer with
  | none => rfl
  | some name => by_cases empty : text name = "" <;> simp [Option.filter, empty, inverse]

/-- What is written in the fields of a document, in the order of their names. -/
def slots (document : Document) : List (Option Json.Tree) :=
  [some (.string (some document.directorId)), some (.string (some document.installationId)),
    pointerTree (document.currentVm.map (·.text)),
    pointerTree (document.disks.current.map (·.text)),
    pointerTree (document.stemcells.current.map (·.text)),
    some (Json.array (document.disks.records.map Record.toJson)).toTree,
    some (Json.array (document.stemcells.records.map Record.toJson)).toTree]

theorem toTree_toJson (document : Document) :
    document.toJson.toTree = .object (Json.Tree.present fieldNames document.slots) := by
  rcases document with ⟨_, _, vm, ⟨disk, _⟩, ⟨stemcell, _⟩⟩
  cases vm <;> cases disk <;> cases stemcell <;> rfl

theorem ofTree?_toJson (proper : document.Proper) :
    ofTree? document.toJson.toTree = some document.settle := by
  have fields := Json.Tree.record?_present fieldNames document.slots (by decide) rfl
  rw [← toTree_toJson] at fields
  have disks := Record.mapM_toTree fun record member =>
    Record.diskOfTree?_toJson (proper record member)
  have stemcells := Record.mapM_toTree fun record (_ : record ∈ document.stemcells.records) =>
    Record.stemcellOfTree?_toJson record
  have vm := @map_filter _ Cid.text Cid.mk (fun _ => rfl) document.currentVm
  have disk := @map_filter _ RecordId.text RecordId.mk (fun _ => rfl) document.disks.current
  have stemcell := @map_filter _ RecordId.text RecordId.mk (fun _ => rfl) document.stemcells.current
  simp [ofTree?, fields, slots, pointer?_pointerTree, items?, Json.toTree, Json.Tree.toItems?,
    Json.Tree.fieldText?, Json.Tree.toText?, disks, stemcells, settle]
  exact ⟨by simpa using vm, by simpa using disk, by simpa using stemcell⟩

theorem toJson_whole (whole : document.Whole) : document.toJson.Whole := by
  have disks : ∀ item ∈ document.disks.records.map Record.toJson, item.Whole :=
    List.forall_mem_map.2 fun record member => Record.diskToJson_whole (whole record member)
  have stemcells : ∀ item ∈ document.stemcells.records.map Record.toJson, item.Whole :=
    List.forall_mem_map.2 fun record _ => Record.stemcellToJson_whole record
  have pointer : ∀ key text, Json.FieldsWhole (Json.optionalField key text) := by
    intro key text
    cases text <;> simp [Json.optionalField, Json.FieldsWhole, Json.Whole]
  simp only [Json.fieldsWhole_iff] at pointer
  simp only [toJson, Json.Whole, Json.fieldsWhole_iff, List.mem_append, List.mem_cons,
    List.not_mem_nil, or_false]
  rintro field (((((rfl | rfl) | member) | member) | member) | rfl | rfl)
  · trivial
  · trivial
  · exact pointer _ _ _ member
  · exact pointer _ _ _ member
  · exact pointer _ _ _ member
  · exact Json.itemsWhole_iff.2 disks
  · exact Json.itemsWhole_iff.2 stemcells

theorem ofText?_toText (proper : document.Proper) (whole : document.Whole) :
    ofText? document.toText = some document.settle := by
  have read := Json.ofText?_chars (toJson_whole whole) .indented
  rw [ofText?, toText, Json.pretty, read]
  exact ofTree?_toJson proper

theorem pointer?_ne_empty {slot : Option Json.Tree} {pointer : Option String}
    (read : Json.Tree.pointer? slot = some pointer) : pointer ≠ some "" := by
  rw [Json.Tree.pointer?.eq_def] at read
  split at read
  · cases read
    nofun
  · cases read
    nofun
  · obtain ⟨text, _, rfl⟩ := Option.map_eq_some_iff.1 read
    split
    · nofun
    · next visible => simpa using visible

theorem exists_of_mapM {α β : Type} {read : α → Option β} {items : List α} {values : List β}
    (taken : items.mapM read = some values) : ∀ value ∈ values, ∃ item, read item = some value := by
  induction items generalizing values with
  | nil => simp_all
  | cons item rest ih =>
      simp only [List.mapM_cons, Option.bind_eq_bind, Option.bind_eq_some_iff, Option.pure_def,
        Option.some.injEq] at taken
      obtain ⟨value, first, others, later, rfl⟩ := taken
      exact List.forall_mem_cons.2 ⟨⟨item, first⟩, ih later⟩

theorem proper_of_toFields? {tree : Json.Tree} {budget : Nat} {fields : Json.Fields}
    (taken : tree.toFields? budget = some fields) : (Json.object fields).Proper budget := by
  rw [Json.Tree.toFields?.eq_def] at taken
  split at taken
  · next read =>
    cases taken
    exact Json.Tree.proper_of_toJson? _ read
  · cases taken

theorem proper_of_diskOfTree? {tree : Json.Tree} {budget : Nat} {record : Record .disk}
    (read : Record.diskOfTree? (budget + 1) tree = some record) :
    (Json.object record.details.cloudProperties).Proper (budget + 1) := by
  simp only [Record.diskOfTree?, Option.bind_eq_bind, Option.bind_eq_some_iff] at read
  obtain ⟨slots, _, read⟩ := read
  split at read
  · next id cid size properties _ =>
    have blank : (Json.object []).Proper (budget + 1) := ⟨List.Pairwise.nil, trivial⟩
    cases size <;> cases properties <;> simp [Option.bind_eq_some_iff] at read <;>
      grind [proper_of_toFields?]
  · cases read

theorem settled_of_ofText? {text : String} (read : ofText? text = some document) :
    document.Settled := by
  simp only [ofText?, ofTree?, Option.bind_eq_bind, Option.bind_eq_some_iff] at read
  obtain ⟨tree, _, slots, _, read⟩ := read
  split at read
  · simp only [Option.bind_eq_some_iff, Option.pure_def, Option.some.injEq] at read
    obtain ⟨_, _, _, _, vm, vmRead, disk, diskRead, _, _, disks, disksRead, stemcell, stemcellRead,
      _, _, stemcells, _, rfl⟩ := read
    refine ⟨⟨?_, ?_⟩, ?_⟩
    · simpa using pointer?_ne_empty vmRead
    · intro kind
      cases kind with
      | disk => simpa [inventory] using pointer?_ne_empty diskRead
      | stemcell => simpa [inventory] using pointer?_ne_empty stemcellRead
    · intro record member
      obtain ⟨tree, taken⟩ := exists_of_mapM disksRead record member
      exact proper_of_diskOfTree? taken
  · cases read

end Document

end DeploymentLifecycle
