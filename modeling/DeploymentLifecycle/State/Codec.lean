import DeploymentLifecycle.Json.Printer
import DeploymentLifecycle.Json.Reader
import DeploymentLifecycle.State.Document

namespace DeploymentLifecycle

/-! The JSON form of the state document. Pointers that are not set are left out; an empty pointer is
read as one that is not set. -/

/-- A field that is left out when there is no value. -/
def Json.optionalField (key : String) (text : Option String) : Json.Fields :=
  match text with
  | some text => [(key, .string text)]
  | none => []

/-- The text of a field that may be missing but not null. -/
def Json.Tree.fieldText? : Option Json.Tree → Option (Option String)
  | none => some none
  | some tree => tree.toText?.map some

/-- The text of a field that may be missing, null or empty. -/
def Json.Tree.pointer? : Option Json.Tree → Option (Option String)
  | none => some none
  | some .null => some none
  | some tree => tree.toText?.map fun text => if text.isEmpty then none else some text

namespace Record

def diskToJson (record : Record .disk) : Json :=
  .object [("id", .string record.id.text), ("cid", .string record.cid.text),
    ("size", .natural record.details.size.toNat),
    ("cloud_properties", .object record.details.cloudProperties)]

def stemcellToJson (record : Record .stemcell) : Json :=
  .object [("id", .string record.id.text), ("name", .string record.details.name),
    ("version", .string record.details.version),
    ("api_version", .natural record.details.apiVersion.toNat), ("cid", .string record.cid.text)]

def toJson : {kind : Kind} → Record kind → Json
  | .disk, record => record.diskToJson
  | .stemcell, record => record.stemcellToJson

def diskOfTree? (budget : Nat) (tree : Json.Tree) : Option (Record .disk) := do
  match ← tree.record? ["id", "cid", "size", "cloud_properties"] with
  | [some id, some cid, size, properties] =>
    let size ← match size with
      | some tree => tree.toNatural? Text.maxUInt64
      | none => some 0
    let properties ← match properties with
      | some tree => tree.toFields? budget
      | none => some []
    return ⟨⟨← id.toText?⟩, ⟨← cid.toText?⟩, { size := size.toUInt64, cloudProperties := properties }⟩
  | _ => none

def stemcellOfTree? (tree : Json.Tree) : Option (Record .stemcell) := do
  match ← tree.record? ["id", "name", "version", "api_version", "cid"] with
  | [some id, name, version, apiVersion, some cid] =>
    let apiVersion ← match apiVersion with
      | some tree => tree.toNatural? Text.maxUInt32
      | none => some 0
    let details : StemcellDetails := {
      name := (← Json.Tree.fieldText? name).getD ""
      version := (← Json.Tree.fieldText? version).getD ""
      apiVersion := apiVersion.toUInt32 }
    return ⟨⟨← id.toText?⟩, ⟨← cid.toText?⟩, details⟩
  | _ => none

end Record

namespace Document

def toJson (document : Document) : Json :=
  .object ([("director_id", .string document.directorId),
      ("installation_id", .string document.installationId)]
    ++ Json.optionalField "current_vm_cid" (document.currentVm.map (·.text))
    ++ Json.optionalField "current_disk_id" (document.disks.current.map (·.text))
    ++ Json.optionalField "current_stemcell_id" (document.stemcells.current.map (·.text))
    ++ [("disks", .array (document.disks.records.map Record.toJson)),
      ("stemcells", .array (document.stemcells.records.map Record.toJson))])

/-- The items of a list that may be missing. -/
def items? : Option Json.Tree → Option (List Json.Tree)
  | none => some []
  | some tree => tree.toItems?

/-- The document, its list and the record are three levels around the properties of a disk. -/
def propertiesBudget : Nat := Json.nestingLimit - 3

def fieldNames : List String :=
  ["director_id", "installation_id", "current_vm_cid", "current_disk_id", "current_stemcell_id",
    "disks", "stemcells"]

def ofTree? (tree : Json.Tree) : Option Document := do
  match ← tree.record? fieldNames with
  | [directorId, installationId, vm, disk, stemcell, disks, stemcells] =>
    return {
      directorId := (← Json.Tree.fieldText? directorId).getD ""
      installationId := (← Json.Tree.fieldText? installationId).getD ""
      currentVm := (← Json.Tree.pointer? vm).map Cid.mk
      disks := {
        current := (← Json.Tree.pointer? disk).map RecordId.mk
        records := ← (← items? disks).mapM (Record.diskOfTree? propertiesBudget) }
      stemcells := {
        current := (← Json.Tree.pointer? stemcell).map RecordId.mk
        records := ← (← items? stemcells).mapM Record.stemcellOfTree? } }
  | _ => none

def ofText? (text : String) : Option Document := do
  ofTree? (← Json.Tree.ofText? text)

/-- The text that is stored. -/
def toText (document : Document) : String :=
  document.toJson.pretty

end Document

end DeploymentLifecycle
