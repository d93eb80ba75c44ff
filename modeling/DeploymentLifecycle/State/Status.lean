import DeploymentLifecycle.State.Codec

namespace DeploymentLifecycle

/-! A summary of what is recorded. -/

structure Status where
  directorId : String
  installationId : String
  vm : Option (Cid .vm)
  disk : Option (Record .disk)
  stemcell : Option (Record .stemcell)
  unusedDisks : Nat
  unusedStemcells : Nat

namespace Status

def ofDocument (document : Document) : Status where
  directorId := document.directorId
  installationId := document.installationId
  vm := document.currentVm
  disk := document.disks.currentRecord?
  stemcell := document.stemcells.currentRecord?
  unusedDisks := document.disks.unused.length
  unusedStemcells := document.stemcells.unused.length

def toJson (status : Status) : Json :=
  .object [("director_id", .string status.directorId),
    ("installation_id", .string status.installationId),
    ("vm_cid", .ofOption (status.vm.map (·.text))),
    ("disk", (status.disk.map Record.toJson).getD .null),
    ("stemcell", (status.stemcell.map Record.toJson).getD .null),
    ("unused_disks", .natural status.unusedDisks),
    ("unused_stemcells", .natural status.unusedStemcells)]

end Status

end DeploymentLifecycle
