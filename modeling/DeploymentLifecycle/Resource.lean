namespace DeploymentLifecycle

/-! What a provider holds for a deployment, the identifiers of it, and how it lets go of it. An
identifier carries in its type what it identifies, so that one of a disk never stands for one of a
stemcell. -/

inductive Resource where
  | vm | disk | stemcell
deriving DecidableEq, Repr

/-- The kinds of resource of which a deployment keeps a list of records. -/
inductive Kind where
  | disk | stemcell
deriving DecidableEq, Repr

def Kind.resource : Kind → Resource
  | .disk => .disk
  | .stemcell => .stemcell

def Kind.name : Kind → String
  | .disk => "disk"
  | .stemcell => "stemcell"

/-- The provider's identifier of a resource. -/
structure Cid (resource : Resource) where
  text : String
deriving DecidableEq, Repr

/-- The identifier that a deployment itself gave to one of its records. -/
structure RecordId (kind : Kind) where
  text : String
deriving DecidableEq, Repr

/-- How a provider's deletion ended that did not fail: by releasing the resource, or by reporting it
as gone already. -/
inductive Deletion where
  | deleted
  | notFound
deriving DecidableEq, Repr

end DeploymentLifecycle
