import Converge.Plan.Basic

/-!
# Clusters

A cluster as far as plans are concerned: what is stored at which place. `Cluster.get?` is its view.
`Plan.apply` carries out a plan: an object that is created or updated is stored as it is wanted, one
that is deleted is removed, and all others stay as they are.
-/

namespace Converge

/-- What is stored at which place; the first entry of a place counts. -/
structure Cluster where
  entries : List (Key × Json)

namespace Cluster

/-- The cluster that stores nothing. -/
def empty : Cluster := ⟨[]⟩

/-- What is stored at a place. -/
def get? (cluster : Cluster) (key : Key) : Option Json :=
  (cluster.entries.find? fun entry => entry.1 == key).map (·.2)

/-- A cluster without what is stored at a place. -/
def remove (cluster : Cluster) (key : Key) : Cluster :=
  ⟨cluster.entries.filter fun entry => !(entry.1 == key)⟩

/-- A cluster with something stored at a place, instead of what was there. -/
def put (cluster : Cluster) (key : Key) (value : Json) : Cluster :=
  ⟨(key, value) :: (cluster.remove key).entries⟩

/-- The places at which something is stored. -/
def keys (cluster : Cluster) : List Key := cluster.entries.map (·.1)

/-- Reading from a cluster never fails. -/
def reader (cluster : Cluster) : Reader := fun key => .ok (cluster.get? key)

end Cluster

namespace Plan

/-- A cluster after one verdict of a plan. -/
def carryOut (plan : Plan) (cluster : Cluster) (verdict : Verdict) : Cluster :=
  let key : Key := ⟨verdict.kind, plan.namespaceName, verdict.name⟩
  match verdict.action with
  | .keep => cluster
  | .delete => cluster.remove key
  | .create | .update =>
    match plan.required.find? verdict.kind verdict.name with
    | some object => cluster.put key object.encode
    | none => cluster

/-- A cluster after a plan. -/
def apply (plan : Plan) (cluster : Cluster) : Cluster :=
  plan.verdicts.foldl plan.carryOut cluster

end Plan

end Converge
