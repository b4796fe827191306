import Converge.Failure
import Converge.Instance.Spec
import Converge.Quantity

/-!
# Validation

What no default can repair is refused before anything else happens: the number of replicas, the
credentials and the quantities. The checks are made in a fixed order, and the first one that
fails is reported with the path of its field. What belongs to exposure is checked later, when the
way to be reached is known.
-/

namespace Converge.InstanceSpec

/-- The least number of replicas. -/
def minReplicas : Nat := 1

/-- The greatest number of replicas. -/
def maxReplicas : Nat := 100

/-- The least number of characters of a password. -/
def minPasswordLength : Nat := 5

/-- One check: the path of the field that it is about, and what it finds. -/
structure Check where
  field : String
  result : Except String Unit

/-- The check of the number of replicas. -/
def replicasCheck (spec : InstanceSpec) : Check where
  field := "spec.replicas"
  result :=
    if minReplicas ≤ spec.replicas.toNat ∧ spec.replicas.toNat ≤ maxReplicas then .ok ()
    else
      .error s!"replicas must be between {minReplicas} and {maxReplicas}, got {spec.replicas}"

/-- The checks of the credentials. -/
def credentialChecks (credentials : Credentials) : List Check :=
  [ { field := "spec.credentials.user"
      result := if credentials.user.isEmpty then .error "admin user cannot be empty" else .ok () },
    { field := "spec.credentials.password"
      result :=
        if credentials.password.length < minPasswordLength then
          .error s!"admin password must be at least {minPasswordLength} characters"
        else .ok () } ]

/-- The checks of the amounts on one side of the resources. -/
def amountChecks (side : String) (amounts : ResourceAmounts) : List Check :=
  (amounts.cpu.map fun cpu =>
      (⟨s!"spec.resources.{side}.cpu", Quantity.checkCores cpu⟩ : Check)).toList ++
    (amounts.memory.map fun memory =>
      (⟨s!"spec.resources.{side}.memory", Quantity.checkMemory memory⟩ : Check)).toList

/-- The checks of the resources. -/
def resourceChecks (needs : ResourceNeeds) : List Check :=
  (needs.requests.map (amountChecks "requests")).getD [] ++
    (needs.limits.map (amountChecks "limits")).getD []

/-- The check of the size of the volume; an empty size is none. -/
def sizeChecks (persistence : PersistenceSpec) : List Check :=
  match persistence.volumeSize with
  | some size =>
    if size.isEmpty then [] else [⟨"spec.persistence.volumeSize", Quantity.checkMemory size⟩]
  | none => []

/-- All checks in their order. -/
def checks (spec : InstanceSpec) : List Check :=
  replicasCheck spec ::
    ((spec.credentials.map credentialChecks).getD [] ++
      (spec.resources.map resourceChecks).getD [] ++
      (spec.persistence.map sizeChecks).getD [])

/-- The failure of the first check that fails. -/
def firstFault (owner : String) : List Check → Except Failure Unit
  | [] => .ok ()
  | check :: rest =>
    match check.result with
    | .ok () => firstFault owner rest
    | .error message => .error (.invalidField owner check.field message)

/-- Checks a specification for the instance of a name. -/
def validate (spec : InstanceSpec) (owner : String) : Except Failure Unit :=
  firstFault owner spec.checks

end Converge.InstanceSpec
