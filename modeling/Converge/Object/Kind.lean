import Converge.Api.ResourceType
import Converge.Object.Deployment
import Converge.Object.Ingress
import Converge.Object.Route
import Converge.Object.Service
import Converge.Object.ServiceAccount
import Converge.Object.VolumeClaim

/-!
# Kinds of managed objects

The six kinds of objects that an instance consists of. `Kind.all` lists them as sets of objects
are grouped, and `Kind.planning` as plans go through them: what others refer to comes first.
-/

namespace Converge

/-- A kind of managed objects. -/
inductive Kind where
  | deployment
  | service
  | volumeClaim
  | serviceAccount
  | route
  | ingress
  deriving DecidableEq

namespace Kind

/-- All kinds in the order of grouping. -/
def all : List Kind := [deployment, service, volumeClaim, serviceAccount, route, ingress]

/-- The position of a kind in the order of grouping. -/
def rank (kind : Kind) : Nat := all.idxOf kind

/-- All kinds in the order of planning. -/
def planning : List Kind := [serviceAccount, volumeClaim, deployment, service, route, ingress]

/-- The name of a kind. -/
def name : Kind → String
  | deployment => "Deployment"
  | service => "Service"
  | volumeClaim => "PersistentVolumeClaim"
  | serviceAccount => "ServiceAccount"
  | route => "Route"
  | ingress => "Ingress"

/-- The kind of a name. -/
def ofName? (name : String) : Option Kind := all.find? fun kind => kind.name == name

/-- The version of the interface that serves a kind. -/
def version : Kind → String
  | deployment => Deployment.version
  | service => Service.version
  | volumeClaim => VolumeClaim.version
  | serviceAccount => ServiceAccount.version
  | route => Route.version
  | ingress => Ingress.version

/-- How the objects of a kind are addressed. -/
def resourceType (kind : Kind) : ResourceType := .of kind.version kind.name

/-- Every kind is listed in the order of grouping. -/
theorem mem_all (kind : Kind) : kind ∈ all := by cases kind <;> decide

/-- No two kinds have the same position. -/
theorem rank_inj {kind other : Kind} : kind.rank = other.rank ↔ kind = other := by
  cases kind <;> cases other <;> decide

/-- Every kind is listed in the order of planning. -/
theorem mem_planning (kind : Kind) : kind ∈ planning := by cases kind <;> decide

theorem nodup_all : all.Nodup := by decide

theorem nodup_planning : planning.Nodup := by decide

/-- Of what is gathered kind by kind, the part of one kind is what was gathered for it. -/
theorem filter_flatMap {α : Type} {kinds : List Kind} (distinct : kinds.Nodup) {kind : Kind}
    (listed : kind ∈ kinds) {tag : α → Kind} {gather : Kind → List α}
    (tagged : ∀ kind, ∀ item ∈ gather kind, tag item = kind) :
    (kinds.flatMap gather).filter (fun item => tag item == kind) = gather kind := by
  have own : (gather kind).filter (fun item => tag item == kind) = gather kind :=
    List.filter_eq_self.2 fun item inside => beq_iff_eq.2 (tagged kind item inside)
  have foreign {other : Kind} (differ : other ≠ kind) :
      (gather other).filter (fun item => tag item == kind) = [] := by
    refine List.filter_eq_nil_iff.2 fun item inside => ?_
    rw [tagged other item inside, beq_iff_eq]
    exact differ
  rw [List.filter_flatMap]
  induction kinds with
  | nil => cases listed
  | cons head rest ih =>
    obtain ⟨absent, distinct⟩ := List.nodup_cons.1 distinct
    rw [List.flatMap_cons]
    by_cases here : head = kind
    · subst here
      have others : (rest.flatMap fun other =>
          (gather other).filter fun item => tag item == head) = [] := by
        refine List.flatMap_eq_nil_iff.2 fun other inside => foreign ?_
        rintro rfl
        exact absent inside
      rw [own, others, List.append_nil]
    · rw [foreign here, List.nil_append]
      exact ih distinct (List.mem_of_ne_of_mem (Ne.symm here) listed)

end Kind

end Converge
