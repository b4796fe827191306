import Converge.Object.Container
import Converge.Object.Basic

/-!
# Deployments

A deployment keeps a number of equal pods running, each made from one template.
-/

namespace Converge

/-- The claim that backs a volume. -/
structure ClaimSource where
  claimName : String
  deriving DecidableEq

/-- The JSON form of the claim that backs a volume. -/
def ClaimSource.codec : Codec ClaimSource :=
  .record "PersistentVolumeClaimVolumeSource" (.field (.required "claimName" .text) .done)
    (fun (name, ()) => ⟨name⟩) (fun ⟨name⟩ => (name, ()))

/-- A volume of a pod. -/
structure Volume where
  name : String
  claim : Option ClaimSource
  deriving DecidableEq

/-- The JSON form of a volume. -/
def Volume.codec : Codec Volume :=
  .record "Volume"
    (.field (.required "name" .text) <|
      .field (.optional "persistentVolumeClaim" ClaimSource.codec) .done)
    (fun (name, claim, ()) => ⟨name, claim⟩) (fun ⟨name, claim⟩ => (name, claim, ()))

/-- The users and groups that the processes of a pod run as. -/
structure SecurityContext where
  runAsUser : Option Int64
  fsGroup : Option Int64
  supplementalGroups : List Int64
  deriving DecidableEq

/-- The JSON form of a security context. -/
def SecurityContext.codec : Codec SecurityContext :=
  .record "PodSecurityContext"
    (.field (.optional "runAsUser" .int64) <|
      .field (.optional "fsGroup" .int64) <|
      .field (.items "supplementalGroups" .int64) .done)
    (fun (user, group, groups, ()) => ⟨user, group, groups⟩)
    (fun ⟨user, group, groups⟩ => (user, group, groups, ()))

/-- What runs in a pod. -/
structure PodSpec where
  serviceAccountName : Option String
  containers : List Container
  volumes : List Volume
  securityContext : Option SecurityContext
  deriving DecidableEq

/-- The JSON form of what runs in a pod. -/
def PodSpec.codec : Codec PodSpec :=
  .record "PodSpec"
    (.field (.optional "serviceAccountName" .text) <|
      .field (.required "containers" Container.codec.list) <|
      .field (.items "volumes" Volume.codec) <|
      .field (.optional "securityContext" SecurityContext.codec) .done)
    (fun (account, containers, volumes, context, ()) => ⟨account, containers, volumes, context⟩)
    (fun ⟨account, containers, volumes, context⟩ => (account, containers, volumes, context, ()))

/-- The metadata of the pods. -/
structure PodMetadata where
  labels : Dict
  deriving DecidableEq

/-- The JSON form of the metadata of the pods. -/
def PodMetadata.codec : Codec PodMetadata :=
  .record "PodTemplateMeta" (.field (.defaulted "labels" .dict .empty) .done)
    (fun (labels, ()) => ⟨labels⟩) (fun ⟨labels⟩ => (labels, ()))

/-- What the pods are made from. -/
structure PodTemplate where
  metadata : PodMetadata
  spec : PodSpec
  deriving DecidableEq

/-- The JSON form of a template. -/
def PodTemplate.codec : Codec PodTemplate :=
  .record "PodTemplateSpec"
    (.field (.defaulted "metadata" PodMetadata.codec ⟨.empty⟩) <|
      .field (.required "spec" PodSpec.codec) .done)
    (fun (metadata, spec, ()) => ⟨metadata, spec⟩)
    (fun ⟨metadata, spec⟩ => (metadata, spec, ()))

/-- The labels by which a deployment finds its pods. -/
structure LabelSelector where
  matchLabels : Dict
  deriving DecidableEq

/-- The JSON form of a selector. -/
def LabelSelector.codec : Codec LabelSelector :=
  .record "LabelSelector" (.field (.defaulted "matchLabels" .dict .empty) .done)
    (fun (labels, ()) => ⟨labels⟩) (fun ⟨labels⟩ => (labels, ()))

/-- How old pods give way to new ones. -/
structure Strategy where
  type : Option String
  deriving DecidableEq

namespace Strategy

/-- The JSON form of a strategy. -/
def codec : Codec Strategy :=
  .record "DeploymentStrategy" (.field (.optional "type" .text) .done)
    (fun (type, ()) => ⟨type⟩) (fun ⟨type⟩ => (type, ()))

/-- The type by which all old pods stop before a new one starts. -/
def recreate : String := "Recreate"

/-- The type by which pods are replaced one after the other; it holds when none is given. -/
def rollingUpdate : String := "RollingUpdate"

end Strategy

/-- What a deployment keeps running. -/
structure DeploymentSpec where
  replicas : Int32
  selector : LabelSelector
  template : PodTemplate
  strategy : Option Strategy
  deriving DecidableEq

/-- The JSON form of what a deployment keeps running. -/
def DeploymentSpec.codec : Codec DeploymentSpec :=
  .record "DeploymentSpec"
    (.field (.defaulted "replicas" .int32 1) <|
      .field (.required "selector" LabelSelector.codec) <|
      .field (.required "template" PodTemplate.codec) <|
      .field (.optional "strategy" Strategy.codec) .done)
    (fun (replicas, selector, template, strategy, ()) => ⟨replicas, selector, template, strategy⟩)
    (fun ⟨replicas, selector, template, strategy⟩ => (replicas, selector, template, strategy, ()))

/-- A deployment. -/
abbrev Deployment := Object DeploymentSpec

namespace Deployment

/-- The version of the interface that has deployments. -/
def version : String := "apps/v1"

/-- The JSON form of a deployment. -/
def codec : Codec Deployment := Object.codec "Deployment" version DeploymentSpec.codec

/-- The deployment of a specification. -/
def of (metadata : Metadata) (spec : DeploymentSpec) : Deployment :=
  ⟨version, "Deployment", metadata, spec⟩

end Deployment

end Converge
