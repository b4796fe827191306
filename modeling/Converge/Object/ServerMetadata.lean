import Converge.Codec.Record
import Converge.Object.Timestamp

/-!
# Metadata as a cluster keeps it

All the metadata that a cluster keeps with an object. Each part may be absent; what is not listed
here is dropped when an object is read.
-/

namespace Converge

/-- An object that another one belongs to. -/
structure OwnerReference where
  apiVersion : String
  blockOwnerDeletion : Option Bool
  controller : Option Bool
  kind : String
  name : String
  uid : String
  deriving DecidableEq

/-- The JSON form of an owner. -/
def OwnerReference.codec : Codec OwnerReference :=
  .lenientRecord "OwnerReference"
    (.field (.orElse "apiVersion" .text "") <|
      .field (.optional "blockOwnerDeletion" .bool) <|
      .field (.optional "controller" .bool) <|
      .field (.orElse "kind" .text "") <|
      .field (.orElse "name" .text "") <|
      .field (.orElse "uid" .text "") .done)
    (fun (version, block, controller, kind, name, uid, ()) =>
      ⟨version, block, controller, kind, name, uid⟩)
    (fun ⟨version, block, controller, kind, name, uid⟩ =>
      (version, block, controller, kind, name, uid, ()))

/-- The fields that one manager of an object has set. -/
structure ManagedFields where
  apiVersion : Option String
  fieldsType : Option String
  fields : Option Json
  manager : Option String
  operation : Option String
  subresource : Option String
  time : Option Timestamp

/-- The JSON form of the fields that a manager has set. -/
def ManagedFields.codec : Codec ManagedFields :=
  .lenientRecord "ManagedFieldsEntry"
    (.field (.optional "apiVersion" .text) <|
      .field (.optional "fieldsType" .text) <|
      .field (.optional "fieldsV1" .json) <|
      .field (.optional "manager" .text) <|
      .field (.optional "operation" .text) <|
      .field (.optional "subresource" .text) <|
      .field (.optional "time" Timestamp.codec) .done)
    (fun (version, type, fields, manager, operation, subresource, time, ()) =>
      ⟨version, type, fields, manager, operation, subresource, time⟩)
    (fun ⟨version, type, fields, manager, operation, subresource, time⟩ =>
      (version, type, fields, manager, operation, subresource, time, ()))

/-- The metadata that a cluster keeps with an object. -/
structure ServerMetadata where
  annotations : Option Dict
  creationTimestamp : Option Timestamp
  deletionGracePeriodSeconds : Option Int64
  deletionTimestamp : Option Timestamp
  finalizers : Option (List String)
  generateName : Option String
  generation : Option Int64
  labels : Option Dict
  managedFields : Option (List ManagedFields)
  name : Option String
  namespaceName : Option String
  ownerReferences : Option (List OwnerReference)
  resourceVersion : Option String
  selfLink : Option String
  uid : Option String

namespace ServerMetadata

/-- The JSON form of all metadata. -/
def codec : Codec ServerMetadata :=
  .lenientRecord "ObjectMeta"
    (.field (.optional "annotations" .dict) <|
      .field (.optional "creationTimestamp" Timestamp.codec) <|
      .field (.optional "deletionGracePeriodSeconds" .int64) <|
      .field (.optional "deletionTimestamp" Timestamp.codec) <|
      .field (.optional "finalizers" (.list .text)) <|
      .field (.optional "generateName" .text) <|
      .field (.optional "generation" .int64) <|
      .field (.optional "labels" .dict) <|
      .field (.optional "managedFields" ManagedFields.codec.list) <|
      .field (.optional "name" .text) <|
      .field (.optional "namespace" .text) <|
      .field (.optional "ownerReferences" OwnerReference.codec.list) <|
      .field (.optional "resourceVersion" .text) <|
      .field (.optional "selfLink" .text) <|
      .field (.optional "uid" .text) .done)
    (fun (annotations, created, grace, deleted, finalizers, generateName, generation, labels,
        managed, name, space, owners, version, link, uid, ()) =>
      ⟨annotations, created, grace, deleted, finalizers, generateName, generation, labels,
        managed, name, space, owners, version, link, uid⟩)
    (fun ⟨annotations, created, grace, deleted, finalizers, generateName, generation, labels,
        managed, name, space, owners, version, link, uid⟩ =>
      (annotations, created, grace, deleted, finalizers, generateName, generation, labels,
        managed, name, space, owners, version, link, uid, ()))

/-- Metadata in which nothing is set. -/
def blank : ServerMetadata :=
  ⟨none, none, none, none, none, none, none, none, none, none, none, none, none, none, none⟩

end ServerMetadata

end Converge
