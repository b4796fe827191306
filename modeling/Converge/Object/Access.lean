import Converge.Object.ServiceAccount

/-!
# Roles and their bindings

What a service account may do, as a template: a role that may read the workloads, the storage and
the configuration of its namespace, and the binding that gives this role to the account.
-/

namespace Converge

/-- A permission: some verbs on some resources of some groups. -/
structure PolicyRule where
  apiGroups : List String
  resources : List String
  verbs : List String
  deriving DecidableEq

/-- The JSON form of a permission. -/
def PolicyRule.codec : Codec PolicyRule :=
  .record "PolicyRule"
    (.field (.required "apiGroups" (.list .text)) <|
      .field (.required "resources" (.list .text)) <|
      .field (.required "verbs" (.list .text)) .done)
    (fun (groups, resources, verbs, ()) => ⟨groups, resources, verbs⟩)
    (fun ⟨groups, resources, verbs⟩ => (groups, resources, verbs, ()))

/-- The version of the interface that has roles and bindings. -/
def accessVersion : String := "rbac.authorization.k8s.io/v1"

/-- The group of the interface that has roles. -/
def accessGroup : String := "rbac.authorization.k8s.io"

/-- A role. -/
structure Role where
  apiVersion : String
  kind : String
  metadata : Metadata
  rules : List PolicyRule
  deriving DecidableEq

namespace Role

/-- The JSON form of a role. -/
def codec : Codec Role :=
  .record "Role"
    (.field (.required "apiVersion" .text) <|
      .field (.required "kind" .text) <|
      .field (.required "metadata" Metadata.codec) <|
      .field (.defaulted "rules" PolicyRule.codec.list []) .done)
    (fun (version, kind, metadata, rules, ()) => ⟨version, kind, metadata, rules⟩)
    (fun ⟨version, kind, metadata, rules⟩ => (version, kind, metadata, rules, ()))

/-- The permissions of the template: reading what an instance consists of. -/
def readingRules : List PolicyRule :=
  [ { apiGroups := [""]
      resources :=
        ["pods", "services", "endpoints", "persistentvolumeclaims", "configmaps", "secrets",
          "events"]
      verbs := ["get", "list", "watch"] },
    { apiGroups := ["apps"]
      resources := ["deployments"]
      verbs := ["get", "list", "watch"] } ]

end Role

/-- The role that a binding gives. -/
structure RoleReference where
  apiGroup : String
  kind : String
  name : String
  deriving DecidableEq

/-- The JSON form of the role that a binding gives. -/
def RoleReference.codec : Codec RoleReference :=
  .record "RoleRef"
    (.field (.required "apiGroup" .text) <|
      .field (.required "kind" .text) <|
      .field (.required "name" .text) .done)
    (fun (group, kind, name, ()) => ⟨group, kind, name⟩)
    (fun ⟨group, kind, name⟩ => (group, kind, name, ()))

/-- Who is given a role. -/
structure Subject where
  kind : String
  name : String
  namespaceName : Option String
  deriving DecidableEq

/-- The JSON form of who is given a role. -/
def Subject.codec : Codec Subject :=
  .record "Subject"
    (.field (.required "kind" .text) <|
      .field (.required "name" .text) <|
      .field (.optional "namespace" .text) .done)
    (fun (kind, name, space, ()) => ⟨kind, name, space⟩)
    (fun ⟨kind, name, space⟩ => (kind, name, space, ()))

/-- A binding of a role. -/
structure RoleBinding where
  apiVersion : String
  kind : String
  metadata : Metadata
  roleRef : RoleReference
  subjects : List Subject
  deriving DecidableEq

/-- The JSON form of a binding. -/
def RoleBinding.codec : Codec RoleBinding :=
  .record "RoleBinding"
    (.field (.required "apiVersion" .text) <|
      .field (.required "kind" .text) <|
      .field (.required "metadata" Metadata.codec) <|
      .field (.required "roleRef" RoleReference.codec) <|
      .field (.required "subjects" Subject.codec.list) .done)
    (fun (version, kind, metadata, role, subjects, ()) => ⟨version, kind, metadata, role, subjects⟩)
    (fun ⟨version, kind, metadata, role, subjects⟩ => (version, kind, metadata, role, subjects, ()))

/-- A role with the binding that gives it to an account. -/
structure AccessTemplate where
  role : Role
  binding : RoleBinding
  deriving DecidableEq

/-- The template for an account; its objects bear the account's name and labels. -/
def AccessTemplate.ofAccount (account : ServiceAccount) : AccessTemplate :=
  let metadata := { account.metadata with annotations := .empty }
  { role :=
      { apiVersion := accessVersion, kind := "Role", metadata, rules := Role.readingRules }
    binding :=
      { apiVersion := accessVersion
        kind := "RoleBinding"
        metadata
        roleRef := ⟨accessGroup, "Role", metadata.name⟩
        subjects := [⟨"ServiceAccount", metadata.name, some metadata.namespaceName⟩] } }

end Converge
