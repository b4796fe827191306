import Converge.Object.Basic

/-!
# Ingresses

An ingress leads requests to services, by rules for hosts and paths.
-/

namespace Converge

/-- A port of a service, by number or by name. -/
structure BackendPort where
  number : Option Int32
  name : Option String
  deriving DecidableEq

/-- The JSON form of a port of a service. -/
def BackendPort.codec : Codec BackendPort :=
  .record "ServiceBackendPort"
    (.field (.optional "number" .int32) <| .field (.optional "name" .text) .done)
    (fun (number, name, ()) => ⟨number, name⟩) (fun ⟨number, name⟩ => (number, name, ()))

/-- A service behind a path. -/
structure ServiceBackend where
  name : String
  port : BackendPort
  deriving DecidableEq

/-- The JSON form of a service behind a path. -/
def ServiceBackend.codec : Codec ServiceBackend :=
  .record "IngressServiceBackend"
    (.field (.required "name" .text) <| .field (.required "port" BackendPort.codec) .done)
    (fun (name, port, ()) => ⟨name, port⟩) (fun ⟨name, port⟩ => (name, port, ()))

/-- What is behind a path. -/
structure Backend where
  service : Option ServiceBackend
  deriving DecidableEq

/-- The JSON form of what is behind a path. -/
def Backend.codec : Codec Backend :=
  .record "IngressBackend" (.field (.optional "service" ServiceBackend.codec) .done)
    (fun (service, ()) => ⟨service⟩) (fun ⟨service⟩ => (service, ()))

/-- A path of a rule. -/
structure IngressPath where
  path : Option String
  pathType : String
  backend : Backend
  deriving DecidableEq

/-- The JSON form of a path. -/
def IngressPath.codec : Codec IngressPath :=
  .record "IngressPath"
    (.field (.optional "path" .text) <|
      .field (.required "pathType" .text) <|
      .field (.required "backend" Backend.codec) .done)
    (fun (path, type, backend, ()) => ⟨path, type, backend⟩)
    (fun ⟨path, type, backend⟩ => (path, type, backend, ()))

/-- The paths of a rule. -/
structure RulePaths where
  paths : List IngressPath
  deriving DecidableEq

/-- The JSON form of the paths of a rule. -/
def RulePaths.codec : Codec RulePaths :=
  .record "HttpIngressRuleValue" (.field (.required "paths" IngressPath.codec.list) .done)
    (fun (paths, ()) => ⟨paths⟩) (fun ⟨paths⟩ => (paths, ()))

/-- A rule for a host. -/
structure IngressRule where
  host : Option String
  http : Option RulePaths
  deriving DecidableEq

/-- The JSON form of a rule. -/
def IngressRule.codec : Codec IngressRule :=
  .record "IngressRule"
    (.field (.optional "host" .text) <| .field (.optional "http" RulePaths.codec) .done)
    (fun (host, http, ()) => ⟨host, http⟩) (fun ⟨host, http⟩ => (host, http, ()))

/-- The hosts that a secret holds a certificate for. -/
structure IngressTls where
  hosts : List String
  secretName : Option String
  deriving DecidableEq

/-- The JSON form of the encryption of some hosts. -/
def IngressTls.codec : Codec IngressTls :=
  .record "IngressTls"
    (.field (.defaulted "hosts" (.list .text) []) <|
      .field (.optional "secretName" .text) .done)
    (fun (hosts, secret, ()) => ⟨hosts, secret⟩) (fun ⟨hosts, secret⟩ => (hosts, secret, ()))

/-- The rules of an ingress and its encryption. -/
structure IngressSpec where
  rules : List IngressRule
  tls : List IngressTls
  deriving DecidableEq

/-- The JSON form of the specification of an ingress. -/
def IngressSpec.codec : Codec IngressSpec :=
  .record "IngressSpec"
    (.field (.items "rules" IngressRule.codec) <| .field (.items "tls" IngressTls.codec) .done)
    (fun (rules, tls, ()) => ⟨rules, tls⟩) (fun ⟨rules, tls⟩ => (rules, tls, ()))

/-- An ingress. -/
abbrev Ingress := Object IngressSpec

namespace Ingress

/-- The version of the interface that has ingresses. -/
def version : String := "networking.k8s.io/v1"

/-- The JSON form of an ingress. -/
def codec : Codec Ingress := Object.codec "Ingress" version IngressSpec.codec

/-- The ingress of a specification. -/
def of (metadata : Metadata) (spec : IngressSpec) : Ingress :=
  ⟨version, "Ingress", metadata, spec⟩

end Ingress

end Converge
