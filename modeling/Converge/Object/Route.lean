import Converge.Object.Basic
import Converge.Object.Port

/-!
# Routes

A route leads requests for a host to a service.
-/

namespace Converge

/-- What a route leads to. -/
structure RouteTarget where
  kind : String
  name : String
  weight : Option Int32
  deriving DecidableEq

/-- The JSON form of what a route leads to. -/
def RouteTarget.codec : Codec RouteTarget :=
  .record "RouteTargetReference"
    (.field (.required "kind" .text) <|
      .field (.required "name" .text) <|
      .field (.optional "weight" .int32) .done)
    (fun (kind, name, weight, ()) => ⟨kind, name, weight⟩)
    (fun ⟨kind, name, weight⟩ => (kind, name, weight, ()))

/-- The port of the service that a route leads to. -/
structure RoutePort where
  targetPort : PortReference
  deriving DecidableEq

/-- The JSON form of the port that a route leads to. -/
def RoutePort.codec : Codec RoutePort :=
  .record "RoutePort" (.field (.required "targetPort" PortReference.codec) .done)
    (fun (port, ()) => ⟨port⟩) (fun ⟨port⟩ => (port, ()))

/-- How a route ends encryption, and what becomes of requests that are not encrypted. -/
structure RouteTls where
  termination : String
  insecurePolicy : Option String
  deriving DecidableEq

namespace RouteTls

/-- Encryption ends at the router. -/
def edge : String := "edge"

/-- Requests that are not encrypted are sent to the encrypted address. -/
def redirect : String := "Redirect"

/-- The JSON form of the encryption of a route. -/
def codec : Codec RouteTls :=
  .record "RouteTls"
    (.field (.required "termination" .text) <|
      .field (.optional "insecureEdgeTerminationPolicy" .text) .done)
    (fun (termination, policy, ()) => ⟨termination, policy⟩)
    (fun ⟨termination, policy⟩ => (termination, policy, ()))

end RouteTls

/-- Where a route starts and where it leads. -/
structure RouteSpec where
  host : Option String
  target : RouteTarget
  port : Option RoutePort
  tls : Option RouteTls
  deriving DecidableEq

/-- The JSON form of the specification of a route. -/
def RouteSpec.codec : Codec RouteSpec :=
  .record "RouteSpec"
    (.field (.optional "host" .text) <|
      .field (.required "to" RouteTarget.codec) <|
      .field (.optional "port" RoutePort.codec) <|
      .field (.optional "tls" RouteTls.codec) .done)
    (fun (host, target, port, tls, ()) => ⟨host, target, port, tls⟩)
    (fun ⟨host, target, port, tls⟩ => (host, target, port, tls, ()))

/-- A route. -/
abbrev Route := Object RouteSpec

namespace Route

/-- The version of the interface that has routes. -/
def version : String := "route.openshift.io/v1"

/-- The JSON form of a route. -/
def codec : Codec Route := Object.codec "Route" version RouteSpec.codec

/-- The route of a specification. -/
def of (metadata : Metadata) (spec : RouteSpec) : Route :=
  ⟨version, "Route", metadata, spec⟩

end Route

end Converge
