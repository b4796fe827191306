import Converge.Codec.Record

/-!
# Capabilities of a cluster

Which of the optional kinds a cluster serves, and whether it is of the platform that has routes.
-/

namespace Converge

/-- What a cluster offers. -/
structure Capabilities where
  routes : Bool
  ingress : Bool
  openshift : Bool
  deriving DecidableEq

namespace Capabilities

/-- The JSON form of capabilities. -/
def codec : Codec Capabilities :=
  .record "Capabilities"
    (.field (.required "routes" .bool) <|
      .field (.required "ingress" .bool) <|
      .field (.required "openshift" .bool) .done)
    (fun (routes, ingress, openshift, ()) => ⟨routes, ingress, openshift⟩)
    (fun ⟨routes, ingress, openshift⟩ => (routes, ingress, openshift, ()))

/-- The cluster that offers nothing beyond the core. -/
def none : Capabilities := ⟨false, false, false⟩

/-- The group that serves routes. -/
def routeGroup : String := "route.openshift.io"

/-- The group that serves ingresses. -/
def ingressGroup : String := "networking.k8s.io"

/-- The group that only clusters of the platform with routes have. -/
def platformGroup : String := "config.openshift.io"

/-- The groups that capabilities are read off. -/
def groups : List String := [routeGroup, ingressGroup, platformGroup]

/-- What a cluster offers after one more group and kind that it serves. -/
def withServed (capabilities : Capabilities) (served : String × String) : Capabilities :=
  if served = (routeGroup, "Route") then { capabilities with routes := true }
  else if served = (ingressGroup, "Ingress") then { capabilities with ingress := true }
  else if served.1 = platformGroup then { capabilities with openshift := true }
  else capabilities

/-- What a cluster offers that serves some groups and kinds. -/
def ofServed (served : List (String × String)) : Capabilities := served.foldl withServed none

end Capabilities

end Converge
