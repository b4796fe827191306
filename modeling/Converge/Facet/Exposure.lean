import Converge.Facet.Workload
import Converge.Object.Ingress
import Converge.Object.Route

/-!
# The exposure of an instance

The route or the ingress that leads from outside to the service of an instance, and how encryption
is added to either.
-/

namespace Converge

namespace Route

/-- The route from a host to the service of an instance. -/
def toService (settings : Settings) (host : String) : Route :=
  .of (.ofInstance settings.name settings.namespaceName)
    { host := some host
      target := ⟨"Service", settings.name, none⟩
      port := some ⟨.number serverPort⟩
      tls := none }

/-- A route with other encryption. -/
def withTls (route : Route) (tls : Option RouteTls) : Route :=
  { route with spec := { route.spec with tls } }

/-- A route at which encryption ends at the router. -/
def withEdgeTls (route : Route) : Route :=
  route.withTls (some ⟨RouteTls.edge, route.spec.tls.bind (·.insecurePolicy)⟩)

/-- A route that sends requests without encryption to the encrypted address. -/
def withRedirect (route : Route) : Route :=
  route.withTls
    (some ⟨(route.spec.tls.map (·.termination)).getD RouteTls.edge, some RouteTls.redirect⟩)

end Route

/-- What can be added to a route. -/
inductive RouteDecorator where
  | edgeTls
  | redirect
  deriving DecidableEq

/-- A route with one addition. -/
def Route.decorate (route : Route) : RouteDecorator → Route
  | .edgeTls => route.withEdgeTls
  | .redirect => route.withRedirect

/-- The route of an instance; mandatory encryption ends at the router and is forced. -/
def Settings.route (settings : Settings) (host : String) : Route :=
  let route := Route.toService settings host
  if settings.networking.tls.mandatory then route.withEdgeTls.withRedirect else route

namespace Ingress

/-- The path that all requests have; what follows its start is passed on. -/
def path : String := "/?(.*)"

/-- The annotation by which a path is rewritten. -/
def pathTargetKey : String := "nginx.ingress.kubernetes.io/rewrite-target"

/-- The ingress from a host to the service of an instance. -/
def toService (settings : Settings) (host : String) : Ingress :=
  let backend : ServiceBackend := ⟨settings.name, ⟨some serverPort, none⟩⟩
  let paths : RulePaths := ⟨[⟨some path, "ImplementationSpecific", ⟨some backend⟩⟩]⟩
  .of ((Metadata.ofInstance settings.name settings.namespaceName).annotate
      pathTargetKey "/$1")
    { rules := [⟨some host, some paths⟩]
      tls := [] }

/-- An ingress that serves all hosts of its rules with the certificate of a secret. -/
def withTlsSecret (ingress : Ingress) (secret : String) : Ingress :=
  let hosts := ingress.spec.rules.filterMap (·.host)
  { ingress with spec := { ingress.spec with tls := [⟨hosts, some secret⟩] } }

end Ingress

/-- The ingress of an instance; a secret that is named brings encryption. -/
def Settings.ingress (settings : Settings) (host : String) : Ingress :=
  let ingress := Ingress.toService settings host
  match settings.networking.tls.secretName with
  | some secret => ingress.withTlsSecret secret
  | none => ingress

end Converge
