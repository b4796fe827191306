import Converge.Failure
import Converge.Object.Kind

/-!
# Managed objects

An object of one of the managed kinds, wanted or found. What a cluster holds is read by
`Resource.decode` as an object of the kind that was asked for.
-/

namespace Converge

/-- An object of a managed kind. -/
inductive Resource where
  | deployment (object : Deployment)
  | service (object : Service)
  | volumeClaim (object : VolumeClaim)
  | serviceAccount (object : ServiceAccount)
  | route (object : Route)
  | ingress (object : Ingress)
  deriving DecidableEq

namespace Resource

/-- The kind of an object. -/
def kind : Resource → Kind
  | deployment _ => .deployment
  | service _ => .service
  | volumeClaim _ => .volumeClaim
  | serviceAccount _ => .serviceAccount
  | route _ => .route
  | ingress _ => .ingress

/-- The metadata of an object. -/
def metadata : Resource → Metadata
  | deployment object => object.metadata
  | service object => object.metadata
  | volumeClaim object => object.metadata
  | serviceAccount object => object.metadata
  | route object => object.metadata
  | ingress object => object.metadata

/-- The name of an object. -/
def name (resource : Resource) : String := resource.metadata.name

/-- The namespace of an object. -/
def namespaceName (resource : Resource) : String := resource.metadata.namespaceName

/-- The JSON form of an object. -/
def encode : Resource → Json
  | deployment object => Deployment.codec.encode object
  | service object => Service.codec.encode object
  | volumeClaim object => VolumeClaim.codec.encode object
  | serviceAccount object => ServiceAccount.codec.encode object
  | route object => Route.codec.encode object
  | ingress object => Ingress.codec.encode object

/-- The outline of the JSON form of the objects of a kind. -/
def schema : Kind → Schema
  | .deployment => Deployment.codec.schema
  | .service => Service.codec.schema
  | .volumeClaim => VolumeClaim.codec.schema
  | .serviceAccount => ServiceAccount.codec.schema
  | .route => Route.codec.schema
  | .ingress => Ingress.codec.schema

/-- The object of a kind that a value stands for, or what is wrong with the value. -/
def decodeValue : Kind → Json → Except DecodeError Resource
  | .deployment, value => (Deployment.codec.decode value).map deployment
  | .service, value => (Service.codec.decode value).map service
  | .volumeClaim, value => (VolumeClaim.codec.decode value).map volumeClaim
  | .serviceAccount, value => (ServiceAccount.codec.decode value).map serviceAccount
  | .route, value => (Route.codec.decode value).map route
  | .ingress, value => (Ingress.codec.decode value).map ingress

/-- The object of a kind that a value read from a cluster stands for. -/
def decode (kind : Kind) (value : Json) : Except Failure Resource :=
  (decodeValue kind value).mapError fun error =>
    .malformed s!"failed to decode: {error.message}" (some kind.name)

end Resource

end Converge
