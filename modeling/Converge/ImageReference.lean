import Converge.Text.Split

/-!
# Image references and pull policies

An image that is pinned, by a digest or by a tag other than `latest`, is pulled only when it is
missing; any other image is pulled always. A tag is looked for in the last segment only, since a
colon before it belongs to the port of a registry.
-/

namespace Converge

/-- When an image is pulled. -/
inductive PullPolicy where
  | always
  | ifNotPresent
  | never
  deriving DecidableEq

namespace PullPolicy

/-- The name of a policy. -/
def name : PullPolicy → String
  | always => "Always"
  | ifNotPresent => "IfNotPresent"
  | never => "Never"

/-- The policy of a name. -/
def ofName? (name : String) : Option PullPolicy :=
  if name = "Always" then some always
  else if name = "IfNotPresent" then some ifNotPresent
  else if name = "Never" then some never
  else none

/-- Naming a policy and reading the name gives the policy. -/
theorem ofName?_name (policy : PullPolicy) : ofName? policy.name = some policy := by
  cases policy <;> rfl

end PullPolicy

namespace ImageReference

/-- Whether a reference is pinned by a digest or by a tag other than `latest`. -/
def isPinned (image : String) : Bool :=
  image.toList.contains '@' ||
    match Text.splitFirst? ':' (Text.afterLast '/' image.toList) with
    | some (_, tag) => !tag.isEmpty && tag != "latest".toList
    | none => false

/-- The policy that suits an image. -/
def inferredPolicy (image : String) : PullPolicy :=
  if isPinned image then .ifNotPresent else .always

/-- An explicit policy, or the one that suits the image. -/
def effectivePolicy (explicit : Option PullPolicy) (image : String) : PullPolicy :=
  explicit.getD (inferredPolicy image)

end ImageReference

end Converge
