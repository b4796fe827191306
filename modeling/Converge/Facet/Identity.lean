import Converge.Instance.Settings
import Converge.Object.Access

/-!
# The identity of an instance

The service account that the pods run as. It belongs to its instance whatever its own name is.
-/

namespace Converge.Settings

/-- The service account of an instance. -/
def serviceAccount (settings : Settings) : ServiceAccount :=
  .of (.ownedBy settings.name settings.serviceAccountName settings.namespaceName)

end Converge.Settings
