import Converge.Instance.Settings
import Converge.Object.VolumeClaim

/-!
# The storage of an instance

The claim for the volume that holds the data. One pod has the volume for itself, more pods share
it.
-/

namespace Converge.Settings

/-- The access mode of the volume. -/
def accessMode (settings : Settings) : String :=
  if settings.replicas ≤ 1 then ClaimSpec.readWriteOnce else ClaimSpec.readWriteMany

/-- The claim for the volume of an instance. -/
def volumeClaim (settings : Settings) : VolumeClaim :=
  .of (.ofInstance settings.name settings.namespaceName)
    { accessModes := [settings.accessMode]
      resources := ⟨Dict.empty.insert "storage" settings.persistence.volumeSize⟩
      storageClassName := settings.persistence.storageClass }

end Converge.Settings
