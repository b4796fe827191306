import Converge.Object.Metadata
import Converge.Quantity

/-!
# Comparing what is found with what is wanted

An object that is found meets the one that is wanted when it has all that is asked for. What a
cluster adds by itself does not count: more labels and annotations are tolerated, a value that is
absent means its default, and amounts are compared whatever their unit.
-/

namespace Converge

/-- Whether two lists have the same length and their elements meet one by one. -/
def meetsPairwise {α β : Type} (meets : α → β → Bool) : List α → List β → Bool
  | [], [] => true
  | found :: founds, wanted :: wanteds => meets found wanted && meetsPairwise meets founds wanteds
  | [], _ :: _ | _ :: _, [] => false

/-- Whether what is found is as wanted, if something is wanted. -/
def meetsIfWanted {α : Type} [BEq α] (found wanted : Option α) : Bool :=
  wanted.isNone || found == wanted

/-- Whether metadata has the name, the namespace and all labels and annotations that are wanted. -/
def Metadata.meets (found wanted : Metadata) : Bool :=
  found.name == wanted.name && found.namespaceName == wanted.namespaceName &&
    wanted.labels.isSubsetOf found.labels && wanted.annotations.isSubsetOf found.annotations

/-- Whether two dictionaries of quantities have equal amounts under the same names. -/
def Dict.amountsMeet (found wanted : Dict) : Bool :=
  found.size == wanted.size &&
    wanted.entries.all fun entry =>
      (found.get? entry.1).any fun amount => Quantity.equal amount entry.2

end Converge
