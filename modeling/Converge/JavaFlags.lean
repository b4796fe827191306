import Converge.Quantity

/-!
# Flags of the Java machine

The container is told by flags where the preferences live, whether a first password is drawn at
random, and how much memory to take. The sizes follow the memory limit of the container: all of it
for direct memory, four fifths of it for the heap, in whole megabytes. A limit that gives a heap
below two megabytes, that is no quantity, or that is absent leaves the default sizes. The flags
stand in ascending order.
-/

namespace Converge

/-- The sizes of the heap and of direct memory, as the flags spell them. -/
structure MemorySizes where
  heap : String
  direct : String
  deriving DecidableEq

namespace MemorySizes

/-- The sizes without a memory limit. -/
def standard : MemorySizes := ⟨"1718m", "2148m"⟩

/-- An integral number of megabytes as a flag spells it. -/
def megabytes (value : Binary64) : String := value.wholeText ++ "m"

/-- The sizes for a limit in bytes; none if the heap would be below two megabytes. -/
def ofLimit? (bytes : Binary64) : Option MemorySizes :=
  let direct := (bytes.div (.ofNat 1000000)).ceil
  let heap := (direct.mul (.ofRatio false 8 10)).round
  if heap.lt (.ofNat 2) then none else some ⟨megabytes heap, megabytes direct⟩

/-- The sizes for an optional memory limit. -/
def ofLimit (limit : Option String) : MemorySizes :=
  ((limit.bind Quantity.parse?).bind ofLimit?).getD standard

end MemorySizes

namespace JavaFlags

/-- The variable of the container that holds the flags. -/
def variableName : String := "INSTALL4J_ADD_VM_PARAMS"

/-- The flags for a memory limit, in ascending order. -/
def flags (memoryLimit : Option String) (randomPassword : Bool) : List String :=
  let sizes := MemorySizes.ofLimit memoryLimit
  [ "-Djava.util.prefs.userRoot=/nexus-data/javaprefs",
    "-Dnexus.security.randompassword=" ++ toString randomPassword,
    "-XX:MaxDirectMemorySize=" ++ sizes.direct,
    "-Xms" ++ sizes.heap,
    "-Xmx" ++ sizes.heap ]

/-- The flags for a memory limit as one text. -/
def render (memoryLimit : Option String) (randomPassword : Bool) : String :=
  " ".intercalate (flags memoryLimit randomPassword)

end JavaFlags

end Converge
