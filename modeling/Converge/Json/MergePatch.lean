import Converge.Json.Basic

/-!
# Merge patches

A merge patch changes a value by a value of the same outline: a null takes a key away, objects are
merged key by key, and anything else, lists included, replaces what was there. A patch that is an
object makes an object also of a value that is none.
-/

namespace Converge.Json

/-- Entries without those of a key. -/
def eraseKey (key : String) (entries : List (String × Json)) : List (String × Json) :=
  entries.filter fun entry => !(entry.1 == key)

mutual

/-- A value after a patch. -/
def mergePatch (target : Json) : Json → Json
  | .obj changes =>
    let entries := match target with
      | .obj entries => entries
      | _ => []
    .obj (mergeEntries entries changes)
  | .null => .null
  | .bool value => .bool value
  | .int value => .int value
  | .float value => .float value
  | .str text => .str text
  | .arr items => .arr items

/-- The entries of an object after the changes of a patch, one after the other. -/
def mergeEntries (entries : List (String × Json)) :
    List (String × Json) → List (String × Json)
  | [] => entries
  | (key, change) :: changes =>
    let changed :=
      if change.isNull then eraseKey key entries
      else
        insertEntry key (mergePatch ((lookup? entries key).getD .null) change)
          (eraseKey key entries)
    mergeEntries changed changes

end

end Converge.Json
