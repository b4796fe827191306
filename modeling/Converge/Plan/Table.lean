import Converge.Plan.Verdict
import Converge.Text.Split

/-!
# Tables of verdicts

One line for each verdict under a head line: the action, the kind and the name, the columns of
action and kind filled up to their width.
-/

namespace Converge.Verdict

/-- The width of the column of kinds. -/
def kindWidth (verdicts : List Verdict) : Nat :=
  (verdicts.map fun verdict => verdict.kind.name.length).foldl max "KIND".length

/-- One line of a table. -/
def row (width : Nat) (action kind name : String) : String :=
  Text.padRight 8 action ++ " " ++ Text.padRight width kind ++ " " ++ name ++ "\n"

/-- The table of verdicts. -/
def table (verdicts : List Verdict) : String :=
  let width := kindWidth verdicts
  let rows := verdicts.map fun verdict =>
    row width verdict.action.word verdict.kind.name verdict.name
  row width "ACTION" "KIND" "NAME" ++ String.join rows

end Converge.Verdict
