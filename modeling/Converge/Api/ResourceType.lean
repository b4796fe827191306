import Converge.Text.Lowercase
import Converge.Text.Split

/-!
# Types of resources

How the interface of a cluster addresses the objects of a kind: by the group and the version in
which the kind is served, and by the plural of its name.
-/

namespace Converge

/-- How the objects of a kind are addressed. -/
structure ResourceType where
  group : String
  version : String
  apiVersion : String
  kind : String
  plural : String
  deriving DecidableEq

namespace ResourceType

/-- Group and version of the text that names both; without a slash the group is empty. -/
def splitVersion (apiVersion : String) : String × String :=
  match Text.splitFirst? '/' apiVersion.toList with
  | some (group, version) => (String.ofList group, String.ofList version)
  | none => ("", apiVersion)

/-- Plurals that are known without a rule. -/
def knownPlurals : List (String × String) :=
  [ ("ingress", "ingresses"), ("persistentvolumeclaim", "persistentvolumeclaims"),
    ("rolebinding", "rolebindings") ]

/-- The plural of a word in lower case: after a hissing sound `es`, for a `y` behind a consonant
or another vowel than `a` and `e` the ending `ies`, else `s`. -/
def regularPlural (word : List Char) : List Char :=
  let ends (ending : String) : Bool := ending.toList.isSuffixOf word
  if ends "s" || ends "ch" || ends "sh" then word ++ ['e', 's']
  else if ends "y" && !ends "ay" && !ends "ey" then word.dropLast ++ ['i', 'e', 's']
  else word ++ ['s']

/-- The plural of the name of a kind, in lower case. -/
def pluralOf (kind : String) : String :=
  let word := Text.lowercase kind.toList
  match knownPlurals.find? fun known => known.1 == String.ofList word with
  | some known => known.2
  | none => String.ofList (regularPlural word)

/-- The type of a kind that is served in a version. -/
def of (apiVersion kind : String) : ResourceType :=
  let (group, version) := splitVersion apiVersion
  ⟨group, version, apiVersion, kind, pluralOf kind⟩

end ResourceType

end Converge
