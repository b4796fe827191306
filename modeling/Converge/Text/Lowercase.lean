import Converge.Text.CaseTable

/-!
# Lower case

The full lower case mapping of Unicode: the simple mapping character by character, the one
character whose lower case is two (a capital I with a dot), and the capital sigma, which is final
when a cased letter stands before it and none after it, case-ignorable characters between not
counting.
-/

namespace Converge.Text

/-- The simple lower case of a character. -/
def lowerChar (c : Char) : Char :=
  let code := c.toNat
  if code < 0x80 then c.toLower
  else
    match lowerRuns.find? fun (first, last, step, _) =>
        first ≤ code && code ≤ last && (code - first) % step == 0 with
    | some (_, _, _, distance) => Char.ofNat (Int.ofNat code + distance).toNat
    | none => c

/-- Whether a cased letter comes first, case-ignorable characters set aside. -/
def startsCased (text : List Char) : Bool :=
  match text.dropWhile caseIgnorableRanges.contains with
  | [] => false
  | c :: _ => casedRanges.contains c

/-- The lower case of a text that stands after the characters `before`, nearest first. -/
def lowercaseAfter (before : List Char) : List Char → List Char
  | [] => []
  | c :: rest =>
    let lowered :=
      if c = 'Σ' then
        if startsCased before && !startsCased rest then ['ς'] else ['σ']
      else if c = 'İ' then ['i', '\u0307']
      else [lowerChar c]
    lowered ++ lowercaseAfter (c :: before) rest

/-- A text in lower case. -/
def lowercase (text : List Char) : List Char := lowercaseAfter [] text

end Converge.Text
