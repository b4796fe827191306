import Converge.Yaml.Layout
import Converge.Yaml.Node

/-!
# Documents

`Node.ofText?` reads the node of a text that is one document. The tokens are read from the first
to the last; each reader takes those that belong to it. The number of an anchor is the number of
names that anchors have had before it; a name that is given again takes the number of all names
so far.
-/

namespace Converge.Yaml

/-- The tokens to come, what the handles of tags stand for, and the numbers of anchors. -/
structure Pending where
  tokens : List Token
  handles : List (String × String)
  anchors : List (String × Nat)

/-- A reader of tokens. -/
abbrev Reading := StateT Pending Option

namespace Reading

/-- The next token. -/
def peek : Reading (Option Token) := do return (← get).tokens.head?

/-- Passes the next token. -/
def advance : Reading Unit := modify fun pending => { pending with tokens := pending.tokens.drop 1 }

/-- Passes the next token if it is a certain one, and tells whether it was. -/
def take (token : Token) : Reading Bool := do
  if (← peek) = some token then
    advance
    return true
  else return false

/-- Passes the next token, which must be a certain one. -/
def expect (token : Token) : Reading Unit := do
  if ← take token then return () else failure

/-- The number of a new anchor. -/
def enter (name : String) : Reading Nat := do
  let pending ← get
  let number := pending.anchors.length
  let others := pending.anchors.filter fun anchor => anchor.1 != name
  set { pending with anchors := (name, number) :: others }
  return number

/-- The number that a name has. -/
def numberOf (name : String) : Reading Nat := do
  match (← get).anchors.lookup name with
  | some number => return number
  | none => failure

/-- A tag in full. -/
def fullTag (handle suffix : String) : Reading String := do
  if handle.isEmpty then return suffix
  else match (← get).handles.lookup handle with
    | some meaning => return meaning ++ suffix
    | none => failure

/-- The number of a node, if it is anchored here. -/
def anchor? : Reading (Option Nat) := do
  match ← peek with
  | some (.anchor name) =>
    advance
    return some (← enter name)
  | _ => return none

/-- The tag of a node, if one is given here. -/
def tag? : Reading (Option String) := do
  match ← peek with
  | some (.tag handle suffix) =>
    advance
    return some (← fullTag handle suffix)
  | _ => return none

/-- The properties of a node, in either order. -/
def properties : Reading Properties := do
  let early ← anchor?
  let tag ← tag?
  let late ← if early.isNone && tag.isSome then anchor? else pure none
  return ⟨early.or late, tag⟩

/-- Where a node stands: in block style, there also as a key or a value, to which a sequence may
belong without indentation, or between brackets. -/
inductive Position where
  | block
  | entry
  | flow
  deriving DecidableEq, Repr

/-- A node, or nothing if a token comes before which there may be nothing. -/
def orEmpty (ends : List Token) (node : Reading Node) : Reading Node := do
  if (← peek).any ends.contains then return .empty else node

/-- The tokens that end an entry of a mapping in block style. -/
def entryEnds : List Token := [.key, .value, .blockEnd]

mutual

/-- A node; `fuel` bounds the number of tokens. -/
def node : (fuel : Nat) → Position → Reading Node
  | 0, _ => failure
  | fuel + 1, position => do
    if let some (.reference name) := ← peek then
      advance
      return .reference (← numberOf name)
    let properties ← properties
    match ← peek, position with
    | some .blockEntry, .entry => return .sequence properties (← looseItems fuel)
    | some (.scalar style text), _ =>
      advance
      return .scalar properties style text
    | some .flowSequence, _ =>
      advance
      return .sequence properties (← flowItems fuel true)
    | some .flowMapping, _ =>
      advance
      return .mapping properties (← flowEntries fuel true)
    | some .blockSequence, .block | some .blockSequence, .entry =>
      advance
      return .sequence properties (← blockItems fuel)
    | some .blockMapping, .block | some .blockMapping, .entry =>
      advance
      return .mapping properties (← blockEntries fuel)
    | _, _ =>
      if properties = Properties.none then failure else return .scalar properties .plain ""

/-- The items of a sequence in block style, up to its end. -/
def blockItems : (fuel : Nat) → Reading (List Node)
  | 0 => failure
  | fuel + 1 => do
    if ← take .blockEnd then return []
    expect .blockEntry
    let item ← orEmpty [.blockEntry, .blockEnd] (node fuel .block)
    return item :: (← blockItems fuel)

/-- The items of a sequence without indentation. -/
def looseItems : (fuel : Nat) → Reading (List Node)
  | 0 => failure
  | fuel + 1 => do
    if ← take .blockEntry then
      let item ← orEmpty (.blockEntry :: entryEnds) (node fuel .block)
      return item :: (← looseItems fuel)
    else return []

/-- The entries of a mapping in block style, up to its end. -/
def blockEntries : (fuel : Nat) → Reading (List (Node × Node))
  | 0 => failure
  | fuel + 1 => do
    if ← take .blockEnd then return []
    expect .key
    let key ← orEmpty entryEnds (node fuel .entry)
    let value ←
      if ← take .value then orEmpty entryEnds (node fuel .entry) else pure .empty
    return (key, value) :: (← blockEntries fuel)

/-- The items of a sequence between brackets, up to its end. An item may be a single entry of a
mapping. -/
def flowItems : (fuel : Nat) → (isFirst : Bool) → Reading (List Node)
  | 0, _ => failure
  | fuel + 1, isFirst => do
    if ← take .flowSequenceEnd then return []
    if !isFirst then expect .flowEntry
    if ← take .flowSequenceEnd then return []
    let item ←
      if ← take .key then (fun pair => .mapping .none [pair]) <$> flowPair fuel
      else node fuel .flow
    return item :: (← flowItems fuel false)

/-- An entry that is an item of a sequence between brackets. If it has no key, then the token in
its place belongs to it. -/
def flowPair : (fuel : Nat) → Reading (Node × Node)
  | 0 => failure
  | fuel + 1 => do
    let ends : List Token := [.value, .flowEntry, .flowSequenceEnd]
    let key ←
      if (← peek).any ends.contains then (fun _ => .empty) <$> advance
      else node fuel .flow
    let value ←
      if ← take .value then orEmpty [.flowEntry, .flowSequenceEnd] (node fuel .flow)
      else pure .empty
    return (key, value)

/-- The entries of a mapping between brackets, up to its end. -/
def flowEntries : (fuel : Nat) → (isFirst : Bool) → Reading (List (Node × Node))
  | 0, _ => failure
  | fuel + 1, isFirst => do
    if ← take .flowMappingEnd then return []
    if !isFirst then expect .flowEntry
    if ← take .flowMappingEnd then return []
    if ← take .key then
      let key ← orEmpty [.value, .flowEntry, .flowMappingEnd] (node fuel .flow)
      let value ←
        if ← take .value then orEmpty [.flowEntry, .flowMappingEnd] (node fuel .flow)
        else pure .empty
      return (key, value) :: (← flowEntries fuel false)
    else
      let key ← node fuel .flow
      return (key, .empty) :: (← flowEntries fuel false)

end

end Reading

/-- What the directives of a document say: whether there is a version, and what handles of tags
stand for. -/
structure Directives where
  hasVersion : Bool
  handles : List (String × String)

namespace Directives

/-- What handles of tags stand for in every document. -/
def commonHandles : List (String × String) := [("!", "!"), ("!!", "tag:yaml.org,2002:")]

/-- The directives at the start of some tokens, and the tokens behind them. There is at most one
version, which must be known, and a handle is given a meaning at most once. -/
def read (directives : Directives) : List Token → Option (Directives × List Token)
  | .versionDirective major minor :: rest =>
    if directives.hasVersion || major != 1 || !(minor == 1 || minor == 2) then none
    else read { directives with hasVersion := true } rest
  | .tagDirective handle meaning :: rest =>
    if (directives.handles.lookup handle).isSome then none
    else read { directives with handles := directives.handles ++ [(handle, meaning)] } rest
  | tokens => some (directives, tokens)

end Directives

namespace Node

/-- Whether a document without content may end before a token. -/
def isDocumentEnd : Token → Bool
  | .versionDirective _ _ | .tagDirective _ _ | .documentStart | .documentEnd => true
  | _ => false

/-- Whether nothing but ends of a document is left. -/
def isFinished (tokens : List Token) : Bool := tokens.all (· == .documentEnd)

/-- The node of a document, behind its start. -/
def ofContent? (directives : Directives) (tokens : List Token) : Option Node := do
  let handles := directives.handles ++ Directives.commonHandles
  let fuel := 2 * tokens.length + 2
  let (node, left) ← (Reading.node fuel .block).run ⟨tokens, handles, []⟩
  if isFinished left.tokens then return node else none

/-- The node of some tokens that are one document. -/
def ofTokens? (tokens : List Token) : Option Node := do
  let (directives, rest) ← Directives.read ⟨false, []⟩ tokens
  match rest with
  | .documentStart :: content =>
    if content.head?.all isDocumentEnd then
      if isFinished content then return .empty else none
    else ofContent? directives content
  | _ => if rest.length < tokens.length then none else ofContent? directives tokens

/-- The node of a text that is one document. -/
def ofText? (text : String) : Option Node := Token.ofText? text >>= ofTokens?

end Node

end Converge.Yaml
