import Converge.Api.ResourceType

/-!
# Addresses of requests

The address of an object is made of the group and version of its kind, its namespace, the plural
of the kind, and its name, without any escaping. An address is sent only if all its characters may
stand in an address; what follows a number sign is cut off before it is sent.
-/

namespace Converge.Address

/-- The path under which the objects of a type are served in a namespace. -/
def collection (type : ResourceType) (space : String) : String :=
  let root := if type.group.isEmpty then "api" else "apis"
  s!"/{root}/{type.apiVersion}/namespaces/{space}/{type.plural}"

/-- The path of one object. -/
def object (type : ResourceType) (space name : String) : String :=
  s!"{collection type space}/{name}"

/-- Whether a character may stand in the path of an address. -/
def isPathChar (c : Char) : Bool :=
  let code := c.toNat
  code == 0x21 || code == 0x22 || (0x24 ≤ code && code ≤ 0x3B) || code == 0x3D ||
    (0x40 ≤ code && code ≤ 0x5F) || (0x61 ≤ code && code ≤ 0x7E) || 0x7F ≤ code

/-- Whether a character may stand in the query of an address. -/
def isQueryChar (c : Char) : Bool :=
  let code := c.toNat
  code == 0x21 || (0x24 ≤ code && code ≤ 0x3B) || code == 0x3D ||
    (0x3F ≤ code && code ≤ 0x7E) || 0x7F ≤ code

/-- An address as it is sent, if it may be sent. -/
def sent? (address : String) : Option String :=
  let text := address.toList.takeWhile (· ≠ '#')
  let path := text.takeWhile (· ≠ '?')
  let query := (text.dropWhile (· ≠ '?')).drop 1
  if path.all isPathChar && query.all isQueryChar then some (String.ofList text) else none

end Converge.Address
