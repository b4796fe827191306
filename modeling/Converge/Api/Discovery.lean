import Converge.Api.Client
import Converge.Plan.Basic

/-!
# Discovery

What a cluster serves is found out by asking for its groups, and for the resources of each version
of the groups that capabilities are read off. Resources that belong to another resource, whose
names have a slash, do not count.
-/

namespace Converge.Discovery

/-- A version of a group. -/
structure GroupVersion where
  groupVersion : String
  version : String

/-- The JSON form of a version of a group. -/
def GroupVersion.codec : Codec GroupVersion :=
  .lenientRecord "GroupVersionForDiscovery"
    (.field (.orElse "groupVersion" .text "") <| .field (.orElse "version" .text "") .done)
    (fun (both, version, ()) => ⟨both, version⟩) (fun ⟨both, version⟩ => (both, version, ()))

/-- An address range of clients with the address of the server for them. -/
def serverAddressCodec : Codec (String × String) :=
  .lenientRecord "ServerAddressByClientCIDR"
    (.field (.orElse "clientCIDR" .text "") <| .field (.orElse "serverAddress" .text "") .done)
    (fun (client, server, ()) => (client, server)) (fun (client, server) => (client, server, ()))

/-- A group with its versions. -/
structure Group where
  name : String
  versions : List GroupVersion

/-- A field that may only have one value, if it is there. -/
def fixed (key value : String) : Field Unit := ⟨key, .constant value, some (), fun _ => false⟩

/-- The JSON form of a group. -/
def Group.codec : Codec Group :=
  .lenientRecord "APIGroup"
    (.field (fixed "apiVersion" "v1") <|
      .field (fixed "kind" "APIGroup") <|
      .field (.orElse "name" .text "") <|
      .field (.optional "preferredVersion" GroupVersion.codec) <|
      .field (.optional "serverAddressByClientCIDRs" serverAddressCodec.list) <|
      .field (.orElse "versions" GroupVersion.codec.list []) .done)
    (fun (_, _, name, _, _, versions, ()) => ⟨name, versions⟩)
    (fun ⟨name, versions⟩ => ((), (), name, none, none, versions, ()))

/-- The JSON form of a list of groups. -/
def groupsCodec : Codec (List Group) :=
  .lenientRecord "APIGroupList"
    (.field (fixed "apiVersion" "v1") <|
      .field (fixed "kind" "APIGroupList") <|
      .field (.orElse "groups" Group.codec.list []) .done)
    (fun (_, _, groups, ()) => groups) (fun groups => ((), (), groups, ()))

/-- A resource that is served. -/
structure Served where
  name : String
  kind : String

/-- The JSON form of a resource that is served. -/
def Served.codec : Codec Served :=
  .lenientRecord "APIResource"
    (.field (.optional "categories" (.list .text)) <|
      .field (.optional "group" .text) <|
      .field (.orElse "kind" .text "") <|
      .field (.orElse "name" .text "") <|
      .field (.orElse "namespaced" .bool false) <|
      .field (.optional "shortNames" (.list .text)) <|
      .field (.orElse "singularName" .text "") <|
      .field (.optional "storageVersionHash" .text) <|
      .field (.orElse "verbs" (.list .text) []) <|
      .field (.optional "version" .text) .done)
    (fun (_, _, kind, name, _) => ⟨name, kind⟩)
    (fun ⟨name, kind⟩ => (none, none, kind, name, false, none, "", none, [], none, ()))

/-- The JSON form of a list of resources. -/
def resourcesCodec : Codec (List Served) :=
  .lenientRecord "APIResourceList"
    (.field (fixed "apiVersion" "v1") <|
      .field (.orElse "groupVersion" .text "") <|
      .field (fixed "kind" "APIResourceList") <|
      .field (.orElse "resources" Served.codec.list []) .done)
    (fun (_, _, _, resources, ()) => resources) (fun resources => ((), "", (), resources, ()))

/-- Asks for a list at an address. -/
def ask {α : Type} (transport : Transport) (codec : Codec α) (address : String) : Exchange α :=
  match Address.sent? address with
  | none => .of (.error .invalidListAddress)
  | some address => .ask address ((transport address).decode codec)

/-- The kinds of some versions of a group. -/
def kindsOfVersions (transport : Transport) : List GroupVersion → Exchange (List String)
  | [] => pure []
  | version :: versions => do
    let resources ← ask transport resourcesCodec s!"/apis/{version.groupVersion}"
    let more ← kindsOfVersions transport versions
    let whole := resources.filter fun resource => !resource.name.toList.contains '/'
    return whole.map (·.kind) ++ more

/-- The kinds of the groups that capabilities are read off. -/
def kindsOfGroups (transport : Transport) : List Group → Exchange (List (String × List String))
  | [] => pure []
  | group :: groups =>
    if !Capabilities.groups.contains group.name then kindsOfGroups transport groups
    else do
      if group.versions.isEmpty then Trace.of (.error (.emptyGroup group.name))
      let kinds ← kindsOfVersions transport group.versions
      let more ← kindsOfGroups transport groups
      return (group.name, kinds) :: more

/-- The groups and kinds that count: of a group that is listed twice, what was said last. -/
def served (groups : List (String × List String)) : List (String × String) :=
  let last := groups.reverse
  let counting := Capabilities.groups.filterMap fun name => last.find? fun group => group.1 == name
  counting.flatMap fun group => group.2.map fun kind => (group.1, kind)

/-- Finds out what a cluster offers. -/
def capabilities (transport : Transport) : Exchange Capabilities := do
  let groups ← ask transport groupsCodec "/apis"
  let kinds ← kindsOfGroups transport groups
  return .ofServed (served kinds)

/-- What a cluster offers, or the failure of a pass that asks for it. -/
def probe (transport : Transport) : Except Failure Capabilities :=
  (capabilities transport).result.mapError fun error =>
    .internal s!"API discovery failed: {error.message}" "capability discovery"

/-- The addresses that a pass over an instance asks for. -/
def requests (transport : Transport) (pass : Pass Plan) : List String :=
  pass.events.flatMap fun
    | .probe => (capabilities transport).events
    | .read key => (Client.get transport key).events

end Converge.Discovery
