import Converge.Api.Discovery
import Mathlib.Data.List.Nodup

/-!
# Capabilities are told by what is served

The groups and kinds that a cluster serves are looked at one after the other. Each of them shows at
most one capability (`Capability.ShownBy.iff_eq`), so it does not matter which is tested for first,
and what was shown once stays (`Capabilities.offers_withServed_iff`). In the end a cluster offers
what any group and kind shows. `Capabilities.offers_ofServed_iff` says so by membership alone, and
the laws in `Capabilities.ofServed_told_by_set` are read off it: neither order nor number matters.

Discovery passes on the groups that count in an order of its own. No other group shows anything, so
what it finds is what all groups show, in whatever order they are listed:
`Discovery.ofServed_served`.
-/

namespace Converge

/-- Something that a cluster may offer beyond the core. -/
inductive Capability where
  | routes
  | ingress
  | openshift
  deriving DecidableEq

namespace Capability

/-- The group that a capability is read off. -/
def group : Capability → String
  | routes => Capabilities.routeGroup
  | ingress => Capabilities.ingressGroup
  | openshift => Capabilities.platformGroup

/-- The kind of the group that has to be served, if not any kind will do. -/
def kind? : Capability → Option String
  | routes => some "Route"
  | ingress => some "Ingress"
  | openshift => none

/-- A group and a kind show a capability if they are those that it is read off. -/
def ShownBy (capability : Capability) (served : String × String) : Prop :=
  served.1 = capability.group ∧ ∀ kind ∈ capability.kind?, served.2 = kind

variable {served : String × String}

theorem group_mem (capability : Capability) : capability.group ∈ Capabilities.groups := by
  cases capability <;> decide

theorem group_inj {capability other : Capability} (same : capability.group = other.group) :
    capability = other := by
  revert same
  cases capability <;> cases other <;> decide

/-- A group and a kind that show one capability show no other. -/
theorem ShownBy.iff_eq {capability other : Capability} (shown : capability.ShownBy served) :
    other.ShownBy served ↔ other = capability := by
  constructor
  · intro also
    exact group_inj (also.1.symm.trans shown.1)
  · rintro rfl
    exact shown

theorem shownBy_routes_iff :
    routes.ShownBy served ↔ served = (Capabilities.routeGroup, "Route") := by
  simp [ShownBy, group, kind?, Prod.ext_iff]

theorem shownBy_ingress_iff :
    ingress.ShownBy served ↔ served = (Capabilities.ingressGroup, "Ingress") := by
  simp [ShownBy, group, kind?, Prod.ext_iff]

theorem shownBy_openshift_iff :
    openshift.ShownBy served ↔ served.1 = Capabilities.platformGroup := by
  simp [ShownBy, group, kind?]

end Capability

namespace Capabilities

/-- Whether a capability is among those of a cluster. -/
def offers (capabilities : Capabilities) : Capability → Bool
  | .routes => capabilities.routes
  | .ingress => capabilities.ingress
  | .openshift => capabilities.openshift

/-- What at least one of two clusters offers. -/
def union (capabilities other : Capabilities) : Capabilities :=
  ⟨capabilities.routes || other.routes, capabilities.ingress || other.ingress,
    capabilities.openshift || other.openshift⟩

variable {capabilities other : Capabilities} {capability : Capability}

/-- Clusters that offer the same have the same capabilities. -/
theorem eq_of_offers_iff
    (same : ∀ capability, capabilities.offers capability ↔ other.offers capability) :
    capabilities = other := by
  have routes := Bool.eq_iff_iff.2 (same .routes)
  have ingress := Bool.eq_iff_iff.2 (same .ingress)
  have openshift := Bool.eq_iff_iff.2 (same .openshift)
  cases capabilities
  cases other
  cases routes
  cases ingress
  cases openshift
  rfl

theorem offers_union_iff :
    (capabilities.union other).offers capability ↔
      capabilities.offers capability ∨ other.offers capability := by
  cases capability <;> exact Bool.or_eq_true_iff

theorem offers_none : none.offers capability = false := by
  cases capability <;> rfl

/-- One more group and kind adds what it shows, and takes nothing away. -/
theorem offers_withServed_iff {served : String × String} :
    (capabilities.withServed served).offers capability ↔
      capabilities.offers capability ∨ capability.ShownBy served := by
  unfold withServed
  split_ifs with routes ingress openshift
  · have shown := Capability.shownBy_routes_iff.2 routes
    cases capability <;> simp [offers, shown.iff_eq]
  · have shown := Capability.shownBy_ingress_iff.2 ingress
    cases capability <;> simp [offers, shown.iff_eq]
  · have shown := Capability.shownBy_openshift_iff.2 openshift
    cases capability <;> simp [offers, shown.iff_eq]
  · cases capability <;>
      simp [Capability.shownBy_routes_iff, Capability.shownBy_ingress_iff,
        Capability.shownBy_openshift_iff, routes, ingress, openshift]

/-- So do several groups and kinds, one after the other. -/
theorem offers_foldl_withServed_iff (served : List (String × String)) :
    (served.foldl withServed capabilities).offers capability ↔
      capabilities.offers capability ∨ ∃ pair ∈ served, capability.ShownBy pair := by
  induction served generalizing capabilities with
  | nil => simp
  | cons pair rest ih =>
    rw [List.foldl_cons, ih, offers_withServed_iff, or_assoc, List.exists_mem_cons_iff]

/-- A cluster offers what is shown by a group and a kind that it serves, and nothing else. -/
theorem offers_ofServed_iff (served : List (String × String)) (capability : Capability) :
    (ofServed served).offers capability ↔ ∃ pair ∈ served, capability.ShownBy pair := by
  rw [ofServed, offers_foldl_withServed_iff, offers_none, Bool.false_eq_true, false_or]

/-- What a cluster offers is told by the set of groups and kinds that it serves. Two parts of them
together offer what either part offers. The same in another order or number offers the same, and
more offers no less. Routes and ingresses are told by their group and kind, the platform by its
group alone. -/
theorem ofServed_told_by_set (served others : List (String × String)) :
    ofServed (served ++ others) = (ofServed served).union (ofServed others) ∧
      ((∀ pair, pair ∈ served ↔ pair ∈ others) → ofServed served = ofServed others) ∧
      (served ⊆ others → ∀ capability, (ofServed served).offers capability →
        (ofServed others).offers capability) ∧
      ((ofServed served).routes ↔ ("route.openshift.io", "Route") ∈ served) ∧
      ((ofServed served).ingress ↔ ("networking.k8s.io", "Ingress") ∈ served) ∧
      ((ofServed served).openshift ↔ ∃ pair ∈ served, pair.1 = "config.openshift.io") := by
  refine ⟨?_, fun same => ?_, fun part capability => ?_, ?_, ?_, ?_⟩
  · refine eq_of_offers_iff fun capability => ?_
    rw [offers_union_iff]
    simp only [offers_ofServed_iff, List.mem_append, or_and_right, exists_or]
  · refine eq_of_offers_iff fun capability => ?_
    simp only [offers_ofServed_iff, same]
  · simp only [offers_ofServed_iff]
    rintro ⟨pair, inside, shown⟩
    exact ⟨pair, part inside, shown⟩
  · simpa only [offers, routeGroup, Capability.shownBy_routes_iff, exists_eq_right] using
      offers_ofServed_iff served .routes
  · simpa only [offers, ingressGroup, Capability.shownBy_ingress_iff, exists_eq_right] using
      offers_ofServed_iff served .ingress
  · simpa only [offers, platformGroup, Capability.shownBy_openshift_iff] using
      offers_ofServed_iff served .openshift

/-- A cluster that lists its routes twice, and behind the platform, offers what it would offer if it
listed them once and in front. It still offers routes when another group has a kind of this name. -/
theorem ofServed_of_repeated_route :
    let served := [("route.openshift.io", "Route"), ("config.openshift.io", "ClusterVersion")]
    let listed := ("config.openshift.io", "ClusterVersion") ::
      [("route.openshift.io", "Route"), ("route.openshift.io", "Route")]
    ofServed listed = ofServed served ∧
      (ofServed (("example.com", "Route") :: listed)).offers .routes := by
  intro served listed
  refine ⟨(ofServed_told_by_set listed served).2.1 fun pair => ?_,
    (ofServed_told_by_set listed _).2.2.1 (List.subset_cons_self _ _) .routes rfl⟩
  simp only [served, listed, List.mem_cons, List.not_mem_nil, or_false, or_self]
  exact or_comm

end Capabilities

namespace Discovery

variable {groups : List (String × List String)}

/-- Of groups that are listed once, the last one of a name is the one of the name. -/
private theorem find?_reverse_eq_some_iff (once : (groups.map (·.1)).Nodup) {name : String}
    {group : String × List String} :
    (groups.reverse.find? fun group => group.1 == name) = some group ↔
      group ∈ groups ∧ group.1 = name := by
  constructor
  · intro found
    have inside := List.mem_reverse.1 (List.mem_of_find?_eq_some found)
    exact ⟨inside, by simpa using List.find?_some found⟩
  · rintro ⟨inside, rfl⟩
    have present : (groups.reverse.find? fun other => other.1 == group.1).isSome :=
      List.find?_isSome.2 ⟨group, List.mem_reverse.2 inside, beq_self_eq_true _⟩
    obtain ⟨other, found⟩ := Option.isSome_iff_exists.1 present
    have other_inside := List.mem_reverse.1 (List.mem_of_find?_eq_some found)
    have same_name : other.1 = group.1 := by simpa using List.find?_some found
    rw [found, List.inj_on_of_nodup_map once other_inside inside same_name]

/-- Of groups that are listed once, those count that capabilities are read off, with all their
kinds. -/
theorem mem_served_iff (once : (groups.map (·.1)).Nodup) {pair : String × String} :
    pair ∈ served groups ↔
      pair.1 ∈ Capabilities.groups ∧ ∃ group ∈ groups, group.1 = pair.1 ∧ pair.2 ∈ group.2 := by
  simp only [served, List.mem_flatMap, List.mem_filterMap, find?_reverse_eq_some_iff once,
    List.mem_map]
  constructor
  · rintro ⟨group, ⟨name, asked, inside, rfl⟩, kind, among, rfl⟩
    exact ⟨asked, group, inside, rfl, among⟩
  · rintro ⟨asked, group, inside, named, among⟩
    exact ⟨group, ⟨pair.1, asked, inside, named⟩, pair.2, among, Prod.ext named rfl⟩

/-- The groups that count show all that any groups show that are listed once, in whatever order they
are listed. -/
theorem ofServed_served (once : (groups.map (·.1)).Nodup) :
    Capabilities.ofServed (served groups) =
      .ofServed (groups.flatMap fun group => group.2.map fun kind => (group.1, kind)) := by
  refine Capabilities.eq_of_offers_iff fun capability => ?_
  rw [Capabilities.offers_ofServed_iff, Capabilities.offers_ofServed_iff]
  constructor
  · rintro ⟨pair, counts, shown⟩
    obtain ⟨-, group, inside, named, among⟩ := (mem_served_iff once).1 counts
    have listed : pair ∈ group.2.map fun kind => (group.1, kind) :=
      List.mem_map.2 ⟨pair.2, among, Prod.ext named rfl⟩
    exact ⟨pair, List.mem_flatMap.2 ⟨group, inside, listed⟩, shown⟩
  · rintro ⟨pair, listed, shown⟩
    obtain ⟨group, inside, listed⟩ := List.mem_flatMap.1 listed
    obtain ⟨kind, among, rfl⟩ := List.mem_map.1 listed
    have asked : group.1 ∈ Capabilities.groups := shown.1 ▸ capability.group_mem
    exact ⟨_, (mem_served_iff once).2 ⟨asked, group, inside, rfl, among⟩, shown⟩

end Discovery

end Converge
