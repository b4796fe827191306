import Converge.Facet.Exposure
import Mathlib.Data.Finset.Lattice.Lemmas
import Mathlib.Data.List.Induction

/-!
# Decorators of a route

Decorators are added to a route one after the other, and each of them takes the encryption apart and
puts it together again from what it finds. What they find does not show in the end: after a step the
encryption is that of the set of all decorators so far (`Route.decorate_withTls`), so after a run it is
that of the set of the run (`Route.foldl_decorate`), in whatever order and however often they came.

A route to a service has no encryption to begin with, and what it ends with is stated outright:
`Route.foldl_decorate_toService`.
-/

namespace Converge

/-- The encryption that a route has when a set of decorators is added to it. -/
def RouteTls.decorated (before : Option RouteTls) (added : Finset RouteDecorator) :
    Option RouteTls :=
  if added = ∅ then before
  else
    some
      { termination :=
          if .edgeTls ∈ added then RouteTls.edge
          else (before.map (·.termination)).getD RouteTls.edge
        insecurePolicy :=
          if .redirect ∈ added then some RouteTls.redirect else before.bind (·.insecurePolicy) }

namespace RouteTls

variable (before : Option RouteTls) (added : Finset RouteDecorator)

/-- The policy for requests that are not encrypted is taken over from before, except by the decorator
that redirects them. -/
theorem policy_decorated :
    (decorated before added).bind (·.insecurePolicy) =
      if .redirect ∈ added then some redirect else before.bind (·.insecurePolicy) := by
  unfold decorated
  split
  · next empty => simp [empty]
  · rfl

/-- So is the place where encryption ends, except by the decorator that has it end at the router. -/
theorem termination_decorated :
    ((decorated before added).map (·.termination)).getD edge =
      if .edgeTls ∈ added then edge else (before.map (·.termination)).getD edge := by
  unfold decorated
  split
  · next empty => simp [empty]
  · rfl

end RouteTls

namespace Route

variable (route : Route)

/-- A route to which a set of decorators is added, and then one more, is the route to which the larger
set is added. -/
theorem decorate_withTls (added : Finset RouteDecorator) (decorator : RouteDecorator) :
    (route.withTls (RouteTls.decorated route.spec.tls added)).decorate decorator =
      route.withTls (RouteTls.decorated route.spec.tls (insert decorator added)) := by
  cases decorator with
  | edgeTls =>
    have policy := RouteTls.policy_decorated route.spec.tls added
    simp only [decorate, withEdgeTls, withTls, policy]
    simp [RouteTls.decorated]
  | redirect =>
    have termination := RouteTls.termination_decorated route.spec.tls added
    simp only [decorate, withRedirect, withTls, termination]
    simp [RouteTls.decorated]

/-- A route to which decorators are added one after the other is the route to which their set is
added. -/
theorem foldl_decorate (decorators : List RouteDecorator) :
    decorators.foldl decorate route =
      route.withTls (RouteTls.decorated route.spec.tls decorators.toFinset) := by
  induction decorators using List.reverseRecOn with
  | nil => rfl
  | append_singleton earlier last ih =>
    have grows : (earlier ++ [last]).toFinset = insert last earlier.toFinset := by
      rw [List.toFinset_append, Finset.union_comm]
      rfl
    rw [List.foldl_append, ih, grows]
    exact decorate_withTls route earlier.toFinset last

/-- Decorators change nothing of a route to a service but its encryption. There is none without a
decorator. Any decorator has it end at the router, and requests that are not encrypted are redirected
exactly if this was among the decorators; neither their order nor their number matters. -/
theorem foldl_decorate_toService (settings : Settings) (host : String)
    (decorators : List RouteDecorator) :
    let bare := toService settings host
    decorators.foldl decorate bare =
        { bare with
          spec :=
            { bare.spec with
              tls :=
                if decorators = [] then none
                else
                  some
                    ⟨RouteTls.edge,
                      if .redirect ∈ decorators then some RouteTls.redirect else none⟩ } } ∧
      ∀ others : List RouteDecorator, (∀ decorator, decorator ∈ others ↔ decorator ∈ decorators) →
        others.foldl decorate bare = decorators.foldl decorate bare := by
  intro bare
  refine ⟨?_, fun others same => ?_⟩
  · rw [foldl_decorate]
    unfold RouteTls.decorated
    simp only [List.toFinset_eq_empty_iff, List.mem_toFinset]
    have unencrypted : bare.spec.tls = none := rfl
    simp only [unencrypted, Option.map_none, Option.getD_none, Option.bind_none, ite_self]
    rfl
  · have sets : others.toFinset = decorators.toFinset := by
      ext decorator
      simpa using same decorator
    rw [foldl_decorate, foldl_decorate, sets]

/-- Redirecting before and behind is the same as redirecting once behind. -/
theorem redirected_around_edge :
    let bare := toService (.normalize "nexus3" "tools" .blank ⟨true, false, true⟩) "nexus.example.com"
    [RouteDecorator.redirect, .edgeTls, .redirect].foldl decorate bare =
      [RouteDecorator.edgeTls, .redirect].foldl decorate bare := by
  refine (foldl_decorate_toService _ _ [.edgeTls, .redirect]).2 _ fun decorator => ?_
  cases decorator <;> decide

end Route

end Converge
