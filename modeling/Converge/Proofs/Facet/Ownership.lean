import Converge.Facet.Basic

/-!
# Every kind has one owner

Facets are refused when two of them own a kind. The check goes through their kinds and remembers the
owners so far, but what it decides can be told from the kinds alone
(`Facet.checkOwnership_eq_ok_iff`). The four facets of an instance own six different kinds, so no
pass ends with this check (`Facet.checkOwnership_all`).
-/

namespace Converge.Facet

/-- A kind has no owner yet if it is not the one that was settled last and had none before. -/
theorem lookup_cons_eq_none_iff {owners : List (Kind × Facet)} {kind other : Kind} {facet : Facet} :
    ((kind, facet) :: owners).lookup other = none ↔ other ≠ kind ∧ owners.lookup other = none := by
  simp only [List.lookup_eq_none_iff, List.forall_mem_cons, bne_iff_ne]

/-- Kinds are settled when none of them has an owner yet and none occurs twice. -/
theorem settleOwners_eq_ok_iff {owners claims : List (Kind × Facet)} :
    settleOwners owners claims = .ok () ↔
      (∀ kind ∈ claims.map (·.1), owners.lookup kind = none) ∧ (claims.map (·.1)).Nodup := by
  induction claims generalizing owners with
  | nil => simp [settleOwners]
  | cons claim rest ih =>
    obtain ⟨kind, facet⟩ := claim
    rw [settleOwners, List.map_cons, List.forall_mem_cons, List.nodup_cons]
    cases held : owners.lookup kind with
    | some previous => simp
    | none =>
      -- From now on the kind has an owner, so it must not occur in the rest.
      have later : (∀ other ∈ rest.map (·.1), ((kind, facet) :: owners).lookup other = none) ↔
          kind ∉ rest.map (·.1) ∧ ∀ other ∈ rest.map (·.1), owners.lookup other = none := by
        simp only [lookup_cons_eq_none_iff, forall_and, List.forall_mem_ne']
      simp only [ih, later, true_and]
      exact and_assoc.trans and_left_comm

theorem map_fst_ownerships (facets : List Facet) :
    (ownerships facets).map (·.1) = facets.flatMap kinds := by
  simp [ownerships, List.map_flatMap, Function.comp_def]

/-- Facets are accepted exactly when no kind occurs twice among those that they own. -/
theorem checkOwnership_eq_ok_iff {facets : List Facet} :
    checkOwnership facets = .ok () ↔ (facets.flatMap kinds).Nodup := by
  rw [checkOwnership, settleOwners_eq_ok_iff, map_fst_ownerships]
  exact and_iff_right fun _ _ => rfl

example : checkOwnership [storage, compute, compute] =
    .error (.internal "Deployment is owned by both the compute and compute managers" "supervisor") :=
  rfl

/-- The facets of an instance are accepted. -/
theorem checkOwnership_all : checkOwnership all = .ok () :=
  checkOwnership_eq_ok_iff.2 (by decide)

end Converge.Facet
