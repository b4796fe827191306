import Converge.Proofs.Instance.Validation
import Converge.Proofs.Number.AmountGrammar

/-!
# The rules of a specification

A specification obeys eight rules, each about one of its fields, and a rule about a field that is not
given is obeyed. The checks are not the rules: an absent part brings no check, so there are as many
checks as there are fields to look at. They stand in the order of the rules (`InstanceSpec.Follows`), and a
step from one list to the other keeps that the first check that fails is the check of the first rule
that is broken. So validation accepts what obeys all rules, and reports the first rule that is broken:
`InstanceSpec.validate_tells_first_broken`.
-/

namespace Converge.InstanceSpec

/-- A side of the resources. -/
inductive Side where
  | requests
  | limits
  deriving DecidableEq

namespace Side

/-- The name of a side in the path of a field. -/
def name : Side → String
  | requests => "requests"
  | limits => "limits"

/-- The amounts on a side. -/
def amounts? (needs : ResourceNeeds) : Side → Option ResourceAmounts
  | requests => needs.requests
  | limits => needs.limits

end Side

/-- A rule of a specification. -/
inductive Rule where
  | replicas
  | user
  | password
  | cores (side : Side)
  | memory (side : Side)
  | volumeSize
  deriving DecidableEq

namespace Rule

/-- The rules in their order. -/
def all : List Rule :=
  [replicas, user, password, cores .requests, memory .requests, cores .limits, memory .limits,
    volumeSize]

theorem mem_all (rule : Rule) : rule ∈ all := by
  cases rule with
  | cores side | memory side => cases side <;> decide
  | replicas | user | password | volumeSize => decide

/-- The path of the field that a rule is about. -/
def path : Rule → String
  | replicas => "spec.replicas"
  | user => "spec.credentials.user"
  | password => "spec.credentials.password"
  | cores side => s!"spec.resources.{side.name}.cpu"
  | memory side => s!"spec.resources.{side.name}.memory"
  | volumeSize => "spec.persistence.volumeSize"

/-- What a rule asks of a specification. -/
def Holds (spec : InstanceSpec) : Rule → Prop
  | replicas => 1 ≤ spec.replicas.toNat ∧ spec.replicas.toNat ≤ 100
  | user => ∀ credentials ∈ spec.credentials, credentials.user ≠ ""
  | password => ∀ credentials ∈ spec.credentials, 5 ≤ credentials.password.length
  | cores side =>
    ∀ needs ∈ spec.resources, ∀ amounts ∈ side.amounts? needs, ∀ cpu ∈ amounts.cpu,
      Quantity.SpellsCores cpu.toList
  | memory side =>
    ∀ needs ∈ spec.resources, ∀ amounts ∈ side.amounts? needs, ∀ memory ∈ amounts.memory,
      Quantity.SpellsBytes memory
  | volumeSize =>
    ∀ persistence ∈ spec.persistence, ∀ size ∈ persistence.volumeSize, size ≠ "" →
      Quantity.SpellsBytes size

/-- A rule is broken, and none before it is. -/
structure IsFirstBroken (spec : InstanceSpec) (rule : Rule) : Prop where
  broken : ¬ rule.Holds spec
  earlier : ∃ before after, all = before ++ rule :: after ∧ ∀ other ∈ before, other.Holds spec

end Rule

/-- Checks stand in the order of rules: a rule has its check, or it has none and is obeyed. -/
inductive Follows (spec : InstanceSpec) : List Rule → List Check → Prop where
  | nil : Follows spec [] []
  | skipped {rule rules checks} (holds : rule.Holds spec) (rest : Follows spec rules checks) :
      Follows spec (rule :: rules) checks
  | checked {rule rules check checks} (field : check.field = rule.path)
      (passes : check.result = .ok () ↔ rule.Holds spec) (rest : Follows spec rules checks) :
      Follows spec (rule :: rules) (check :: checks)

/-- What is said of a specification by rules in their order: it is accepted if it obeys all of them, and
else refused for the field of the first one that is broken. -/
inductive Judges (spec : InstanceSpec) (owner : String) : List Rule → Except Failure Unit → Prop where
  | accepted {rules} (obeyed : ∀ rule ∈ rules, rule.Holds spec) : Judges spec owner rules (.ok ())
  | refused (before : List Rule) {rule after message} (obeyed : ∀ other ∈ before, other.Holds spec)
      (broken : ¬ rule.Holds spec) :
      Judges spec owner (before ++ rule :: after) (.error (.invalidField owner rule.path message))

variable {spec : InstanceSpec} {rules : List Rule} {checks : List Check} {owner : String}

theorem Follows.append {others : List Rule} {more : List Check} (first : Follows spec rules checks)
    (second : Follows spec others more) : Follows spec (rules ++ others) (checks ++ more) := by
  induction first with
  | nil => exact second
  | skipped holds _ ih => exact .skipped holds ih
  | checked field passes _ ih => exact .checked field passes ih

/-- One more rule in front that is obeyed changes nothing. -/
theorem Judges.cons {rule : Rule} {result : Except Failure Unit} (holds : rule.Holds spec)
    (rest : Judges spec owner rules result) : Judges spec owner (rule :: rules) result := by
  cases rest with
  | accepted obeyed => exact .accepted (List.forall_mem_cons.2 ⟨holds, obeyed⟩)
  | refused before obeyed broken =>
    exact .refused (rule :: before) (List.forall_mem_cons.2 ⟨holds, obeyed⟩) broken

/-- The first fault of checks that stand in the order of rules is what the rules say. -/
theorem Follows.judges (follows : Follows spec rules checks) :
    Judges spec owner rules (firstFault owner checks) := by
  induction follows with
  | nil => exact .accepted fun _ inside => absurd inside List.not_mem_nil
  | skipped holds _ ih => exact ih.cons holds
  | @checked rule rules check checks field passes _ ih =>
    rw [firstFault]
    cases result : check.result with
    | ok _ => exact ih.cons (passes.1 result)
    | error message =>
      have broken : ¬ rule.Holds spec := by
        intro holds
        cases result.symm.trans (passes.2 holds)
      rw [field]
      exact .refused [] (fun _ inside => absurd inside List.not_mem_nil) broken

/-! ## The checks stand in the order of the rules -/

/-- A rule that asks something of a value has its check if there is a value. -/
theorem follows_toList {α : Type} {value : Option α} {rule : Rule} {check : α → Except String Unit}
    {Accepts : α → Prop} (asks : rule.Holds spec ↔ ∀ given ∈ value, Accepts given)
    (passes : ∀ given, check given = .ok () ↔ Accepts given) :
    Follows spec [rule] (value.map fun given => ⟨rule.path, check given⟩).toList := by
  cases value with
  | none => exact .skipped (asks.2 (by simp)) .nil
  | some given =>
    refine .checked rfl ?_ .nil
    rw [passes, asks]
    simp

theorem ite_eq_ok_iff {p : Prop} [Decidable p] {message : String} :
    (if p then .ok () else .error message : Except String Unit) = .ok () ↔ p := by
  split <;> simp [*]

theorem follows_replicasCheck (spec : InstanceSpec) :
    Follows spec [.replicas] [spec.replicasCheck] := by
  refine .checked rfl ?_ .nil
  exact ite_eq_ok_iff

theorem follows_credentialChecks (spec : InstanceSpec) :
    Follows spec [.user, .password] ((spec.credentials.map credentialChecks).getD []) := by
  cases given : spec.credentials with
  | none =>
    refine .skipped ?_ (.skipped ?_ .nil) <;> simp [Rule.Holds, given]
  | some credentials =>
    refine .checked rfl ?_ (.checked rfl ?_ .nil)
    · simp [Rule.Holds, given]
    · simp [Rule.Holds, given, minPasswordLength]

theorem follows_amountChecks {needs : ResourceNeeds} (given : spec.resources = some needs)
    (side : Side) :
    Follows spec [.cores side, .memory side]
      (((side.amounts? needs).map (amountChecks side.name)).getD []) := by
  cases amounts : side.amounts? needs with
  | none =>
    refine .skipped ?_ (.skipped ?_ .nil) <;> simp [Rule.Holds, given, amounts]
  | some amounts =>
    refine Follows.append (follows_toList ?_ fun _ => Quantity.checkCores_eq_ok_iff)
      (follows_toList ?_ fun _ => Quantity.checkMemory_eq_ok_iff)
    · simp [Rule.Holds, given, amounts]
    · simp [Rule.Holds, given, amounts]

theorem follows_resourceChecks (spec : InstanceSpec) :
    Follows spec [.cores .requests, .memory .requests, .cores .limits, .memory .limits]
      ((spec.resources.map resourceChecks).getD []) := by
  cases resources : spec.resources with
  | none =>
    refine .skipped ?_ (.skipped ?_ (.skipped ?_ (.skipped ?_ .nil))) <;>
      simp [Rule.Holds, resources]
  | some needs =>
    exact (follows_amountChecks resources .requests).append
      (follows_amountChecks resources .limits)

theorem follows_sizeChecks (spec : InstanceSpec) :
    Follows spec [.volumeSize] ((spec.persistence.map sizeChecks).getD []) := by
  cases given : spec.persistence with
  | none =>
    refine .skipped ?_ .nil
    simp [Rule.Holds, given]
  | some persistence =>
    rw [Option.map_some, Option.getD_some, sizeChecks_eq_map, ← Option.toList_map]
    refine follows_toList ?_ fun _ => Quantity.checkMemory_eq_ok_iff
    simp [Rule.Holds, given, Settings.nonEmpty_eq_some_iff]

/-- The checks of a specification stand in the order of all rules. -/
theorem follows_checks (spec : InstanceSpec) : Follows spec Rule.all spec.checks :=
  (follows_replicasCheck spec).append <|
    ((follows_credentialChecks spec).append (follows_resourceChecks spec)).append
      (follows_sizeChecks spec)

/-- A specification is accepted exactly if it obeys all rules. Otherwise it is refused for the field of
the first rule that is broken, and the fault is told of the instance. -/
theorem validate_tells_first_broken (spec : InstanceSpec) (owner : String) :
    (spec.validate owner = .ok () ↔ ∀ rule : Rule, rule.Holds spec) ∧
      (spec.validate owner = .ok () ∨
        ∃ (rule : Rule) (message : String), rule.IsFirstBroken spec ∧
          spec.validate owner = .error (.invalidField owner rule.path message)) := by
  have judges : Judges spec owner Rule.all (spec.validate owner) := (follows_checks spec).judges
  generalize spec.validate owner = result at judges
  generalize order : Rule.all = rules at judges
  cases judges with
  | accepted obeyed =>
    refine ⟨iff_of_true rfl fun rule => ?_, .inl rfl⟩
    exact obeyed rule (order ▸ rule.mem_all)
  | @refused before rule after message obeyed broken =>
    refine ⟨iff_of_false (by simp) fun holds => broken (holds rule), .inr ?_⟩
    exact ⟨rule, message, ⟨broken, before, after, order, obeyed⟩, rfl⟩

/-- Of two rules that are broken the first one is reported, though rules before it are about fields that
are not given. -/
example :
    let spec : InstanceSpec :=
      { InstanceSpec.blank with
        credentials := some ⟨"admin", "admin"⟩
        resources := some ⟨none, some ⟨some "500m", some "two gigs"⟩⟩
        persistence := some ⟨true, some "big", none⟩ }
    spec.validate "nexus3" =
      .error (.invalidField "nexus3" "spec.resources.limits.memory"
        (Quantity.invalidMessage "two gigs")) := by
  decide +kernel

end Converge.InstanceSpec
