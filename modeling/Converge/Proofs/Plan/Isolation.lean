import Converge.Proofs.Plan.Convergence

/-!
# Instances beside each other

Two instances that differ in name or namespace have no place in common, apart from that of the
service account, whose name may be chosen (`Settings.place_ne`). So whatever one of them does, the
other finds what it found before and comes to the same verdicts, unless both are in one namespace
and run as one account (`Settings.SharesAccount`).

An account bears the labels of one instance, so it meets what one instance wants at most
(`Settings.label_of_meets`). Of two instances that share one, each writes its own labels over
those of the other, and nothing else (`Instance.apply_disturbs_shared_account_only`).
-/

namespace Converge

namespace Settings

variable {settings other : Settings}

/-- Two instances run as the same service account. -/
def SharesAccount (settings other : Settings) : Prop :=
  settings.namespaceName = other.namespaceName ∧
    settings.serviceAccountName = other.serviceAccountName

/-- In one namespace, instances that differ have different names. -/
theorem SharesAccount.name_ne (shares : settings.SharesAccount other)
    (differ : settings.name ≠ other.name ∨ settings.namespaceName ≠ other.namespaceName) :
    settings.name ≠ other.name := by
  rcases differ with named | placed
  · exact named
  · exact absurd shares.1 placed

/-- Where instances differ in name or namespace, so do the places of their objects, apart from that
of a shared account. -/
theorem place_ne
    (differ : settings.name ≠ other.name ∨ settings.namespaceName ≠ other.namespaceName)
    {kind : Kind} (apart : kind = .serviceAccount → ¬ settings.SharesAccount other)
    (otherKind : Kind) : other.place otherKind ≠ settings.place kind := by
  intro same
  have kinds : otherKind = kind := congrArg Key.kind same
  have spaces : settings.namespaceName = other.namespaceName :=
    (congrArg Key.namespaceName same).symm
  have names : settings.nameOf kind = other.nameOf otherKind := (congrArg Key.name same).symm
  subst kinds
  have named : settings.name ≠ other.name := by
    rcases differ with named | placed
    · exact named
    · exact absurd spaces placed
  cases otherKind with
  | serviceAccount => exact apart rfl ⟨spaces, names⟩
  | volumeClaim | deployment | service | route | ingress => exact named names

/-- The service account of an instance is labelled with the name of the instance. -/
theorem label_serviceAccount (settings : Settings) :
    settings.serviceAccount.metadata.labels.get? "app" = some settings.name := by
  simp [serviceAccount, ServiceAccount.of, Metadata.ownedBy, Metadata.instanceLabels,
    Metadata.selectorLabels, Dict.get?_insert]

/-- So is everything that meets it. -/
theorem label_of_meets {found : Resource}
    (meets : Comparison.ofKind .serviceAccount found (.serviceAccount settings.serviceAccount) =
      true) :
    found.metadata.labels.get? "app" = some settings.name := by
  cases found with
  | serviceAccount found =>
    simp only [Comparison.ofKind, ServiceAccount.meets, Metadata.meets, Bool.and_eq_true] at meets
    obtain ⟨⟨_, labels⟩, _⟩ := meets
    exact Dict.isSubsetOf_iff.1 labels _ _ settings.label_serviceAccount
  | deployment _ | service _ | volumeClaim _ | route _ | ingress _ => cases meets

end Settings

/-- The verdicts on all kinds but service accounts, where a reader finds the objects. -/
def Plan.verdictsBesideAccount (plan : Plan) (reader : Reader) : List Verdict :=
  Kind.planning.tail.filterMap fun kind =>
    plan.registry.verdict? kind (plan.settings.wanted? kind)
      (plan.settings.found? plan.capabilities reader kind)

namespace Instance

namespace Planned

variable {cluster : Cluster} {probe : Except Failure Capabilities} {first second : Instance}
  {plan other : Plan}

/-- Instances that differ in name or namespace have settings that do. -/
theorem settings_differ {reader reader' : Reader} (planned : Planned reader probe first plan)
    (followed : Planned reader' probe second other)
    (differ : first.metadata.name ≠ second.metadata.name ∨
      first.metadata.namespaceName ≠ second.metadata.namespaceName) :
    plan.settings.name ≠ other.settings.name ∨
      plan.settings.namespaceName ≠ other.settings.namespaceName := by
  obtain ⟨named, placed⟩ := metadata_of_identity planned.identity_eq
  obtain ⟨otherNamed, otherPlaced⟩ := metadata_of_identity followed.identity_eq
  rw [planned.name_eq, followed.name_eq, planned.namespaceName_eq, followed.namespaceName_eq]
  simpa [named, placed, otherNamed, otherPlaced] using differ

/-- What meets the service account of a plan is labelled with the name of the plan's instance. -/
theorem label_of_compare {reader : Reader} (planned : Planned reader probe first plan)
    {found : Resource}
    (meets : plan.registry.compare .serviceAccount found
      (.serviceAccount plan.settings.serviceAccount) = true) :
    found.metadata.labels.get? "app" = some plan.settings.name := by
  rw [planned.registry_eq, Facet.compare_ownedKinds] at meets
  exact Settings.label_of_meets meets

/-- The account of an instance of another name does not meet the wanted one. -/
theorem compare_account_of_other {reader : Reader} (planned : Planned reader probe first plan)
    {settings : Settings} (foreign : plan.settings.name ≠ settings.name) :
    plan.registry.compare .serviceAccount (.serviceAccount settings.serviceAccount)
      (.serviceAccount plan.settings.serviceAccount) = false := by
  refine eq_false_of_ne_true fun meets => foreign ?_
  have label := planned.label_of_compare meets
  exact Option.some.inj (label.symm.trans settings.label_serviceAccount)

/-- After a plan, an account is found that meets the wanted one. -/
theorem exists_account_apply (planned : Planned cluster.reader probe first plan)
    (coherent : cluster.reader.Coherent) :
    ∃ account,
      plan.settings.found? plan.capabilities (plan.apply cluster).reader .serviceAccount =
        some account ∧
      plan.registry.compare .serviceAccount account
        (.serviceAccount plan.settings.serviceAccount) = true := by
  refine planned.exists_found?_apply coherent rfl fun quantity inside => ?_
  cases inside

/-- A plan writes its account over one with the label of another instance. -/
theorem get?_apply_account (planned : Planned cluster.reader probe first plan)
    (coherent : cluster.reader.Coherent) {account : Resource}
    (finds : plan.settings.found? plan.capabilities cluster.reader .serviceAccount = some account)
    (foreign : account.metadata.labels.get? "app" ≠ some plan.settings.name) :
    (plan.apply cluster).get? (plan.settings.place .serviceAccount) =
      some (Resource.serviceAccount plan.settings.serviceAccount).encode := by
  have wants : plan.settings.wanted? .serviceAccount =
      some (.serviceAccount plan.settings.serviceAccount) := rfl
  rcases planned.get?_apply_of_wanted? coherent wants with written | ⟨found, again, meets, _⟩
  · exact written
  · rw [finds] at again
    cases again
    exact absurd (planned.label_of_compare meets) foreign

/-- The first verdict of a plan that finds an account is the one on the account. -/
theorem verdicts_of_account {reader : Reader} (planned : Planned reader probe first plan)
    (coherent : reader.Coherent) {account : Resource}
    (finds : plan.settings.found? plan.capabilities reader .serviceAccount = some account) :
    plan.verdicts =
      ⟨.serviceAccount, plan.settings.serviceAccountName,
        if plan.registry.compare .serviceAccount account
          (.serviceAccount plan.settings.serviceAccount) then .keep else .update⟩ ::
      plan.verdictsBesideAccount reader := by
  rw [planned.verdicts_eq coherent, Plan.verdictsBesideAccount]
  simp only [Kind.planning, List.tail_cons]
  rw [List.filterMap_cons, finds]
  rfl

section Following

/-! ## One plan after another -/

variable (planned : Planned cluster.reader probe first plan)
  (followed : Planned (plan.apply cluster).reader probe second other)
  (coherent : cluster.reader.Coherent)
  (differ : plan.settings.name ≠ other.settings.name ∨
    plan.settings.namespaceName ≠ other.settings.namespaceName)

include followed coherent differ

/-- A plan of another instance leaves what is stored at the places of an instance, apart from a
shared account. -/
theorem get?_apply_apart {kind : Kind}
    (apart : kind = .serviceAccount → ¬ plan.settings.SharesAccount other.settings) :
    (other.apply (plan.apply cluster)).get? (plan.settings.place kind) =
      (plan.apply cluster).get? (plan.settings.place kind) :=
  followed.get?_apply_elsewhere (plan.coherent_apply coherent) (Settings.place_ne differ apart)

/-- So the instance finds there what it found before. -/
theorem found?_apply_apart {kind : Kind}
    (apart : kind = .serviceAccount → ¬ plan.settings.SharesAccount other.settings) :
    plan.settings.found? plan.capabilities (other.apply (plan.apply cluster)).reader kind =
      plan.settings.found? plan.capabilities (plan.apply cluster).reader kind :=
  Settings.found?_congr (congrArg Except.ok (followed.get?_apply_apart coherent differ apart))

/-- The verdicts on all kinds but service accounts stay the same. -/
theorem verdictsBesideAccount_apply :
    plan.verdictsBesideAccount (other.apply (plan.apply cluster)).reader =
      plan.verdictsBesideAccount (plan.apply cluster).reader := by
  refine List.filterMap_congr fun kind later => ?_
  have apart : kind = .serviceAccount → ¬ plan.settings.SharesAccount other.settings := by
    rintro rfl
    simp [Kind.planning] at later
  rw [followed.found?_apply_apart coherent differ apart]

include planned

/-- In the place of a shared account the instance finds the account of the other one. -/
theorem found?_apply_shared (shares : plan.settings.SharesAccount other.settings) :
    plan.settings.found? plan.capabilities (other.apply (plan.apply cluster)).reader
        .serviceAccount =
      some (.serviceAccount other.settings.serviceAccount) := by
  have place : plan.settings.place .serviceAccount = other.settings.place .serviceAccount :=
    congrArg₂ (Key.mk .serviceAccount) shares.1 shares.2
  obtain ⟨account, finds, meets⟩ := planned.exists_account_apply coherent
  obtain ⟨value, held, read⟩ := Settings.stored_of_found? finds
  have foreign : account.metadata.labels.get? "app" ≠ some other.settings.name := by
    rw [planned.label_of_compare meets]
    simpa using shares.name_ne differ
  rw [place] at held
  have written := followed.get?_apply_account (plan.coherent_apply coherent)
    (Settings.found?_of_stored rfl held read) foreign
  rw [← place] at written
  exact Settings.found?_of_stored rfl (congrArg Except.ok written)
    (Resource.serviceAccount other.settings.serviceAccount).decode_encode

/-- Every request of the instance is answered still. -/
theorem answered_apply_other :
    ∀ request ∈ plan.settings.reads plan.capabilities,
      request.Answered (other.apply (plan.apply cluster)).reader := by
  intro request asked
  obtain ⟨found, answer⟩ := planned.answered_apply coherent request asked
  rw [Settings.reads_eq_filterMap] at asked
  obtain ⟨kind, _, requested⟩ := List.mem_filterMap.1 asked
  by_cases shared : kind = .serviceAccount ∧ plan.settings.SharesAccount other.settings
  · obtain ⟨rfl, shares⟩ := shared
    have finds := planned.found?_apply_shared followed coherent differ shares
    rw [Settings.found?, requested, Option.bind_some] at finds
    exact ReadRequest.answered_of_found? finds
  · have kept := followed.get?_apply_apart coherent differ (not_and.1 shared)
    rw [← Settings.key_of_request? requested] at kept
    exact ⟨found, (ReadRequest.answer_congr (congrArg Except.ok kept)).trans answer⟩

end Following

end Planned

/-- Instances do not disturb each other, as long as they do not share a service account. On every
coherent cluster, when an instance has a plan that is carried out, and then another one of a
different name or namespace has, the first has a plan again, with the verdicts that it had after
its own. If both are in one namespace and run as one account, they differ in the verdict on the
account: the first kept it and now makes it its own again. -/
theorem apply_disturbs_shared_account_only {cluster : Cluster} {capabilities : Capabilities}
    {first second : Instance} {plan other : Plan} (coherent : cluster.reader.Coherent)
    (differ : first.metadata.name ≠ second.metadata.name ∨
      first.metadata.namespaceName ≠ second.metadata.namespaceName)
    (planned : (first.plan cluster.reader (.ok capabilities)).result = .ok plan)
    (followed : (second.plan (plan.apply cluster).reader (.ok capabilities)).result = .ok other) :
    ∃ before after,
      (first.plan (plan.apply cluster).reader (.ok capabilities)).result = .ok before ∧
      (first.plan (other.apply (plan.apply cluster)).reader (.ok capabilities)).result =
        .ok after ∧
      (¬ plan.settings.SharesAccount other.settings → after.verdicts = before.verdicts) ∧
      (plan.settings.SharesAccount other.settings →
        ∃ rest,
          before.verdicts =
            ⟨.serviceAccount, plan.settings.serviceAccountName, .keep⟩ :: rest ∧
          after.verdicts =
            ⟨.serviceAccount, plan.settings.serviceAccountName, .update⟩ :: rest) := by
  have planned := planned_iff.1 planned
  have followed := planned_iff.1 followed
  have differ := planned.settings_differ followed differ
  have before := planned.reread (planned.answered_apply coherent)
  have after := planned.reread (planned.answered_apply_other followed coherent differ)
  have coherentBefore := plan.coherent_apply coherent
  have coherentAfter := other.coherent_apply coherentBefore
  refine ⟨_, _, planned_iff.2 before, planned_iff.2 after, fun distinct => ?_, fun shares => ?_⟩
  · rw [before.verdicts_eq coherentBefore, after.verdicts_eq coherentAfter]
    refine List.filterMap_congr fun kind _ => ?_
    simp only [Plan.settings_reread, Plan.capabilities_reread, Plan.registry_reread]
    rw [followed.found?_apply_apart coherent differ fun _ => distinct]
  · obtain ⟨account, finds, meets⟩ := planned.exists_account_apply coherent
    have taken := planned.found?_apply_shared followed coherent differ shares
    have foreign := planned.compare_account_of_other (shares.name_ne differ)
    refine ⟨plan.verdictsBesideAccount (plan.apply cluster).reader, ?_, ?_⟩
    · rw [before.verdicts_of_account coherentBefore finds]
      simp [meets, Plan.verdictsBesideAccount]
    · rw [after.verdicts_of_account coherentAfter taken,
        ← followed.verdictsBesideAccount_apply coherent differ]
      simp [foreign, Plan.verdictsBesideAccount]

/-- An instance in the namespace `tools` that runs as a chosen account. -/
def toolInstance (name account : String) : Instance :=
  .of (some name) (some "tools") { InstanceSpec.blank with serviceAccountName := some account }

/-- Two instances of one namespace with accounts of their own leave each other alone. -/
theorem own_accounts_undisturbed :
    ∃ plan other before after,
      ((toolInstance "releases" "publisher").plan Cluster.empty.reader
        (.ok ⟨true, false, false⟩)).result = .ok plan ∧
      ((toolInstance "snapshots" "builder").plan (plan.apply .empty).reader
        (.ok ⟨true, false, false⟩)).result = .ok other ∧
      ((toolInstance "releases" "publisher").plan (plan.apply .empty).reader
        (.ok ⟨true, false, false⟩)).result = .ok before ∧
      ((toolInstance "releases" "publisher").plan (other.apply (plan.apply .empty)).reader
        (.ok ⟨true, false, false⟩)).result = .ok after ∧
      after.verdicts = before.verdicts := by
  obtain ⟨plan, other, planned, followed⟩ : ∃ plan other,
      ((toolInstance "releases" "publisher").plan Cluster.empty.reader
        (.ok ⟨true, false, false⟩)).result = .ok plan ∧
      ((toolInstance "snapshots" "builder").plan (plan.apply .empty).reader
        (.ok ⟨true, false, false⟩)).result = .ok other := ⟨_, _, rfl, rfl⟩
  have distinct : ¬ plan.settings.SharesAccount other.settings := by
    rw [(planned_iff.1 planned).settings_eq, (planned_iff.1 followed).settings_eq]
    rintro ⟨_, same⟩
    have same : "publisher" = "builder" := same
    exact absurd same (by decide)
  obtain ⟨before, after, again, still, undisturbed, _⟩ :=
    apply_disturbs_shared_account_only Cluster.coherent_empty (.inl (by decide)) planned followed
  exact ⟨plan, other, before, after, planned, followed, again, still, undisturbed distinct⟩

/-- With one account for both, the verdicts on the first instance change when the plan of the second
is carried out. -/
theorem shared_account_disturbed :
    ∃ plan other before after,
      Cluster.empty.reader.Coherent ∧
      (toolInstance "releases" "builder").metadata.name ≠
        (toolInstance "snapshots" "builder").metadata.name ∧
      ((toolInstance "releases" "builder").plan Cluster.empty.reader
        (.ok ⟨true, false, false⟩)).result = .ok plan ∧
      ((toolInstance "snapshots" "builder").plan (plan.apply .empty).reader
        (.ok ⟨true, false, false⟩)).result = .ok other ∧
      ((toolInstance "releases" "builder").plan (plan.apply .empty).reader
        (.ok ⟨true, false, false⟩)).result = .ok before ∧
      ((toolInstance "releases" "builder").plan (other.apply (plan.apply .empty)).reader
        (.ok ⟨true, false, false⟩)).result = .ok after ∧
      after.verdicts ≠ before.verdicts :=
  ⟨_, _, _, _, Cluster.coherent_empty, by decide, rfl, rfl, rfl, rfl, by decide +kernel⟩

end Instance

end Converge
