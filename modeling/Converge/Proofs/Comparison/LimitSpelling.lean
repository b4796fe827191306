import Converge.Proofs.Comparison.Drift
import Converge.Proofs.Facet.FlagTable

/-!
# How a memory limit is spelled

A memory limit reaches a deployment twice: as it is spelled, among the resources of the container, and
through the sizes in its flags. The resources are compared by their amounts, but the flags letter by
letter. So a spelling that got into the flags would restart the pods; it does not, because the flags are
made of the amount alone (`JavaFlags.render_congr`), and deployments that differ in the spelling of the
limit meet each other: `JavaFlags.formed_by_amount`.
-/

namespace Converge

/-- Whether an amount is equal to another does not depend on their order if both are read alike. -/
theorem Quantity.equal_comm_of_parse? {first second : String} (same : parse? first = parse? second) :
    equal first second = equal second first := by
  unfold equal
  rw [same]
  cases parse? second with
  | none => exact Bool.beq_comm
  | some amount => rfl

/-- The flags depend on the limit only through the amount that is read of it, if any is. -/
theorem JavaFlags.render_congr {limit other : Option String}
    (same : limit.bind Quantity.parse? = other.bind Quantity.parse?) (randomPassword : Bool) :
    render limit randomPassword = render other randomPassword := by
  have sizes : MemorySizes.ofLimit limit = MemorySizes.ofLimit other := by
    rw [MemorySizes.ofLimit, same]
    rfl
  rw [render, render, flags, flags, sizes]

namespace ResourceNeeds

/-- The amounts of a side as a container lists them. -/
def listed (cpu memory : Option String) : Dict :=
  .ofList ((cpu.map fun amount => ("cpu", amount)).toList ++
    (memory.map fun amount => ("memory", amount)).toList)

theorem requests_toContainer (needs : ResourceNeeds) :
    needs.toContainer.requests = listed (needs.requests.bind (·.cpu)) (needs.requests.bind (·.memory)) :=
  rfl

theorem limits_toContainer (needs : ResourceNeeds) :
    needs.toContainer.limits = listed (needs.limits.bind (·.cpu)) (needs.limits.bind (·.memory)) :=
  rfl

theorem entries_listed (cpu memory : Option String) :
    (listed cpu memory).entries =
      (cpu.map fun amount => ("cpu", amount)).toList ++
        (memory.map fun amount => ("memory", amount)).toList := by
  cases cpu <;> cases memory <;>
    simp only [listed, Option.map_none, Option.map_some, Option.toList_none, Option.toList_some,
      List.nil_append, List.cons_append, Dict.ofList, List.foldl_cons, List.foldl_nil, Dict.insert,
      Dict.insertEntry, Dict.empty, String.reduceLT, String.reduceEq, reduceIte]

/-- Amounts of a side meet others with an equal amount of memory. -/
theorem listed_amountsMeet {cpu memory other : Option String}
    (cores : ∀ amount ∈ cpu, Quantity.equal amount amount = true)
    (bytes : Option.Rel (fun amount wanted => Quantity.equal amount wanted = true) memory other) :
    (listed cpu memory).amountsMeet (listed cpu other) = true := by
  simp only [Dict.amountsMeet, Dict.size, Dict.get?, entries_listed]
  cases bytes with
  | none =>
    cases cpu with
    | none => rfl
    | some amount => simpa using cores amount rfl
  | some equal =>
    cases cpu with
    | none => simpa using equal
    | some amount => simpa using ⟨cores amount rfl, equal⟩

end ResourceNeeds

namespace InstanceSpec

/-- What a specification needs; nothing, if it does not say. -/
def needs (spec : InstanceSpec) : ResourceNeeds := spec.resources.getD ⟨none, none⟩

/-- A specification with a memory limit, in place of its own if it has one. -/
def withMemoryLimit (spec : InstanceSpec) (limit : String) : InstanceSpec :=
  { spec with
    resources :=
      some
        { requests := spec.needs.requests
          limits := some ⟨spec.needs.limits.bind (·.cpu), some limit⟩ } }

/-- The amounts in the resources of a specification, apart from its memory limit. -/
def otherAmounts (spec : InstanceSpec) : List String :=
  (spec.needs.requests.bind (·.cpu)).toList ++ (spec.needs.requests.bind (·.memory)).toList ++
    (spec.needs.limits.bind (·.cpu)).toList

variable {spec : InstanceSpec} {first second : String}

/-- A memory limit is kept, with what else is needed. -/
theorem normalize_withMemoryLimit (name space limit : String) (capabilities : Capabilities) :
    Settings.normalize name space (spec.withMemoryLimit limit) capabilities =
      { Settings.normalize name space spec capabilities with
        resources := ⟨spec.needs.requests, some ⟨spec.needs.limits.bind (·.cpu), some limit⟩⟩ } := by
  have kept : Settings.normalizeResources (spec.withMemoryLimit limit).resources =
      ⟨spec.needs.requests, some ⟨spec.needs.limits.bind (·.cpu), some limit⟩⟩ := by
    simp [withMemoryLimit, Settings.normalizeResources, ResourceNeeds.isEmpty,
      ResourceAmounts.isEmpty]
  rw [Settings.normalize, kept]
  rfl

/-- What runs under one spelling of the memory limit is what is wanted under another one that is read as
the same amount and equal to it. -/
theorem runsAs_withMemoryLimit (same : Quantity.parse? first = Quantity.parse? second)
    (equal : Quantity.equal first second = true)
    (others : ∀ amount ∈ spec.otherAmounts, Quantity.equal amount amount = true)
    (name space : String) (capabilities : Capabilities) :
    (Settings.normalize name space (spec.withMemoryLimit first) capabilities).RunsAs
      (Settings.normalize name space (spec.withMemoryLimit second) capabilities) := by
  simp only [otherAmounts, List.forall_mem_append, Option.mem_toList] at others
  obtain ⟨⟨requestedCores, requestedBytes⟩, limitedCores⟩ := others
  have read : (some first).bind Quantity.parse? = (some second).bind Quantity.parse? := by
    rw [Option.bind_some, Option.bind_some, same]
  rw [normalize_withMemoryLimit, normalize_withMemoryLimit]
  generalize Settings.normalize name space spec capabilities = settings
  refine
    { replicas := rfl, image := rfl, policy := rfl, requests := ?_, limits := ?_,
      flags := JavaFlags.render_congr read settings.randomPassword, persistent := rfl,
      livenessProbe := rfl, readinessProbe := rfl, serviceAccountName := rfl,
      users := Classical.em _ }
  · rw [ResourceNeeds.requests_toContainer, ResourceNeeds.requests_toContainer]
    refine ResourceNeeds.listed_amountsMeet requestedCores ?_
    cases requested : spec.needs.requests.bind (·.memory) with
    | none => exact .none
    | some amount => exact .some (requestedBytes amount requested)
  · rw [ResourceNeeds.limits_toContainer, ResourceNeeds.limits_toContainer]
    exact ResourceNeeds.listed_amountsMeet limitedCores (.some equal)

/-- So its deployment meets the one that is wanted. -/
theorem meets_withMemoryLimit (same : Quantity.parse? first = Quantity.parse? second)
    (equal : Quantity.equal first second = true)
    (others : ∀ amount ∈ spec.otherAmounts, Quantity.equal amount amount = true)
    (name space : String) (capabilities : Capabilities) :
    (Settings.normalize name space (spec.withMemoryLimit first) capabilities).deployment.meets
      (Settings.normalize name space (spec.withMemoryLimit second) capabilities).deployment = true := by
  have runs := runsAs_withMemoryLimit same equal others name space capabilities
  exact (Settings.deployment_meets_iff (by rfl) (by rfl)).2 runs

end InstanceSpec

/-- The text of the flags has the same form for every memory limit, and limits that are read as the same
amount, or not at all, give the same text. So it is no difference between the deployments of two
specifications of an instance that a memory limit is spelled in two ways which are read as the same
amount and equal to each other, if each other amount is equal to itself. -/
theorem JavaFlags.formed_by_amount :
    (∀ (limit : Option String) (randomPassword : Bool),
        Formed (render limit randomPassword) randomPassword) ∧
      (∀ limit other : Option String, limit.bind Quantity.parse? = other.bind Quantity.parse? →
        ∀ randomPassword : Bool, render limit randomPassword = render other randomPassword) ∧
      ∀ (name space : String) (spec : InstanceSpec) (capabilities : Capabilities)
        (first second : String), Quantity.parse? first = Quantity.parse? second →
        Quantity.equal first second = true →
        (∀ amount ∈ spec.otherAmounts, Quantity.equal amount amount = true) →
        let deployment (limit : String) : Deployment :=
          (Settings.normalize name space (spec.withMemoryLimit limit) capabilities).deployment
        (deployment first).meets (deployment second) = true ∧
          (deployment second).meets (deployment first) = true := by
  refine ⟨formed_render, fun _ _ => render_congr, ?_⟩
  intro name space spec capabilities first second same equal others deployment
  have swapped : Quantity.equal second first = true := by
    rw [← Quantity.equal_comm_of_parse? same]
    exact equal
  exact ⟨InstanceSpec.meets_withMemoryLimit same equal others name space capabilities,
    InstanceSpec.meets_withMemoryLimit same.symm swapped others name space capabilities⟩

/-- A specification with requests and limits, in which the memory limit is spelled in one way. -/
def InstanceSpec.limitedSpec : InstanceSpec :=
  { InstanceSpec.blank with
    resources := some ⟨some ⟨some "500m", some "2Gi"⟩, some ⟨some "2", some "4Gi"⟩⟩ }

/-- Its deployment meets the one of another spelling in either direction, and a text that is no amount
gives the flags of an instance without a limit. -/
theorem JavaFlags.formed_by_four_gibibytes :
    let deployment (limit : String) : Deployment :=
      (Settings.normalize "nexus3" "tools" (InstanceSpec.limitedSpec.withMemoryLimit limit)
        ⟨true, false, true⟩).deployment
    (deployment "4Gi").meets (deployment "4096Mi") = true ∧
      (deployment "4096Mi").meets (deployment "4Gi") = true ∧
      render (some "4 gigabytes") true = render none true := by
  obtain ⟨_, flags, spellings⟩ := formed_by_amount
  have unread : (some "4 gigabytes").bind Quantity.parse? = none := by decide +kernel
  have same : Quantity.parse? "4Gi" = Quantity.parse? "4096Mi" := by decide +kernel
  obtain ⟨there, back⟩ := spellings "nexus3" "tools" InstanceSpec.limitedSpec ⟨true, false, true⟩
    "4Gi" "4096Mi" same (by decide +kernel) (by decide +kernel)
  exact ⟨there, back, flags _ none unread true⟩

end Converge
