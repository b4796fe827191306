import Converge.Instance.Settings

/-!
# Settings are settled

Every value that normalization fills in, raises or drops is one that normalization accepts as it
is, so the specification that settings are turned back into (`Settings.toSpec`) has these settings
again. The cluster has a say in one value only, the way to be reached, and only while it is open:
once chosen it is written down, and another cluster does not choose again
(`Settings.normalize_toSpec`).
-/

namespace Converge

namespace Settings

/-- Where a text or its default was taken, it is taken again. -/
theorem getD_nonEmpty_getD (text : Option String) (default : String) :
    (nonEmpty (some ((nonEmpty text).getD default))).getD default =
      (nonEmpty text).getD default := by
  cases given : nonEmpty text with
  | some value =>
    have kept : nonEmpty (some value) = some value :=
      nonEmpty_eq_some_iff.2 ⟨rfl, (nonEmpty_eq_some_iff.1 given).2⟩
    rw [Option.getD_some, kept, Option.getD_some]
  | none =>
    -- The default may be empty itself, and then it is taken for being absent.
    rw [Option.getD_none, nonEmpty, Option.filter_some]
    split <;> rfl

/-- A text that was kept is kept again. -/
theorem nonEmpty_nonEmpty (text : Option String) : nonEmpty (nonEmpty text) = nonEmpty text := by
  simp [nonEmpty, Option.filter_filter]

/-- The image that was chosen is chosen again. -/
theorem normalizeImage_again {spec again : InstanceSpec}
    (certified : again.useRedHatImage = spec.useRedHatImage)
    (image : again.image = some (normalizeImage spec)) :
    normalizeImage again = normalizeImage spec := by
  unfold normalizeImage at image ⊢
  rw [certified, image]
  split
  · rfl
  · exact getD_nonEmpty_getD spec.image communityImage

/-- Settings always have an amount. -/
theorem isEmpty_normalizeResources (needs : Option ResourceNeeds) :
    (normalizeResources needs).isEmpty = false := by
  cases needs with
  | none => rfl
  | some needs =>
    rw [normalizeResources]
    split
    · rfl
    · next given => exact Bool.eq_false_iff.2 given

/-- Resources that have an amount stay as they are. -/
theorem normalizeResources_again (needs : Option ResourceNeeds) :
    normalizeResources (some (normalizeResources needs)) = normalizeResources needs := by
  have given := isEmpty_normalizeResources needs
  rw [normalizeResources, given]
  rfl

private theorem max_max_self (value least : Int32) :
    max (max value least) least = max value least := by
  have larger : ∀ a b : Int32, max a b = if a ≤ b then b else a := fun _ _ => rfl
  by_cases low : value ≤ least
  · simp only [larger, low, if_true, Int32.le_refl]
  · simp only [larger, low, if_false]

/-- A timing that was raised to its least values is not raised further. -/
theorem normalizeProbe_again (timing : Option ProbeTiming) :
    normalizeProbe (some (normalizeProbe timing)) = normalizeProbe timing := by
  cases timing with
  | none => decide
  | some timing => simp only [normalizeProbe, max_max_self]

/-- Persistence with its size keeps it. -/
theorem normalizePersistence_again (persistence : Option PersistenceSpec) :
    normalizePersistence (some
      { persistent := (normalizePersistence persistence).persistent
        volumeSize := some (normalizePersistence persistence).volumeSize
        storageClass := (normalizePersistence persistence).storageClass }) =
      normalizePersistence persistence := by
  simp only [normalizePersistence, Option.getD_some, getD_nonEmpty_getD, nonEmpty_nonEmpty]

/-- An instance that is exposed is so in some way, whatever the cluster offers. -/
theorem isSome_exposeAs (networking : Option NetworkingSpec) (capabilities : Capabilities)
    (exposed : (normalizeNetworking networking capabilities).expose = true) :
    (normalizeNetworking networking capabilities).exposeAs.isSome = true := by
  unfold normalizeNetworking at exposed ⊢
  dsimp only at exposed ⊢
  rw [exposed]
  cases (networking.getD .blank).exposeAs <;> rfl

/-- Networking with the way to be reached keeps it, whatever another cluster offers. -/
theorem normalizeNetworking_again (networking : Option NetworkingSpec)
    (capabilities offered : Capabilities) :
    normalizeNetworking (some
      { expose := (normalizeNetworking networking capabilities).expose
        exposeAs := (normalizeNetworking networking capabilities).exposeAs
        host := (normalizeNetworking networking capabilities).host
        nodePort := some (normalizeNetworking networking capabilities).nodePort
        tls := some (normalizeNetworking networking capabilities).tls }) offered =
      normalizeNetworking networking capabilities := by
  have chosen := isSome_exposeAs networking capabilities
  generalize settled : normalizeNetworking networking capabilities = made at chosen ⊢
  have host : nonEmpty made.host = made.host := by
    rw [← settled]
    exact nonEmpty_nonEmpty _
  have decided : (made.exposeAs.isNone && made.expose) = false := by
    cases exposed : made.expose with
    | false => simp
    | true => simpa using chosen exposed
  obtain ⟨expose, exposeAs, _, nodePort, tls⟩ := made
  simp only at host decided
  simp only [normalizeNetworking, Option.getD_some, host, decided, Bool.false_eq_true, if_false]

/-- Settings are settled: turned back into a specification they give the same settings, on the same
cluster and on every other one. -/
theorem normalize_toSpec (name space : String) (spec : InstanceSpec)
    (capabilities offered : Capabilities) :
    normalize name space (normalize name space spec capabilities).toSpec offered =
      normalize name space spec capabilities := by
  have image : normalizeImage (normalize name space spec capabilities).toSpec =
      normalizeImage spec := normalizeImage_again rfl rfl
  have policy : ((spec.imagePullPolicy.bind PullPolicy.ofName?).map PullPolicy.name).bind
      PullPolicy.ofName? = spec.imagePullPolicy.bind PullPolicy.ofName? := by
    cases spec.imagePullPolicy.bind PullPolicy.ofName? with
    | none => rfl
    | some policy => exact PullPolicy.ofName?_name policy
  rw [normalize, image]
  simp only [toSpec, normalize, policy, normalizeResources_again, normalizePersistence_again,
    normalizeNetworking_again, normalizeProbe_again, getD_nonEmpty_getD]

end Settings

end Converge
