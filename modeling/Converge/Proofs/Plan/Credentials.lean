import Converge.Plan.Rendering
import Converge.Proofs.Instance.Validation
import Converge.Proofs.Plan.Reading

/-!
# Credentials are not shown

The settings of an instance hold its credentials, and every facet sees the settings. That nothing of
the credentials gets out is shown by erasing them. What a facet wants and what it reads are the same
for settings without credentials (`Facet.required_withoutCredentials`,
`Facet.reads_withoutCredentials`), and so is the written form of the settings. Hence a pass over an
instance that is accepted asks the same and ends the same way once the credentials are erased, up to
those in the settings of its plan (`Instance.plan_withoutCredentials`).

Instances that differ in their credentials only are the same once these are erased, so that nobody
can tell them apart by what is asked, planned or rendered: `Instance.credentials_not_shown`. Both
have to be accepted, as validation does look at credentials and refuses some.
-/

namespace Converge

/-- A specification without its credentials. -/
def InstanceSpec.withoutCredentials (spec : InstanceSpec) : InstanceSpec :=
  { spec with credentials := none }

/-- Settings without their credentials. -/
def Settings.withoutCredentials (settings : Settings) : Settings :=
  { settings with credentials := none }

/-- A plan without the credentials in its settings. -/
def Plan.withoutCredentials (plan : Plan) : Plan :=
  { plan with settings := plan.settings.withoutCredentials }

/-- An instance without its credentials. -/
def Instance.withoutCredentials (declaration : Instance) : Instance :=
  { declaration with spec := declaration.spec.withoutCredentials }

/-- What is accepted with credentials is accepted without them, whatever instance it is told of. -/
theorem InstanceSpec.validate_withoutCredentials {spec : InstanceSpec} {owner : String}
    (valid : spec.validate owner = .ok ()) (other : String) :
    spec.withoutCredentials.validate other = .ok () := by
  refine validate_eq_ok_iff.2 fun check inside => validate_eq_ok_iff.1 valid check ?_
  rcases List.mem_cons.1 inside with rfl | inside
  · exact List.mem_cons_self
  · refine List.mem_cons_of_mem _ ?_
    rw [List.append_assoc] at inside ⊢
    exact List.mem_append_right _ inside

/-! ## What is made of the settings -/

section Settings

variable (settings : Settings) (capabilities : Capabilities)

/-- No facet looks at the credentials to say what it wants. -/
theorem Facet.required_withoutCredentials (facet : Facet) :
    facet.required settings.withoutCredentials capabilities =
      facet.required settings capabilities := by
  cases facet with
  | identity => rfl
  | storage => rfl
  | compute => rfl
  | network => rfl

/-- Nor does it to say what it reads. -/
theorem Facet.reads_withoutCredentials (facet : Facet) :
    facet.reads settings.withoutCredentials capabilities = facet.reads settings capabilities := by
  cases facet with
  | identity => rfl
  | storage => rfl
  | compute => rfl
  | network => rfl

namespace Settings

theorem required_withoutCredentials :
    settings.withoutCredentials.required capabilities = settings.required capabilities := by
  have facets : Facet.required settings.withoutCredentials capabilities =
      Facet.required settings capabilities :=
    funext fun facet => facet.required_withoutCredentials settings capabilities
  rw [required, facets, required]

theorem reads_withoutCredentials :
    settings.withoutCredentials.reads capabilities = settings.reads capabilities := by
  have facets : Facet.reads settings.withoutCredentials capabilities =
      Facet.reads settings capabilities :=
    funext fun facet => facet.reads_withoutCredentials settings capabilities
  rw [reads, facets, reads]

/-- Credentials are not written. -/
theorem encode_withoutCredentials : settings.withoutCredentials.encode = settings.encode := rfl

/-- No setting but the credentials is made of the credentials. -/
theorem normalize_withoutCredentials (name space : String) (spec : InstanceSpec) :
    normalize name space spec.withoutCredentials capabilities =
      (normalize name space spec capabilities).withoutCredentials := rfl

end Settings

end Settings

/-! ## Passes -/

/-- Plans look alike: they require the same, have found the same, judge it alike, and their settings
are written alike. -/
structure Plan.LooksLike (plan other : Plan) : Prop where
  required_eq : plan.required = other.required
  deployed_eq : plan.deployed = other.deployed
  verdicts_eq : plan.verdicts = other.verdicts
  settings_eq : plan.settings.encode = other.settings.encode

/-- Plans that differ in credentials only look alike. -/
theorem Plan.looksLike_of_withoutCredentials {plan other : Plan}
    (alike : plan.withoutCredentials = other.withoutCredentials) : plan.LooksLike other where
  required_eq := by
    change plan.withoutCredentials.required = other.withoutCredentials.required
    rw [alike]
  deployed_eq := by
    change plan.withoutCredentials.deployed = other.withoutCredentials.deployed
    rw [alike]
  verdicts_eq := by
    change plan.withoutCredentials.verdicts = other.withoutCredentials.verdicts
    rw [alike]
  settings_eq :=
    calc plan.settings.encode
        = plan.withoutCredentials.settings.encode := plan.settings.encode_withoutCredentials.symm
      _ = other.withoutCredentials.settings.encode := by rw [alike]
      _ = other.settings.encode := other.settings.encode_withoutCredentials

/-- Where results are the same up to credentials, they are one failure or plans that look alike. -/
theorem Plan.fails_or_looksLike {result other : Except Failure Plan}
    (alike : result.map withoutCredentials = other.map withoutCredentials) :
    (∃ failure, result = .error failure ∧ other = .error failure) ∨
      ∃ plan plan', result = .ok plan ∧ other = .ok plan' ∧ plan.LooksLike plan' := by
  cases result with
  | error failure =>
    cases other with
    | error failure' =>
      cases alike
      exact .inl ⟨failure, rfl, rfl⟩
    | ok plan' => cases alike
  | ok plan =>
    cases other with
    | error failure' => cases alike
    | ok plan' =>
      exact .inr ⟨plan, plan', rfl, rfl, looksLike_of_withoutCredentials (Except.ok.inj alike)⟩

namespace Instance

/-- The pass over an accepted instance without its credentials is the pass over the instance, up to
the credentials in the plan. -/
theorem plan_withoutCredentials {declaration : Instance} {owner : String}
    (valid : declaration.spec.validate owner = .ok ()) (reader : Reader)
    (probe : Except Failure Capabilities) :
    declaration.withoutCredentials.plan reader probe =
      ⟨(declaration.plan reader probe).events,
        (declaration.plan reader probe).result.map Plan.withoutCredentials⟩ := by
  have identified : declaration.withoutCredentials.identity = declaration.identity := rfl
  have checked (name : String) : declaration.withoutCredentials.spec.validate name =
      declaration.spec.validate name :=
    (InstanceSpec.validate_withoutCredentials valid name).trans
      (InstanceSpec.validate_eq_ok_congr valid name).symm
  have wants (settings : Settings) (capabilities : Capabilities) :
      settings.withoutCredentials.required capabilities =
        (settings.required capabilities).map (List.map id) := by
    rw [Settings.required_withoutCredentials, List.map_id_fun]
    cases settings.required capabilities <;> rfl
  have settled (name space : String) (capabilities : Capabilities) :
      Settings.normalize name space declaration.withoutCredentials.spec capabilities =
        (Settings.normalize name space declaration.spec capabilities).withoutCredentials :=
    Settings.normalize_withoutCredentials ..
  refine (plan_eq_map Settings.withoutCredentials id (fun _ => rfl) identified checked settled
    wants Settings.reads_withoutCredentials).trans ?_
  simp only [ResourceSet.map_id]
  rfl

/-- So is what is rendered. -/
theorem render_withoutCredentials {declaration : Instance} {owner : String}
    (valid : declaration.spec.validate owner = .ok ()) (capabilities : Capabilities)
    (objectsOnly : Bool) :
    declaration.withoutCredentials.render capabilities objectsOnly =
      declaration.render capabilities objectsOnly := by
  unfold render
  rw [plan_withoutCredentials valid]
  cases (declaration.plan Reader.empty (.ok capabilities)).result <;> rfl

/-- Credentials are not shown. Two instances that are accepted and differ in their credentials only
have settings that are written alike and are rendered alike, with and without the settings; and
passes over them, whatever the cluster answers, ask the same questions and end with the same failure
or with plans that look alike. -/
theorem credentials_not_shown {first second : Instance} {owner : String}
    (alike : first.withoutCredentials = second.withoutCredentials)
    (valid : first.spec.validate owner = .ok ()) (valid' : second.spec.validate owner = .ok ()) :
    (∀ name space capabilities,
        (Settings.normalize name space first.spec capabilities).encode =
          (Settings.normalize name space second.spec capabilities).encode) ∧
      (∀ capabilities objectsOnly,
        first.render capabilities objectsOnly = second.render capabilities objectsOnly) ∧
      ∀ (reader : Reader) (probe : Except Failure Capabilities),
        (first.plan reader probe).events = (second.plan reader probe).events ∧
          ((∃ failure, (first.plan reader probe).result = .error failure ∧
              (second.plan reader probe).result = .error failure) ∨
            ∃ plan other, (first.plan reader probe).result = .ok plan ∧
              (second.plan reader probe).result = .ok other ∧ plan.LooksLike other) := by
  refine ⟨fun name space capabilities => ?_, fun capabilities objectsOnly => ?_,
    fun reader probe => ?_⟩
  · have specs : first.spec.withoutCredentials = second.spec.withoutCredentials :=
      congrArg Instance.spec alike
    have written (spec : InstanceSpec) :
        (Settings.normalize name space spec.withoutCredentials capabilities).encode =
          (Settings.normalize name space spec capabilities).encode := by
      rw [Settings.normalize_withoutCredentials, Settings.encode_withoutCredentials]
    rw [← written first.spec, specs, written second.spec]
  · rw [← render_withoutCredentials valid, alike, render_withoutCredentials valid']
  · have passes := plan_withoutCredentials valid reader probe
    rw [alike, plan_withoutCredentials valid' reader probe] at passes
    obtain ⟨events, results⟩ := Trace.mk.inj passes
    exact ⟨events.symm, Plan.fails_or_looksLike results.symm⟩

/-- An instance with the password of its administrator. -/
def administered (password : String) : Instance :=
  .of (some "nexus3") (some "tools")
    { InstanceSpec.blank with credentials := some ⟨"admin", password⟩ }

/-- A change of the password is seen neither in what is rendered nor in what is asked. -/
theorem password_not_shown :
    administered "correct horse" ≠ administered "battery staple" ∧
      (administered "correct horse").render .none false =
        (administered "battery staple").render .none false ∧
      ((administered "correct horse").plan Reader.empty (.ok .none)).events =
        ((administered "battery staple").plan Reader.empty (.ok .none)).events := by
  have alike : (administered "correct horse").withoutCredentials =
      (administered "battery staple").withoutCredentials := rfl
  have valid : (administered "correct horse").spec.validate "nexus3" = .ok () := rfl
  have valid' : (administered "battery staple").spec.validate "nexus3" = .ok () := rfl
  obtain ⟨_, rendered, passes⟩ := credentials_not_shown alike valid valid'
  refine ⟨fun same => ?_, rendered .none false, (passes Reader.empty (.ok .none)).1⟩
  have passwords := congrArg (fun declaration => declaration.spec.credentials) same
  exact absurd passwords (by decide)

end Instance

end Converge
