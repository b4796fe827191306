import Converge.Api.Discovery
import Converge.Proofs.Instance.Validation
import Converge.Proofs.Plan.Reading

/-!
# Failures are told of the instance

A failure of a pass comes from one of many places, and some of them do not know the instance: a
reader knows the object that it was asked for, and the account of an instance may have a name of its
own. `Reader.BlamesAsked` is what is expected of a reader, and clients of a cluster meet it
(`Client.read_blamesAsked`). Of a failure at the account the pass then tells the instance
(`Settings.toldOf_tell`); at all other places the object has the name of the instance already. What
is refused without reading is told of the instance from the beginning (`Instance.Refused.toldOf`).

`Instance.failures_told_of_instance` puts this together over the ways in which a pass ends
(`Instance.Ends`). Telling a failure of another instance keeps its kind and whether it may pass by
itself.
-/

namespace Converge

namespace Failure

/-- A failure is told of the instance of a name, or of none. -/
def ToldOf (failure : Failure) (name : String) : Prop :=
  failure.owner? = none ∨ failure.owner? = some name

/-- Whether a failure says that an object could not be read. -/
def isUnreadable : Failure → Bool
  | unreadable .. => true
  | cluster _ | invalid .. | unavailable .. | malformed .. | internal .. => false

variable (failure : Failure) (name owner : String)

/-- Whom a failure is told of does not change the kind that it is about. -/
theorem kind?_attribute : (failure.attribute name owner).kind? = failure.kind? := by
  cases failure <;> rfl

/-- Nor does it change whether another try is worth it. -/
theorem isRetryable_attribute :
    (failure.attribute name owner).isRetryable = failure.isRetryable := by
  cases failure <;> rfl

variable {failure}

/-- A failure to read names an instance. -/
theorem isUnreadable_eq_false_of_owner? (silent : failure.owner? = none) :
    failure.isUnreadable = false := by
  cases failure with
  | unreadable kind told message => cases silent
  | _ => rfl

/-- A failure that is no failure to read is told as it is. -/
theorem attribute_of_isUnreadable_eq_false (other : failure.isUnreadable = false) :
    failure.attribute name owner = failure := by
  cases failure with
  | unreadable kind told message => cases other
  | _ => rfl

end Failure

/-! ## Failures of one place -/

/-- A reader blames the object asked for, if any: a failure names no instance, or it says that the
object of the kind and the name could not be read. -/
def Reader.BlamesAsked (reader : Reader) : Prop :=
  ∀ key failure, reader key = .error failure →
    failure.owner? = none ∨ ∃ message, failure = .unreadable key.kind.name key.name message

/-- So do the clients of a cluster. -/
theorem Client.read_blamesAsked (transport : Transport) : (read transport).BlamesAsked := by
  intro key failure failed
  unfold read at failed
  split at failed
  · cases failed
  · split at failed <;> cases failed
    exact .inr ⟨_, rfl⟩

/-- The discovery of what a cluster offers does not name an instance when it fails. -/
theorem Discovery.owner?_of_probe {transport : Transport} {failure : Failure}
    (failed : probe transport = .error failure) : failure.owner? = none := by
  unfold probe at failed
  cases ended : (capabilities transport).result with
  | ok offered =>
    rw [ended] at failed
    cases failed
  | error error =>
    rw [ended] at failed
    cases failed
    rfl

/-- What is no object of its kind is reported with the kind. -/
theorem Resource.decode_of_decodeValue {kind : Kind} {value : Json} {error : DecodeError}
    (malformed : decodeValue kind value = .error error) :
    decode kind value =
      .error (.malformed s!"failed to decode: {error.message}" (some kind.name)) := by
  rw [decode, malformed]
  rfl

/-- Reading an object fails in no other way. -/
theorem Resource.exists_of_decode {kind : Kind} {value : Json} {failure : Failure}
    (failed : decode kind value = .error failure) :
    ∃ message, failure = .malformed message (some kind.name) := by
  cases made : decodeValue kind value with
  | ok object =>
    rw [decode, made] at failed
    cases failed
  | error error =>
    rw [decode_of_decodeValue made] at failed
    cases failed
    exact ⟨_, rfl⟩

namespace Settings

variable {settings : Settings} {capabilities : Capabilities} {key : Key} {failure : Failure}

/-- Telling a failure of the instance keeps the kind that it is about. -/
theorem kind?_tell : (settings.tell key failure).kind? = failure.kind? := by
  unfold tell
  split
  · exact Failure.kind?_attribute ..
  · rfl

/-- It also keeps whether another try is worth it. -/
theorem isRetryable_tell : (settings.tell key failure).isRetryable = failure.isRetryable := by
  unfold tell
  split
  · exact Failure.isRetryable_attribute ..
  · rfl

/-- A failure that is no failure to read is told as it is. -/
theorem tell_of_isUnreadable_eq_false (other : failure.isUnreadable = false) :
    settings.tell key failure = failure := by
  unfold tell
  split
  · exact Failure.attribute_of_isUnreadable_eq_false _ _ other
  · rfl

/-- What is read belongs to the place of its kind. -/
theorem place_of_mem_keys (listed : key ∈ settings.keys capabilities) :
    key = settings.place key.kind := by
  have requested : settings.requestAt key ∈ settings.reads capabilities := by
    rw [reads_eq_map_keys]
    exact List.mem_map_of_mem listed
  rw [reads_eq_filterMap] at requested
  obtain ⟨kind, _, request⟩ := List.mem_filterMap.1 requested
  have placed : key = settings.place kind := key_of_request? request
  rw [placed]
  rfl

/-- The account is the only object whose name may be another one than that of the instance. -/
theorem nameOf_of_ne {kind : Kind} (other : kind ≠ .serviceAccount) :
    settings.nameOf kind = settings.name := by
  cases kind with
  | serviceAccount => exact absurd rfl other
  | _ => rfl

/-- A failure to read an object of an instance is told of the instance. -/
theorem owner?_tell_unreadable (listed : key ∈ settings.keys capabilities) (message : String) :
    (settings.tell key (.unreadable key.kind.name key.name message)).owner? =
      some settings.name := by
  unfold tell
  split
  · rfl
  · next other =>
    have named : key.name = settings.nameOf key.kind :=
      congrArg Key.name (place_of_mem_keys listed)
    rw [Failure.owner?, named, nameOf_of_ne other]

/-- Whatever is found wrong with a place of an instance is told of the instance, or of none. -/
theorem toldOf_tell {reader : Reader} (blames : reader.BlamesAsked)
    (listed : key ∈ settings.keys capabilities) (fails : reader.Fails key failure) :
    (settings.tell key failure).ToldOf settings.name := by
  rcases fails with raised | ⟨value, _, malformed⟩
  · rcases blames key failure raised with silent | ⟨message, rfl⟩
    · rw [tell_of_isUnreadable_eq_false (Failure.isUnreadable_eq_false_of_owner? silent)]
      exact .inl silent
    · exact .inr (owner?_tell_unreadable listed message)
  · obtain ⟨message, rfl⟩ := Resource.exists_of_decode malformed
    rw [tell_of_isUnreadable_eq_false rfl]
    exact .inl rfl

end Settings

/-! ## Failures before anything is read -/

private theorem error_of_bind {ε α β : Type} {first : Except ε α} {next : α → Except ε β}
    {failure : ε} (failed : first >>= next = .error failure) :
    first = .error failure ∨ ∃ value, first = .ok value ∧ next value = .error failure := by
  cases first with
  | error other =>
    cases failed
    exact .inl rfl
  | ok value => exact .inr ⟨value, rfl, failed⟩

namespace Facet

variable {settings : Settings} {capabilities : Capabilities} {failure : Failure}

private theorem owner?_of_requireServed {served : Bool} {kind : Kind}
    (refused : requireServed settings served kind = .error failure) :
    failure.owner? = some settings.name ∧ failure.isUnreadable = false := by
  cases served with
  | false =>
    cases refused
    exact ⟨rfl, rfl⟩
  | true => cases refused

private theorem owner?_of_requireHost (refused : requireHost settings = .error failure) :
    failure.owner? = some settings.name ∧ failure.isUnreadable = false := by
  unfold requireHost at refused
  split at refused <;> cases refused
  exact ⟨rfl, rfl⟩

/-- A facet that cannot have what it wants tells the instance. -/
theorem owner?_of_requiredExposure
    (refused : requiredExposure settings capabilities = .error failure) :
    failure.owner? = some settings.name ∧ failure.isUnreadable = false := by
  unfold requiredExposure at refused
  cases exposed : settings.exposure with
  | none =>
    rw [exposed] at refused
    cases refused
  | some exposure =>
    rw [exposed] at refused
    cases exposure with
    | nodePort =>
      dsimp only at refused
      split at refused <;> cases refused
      exact ⟨rfl, rfl⟩
    | route | ingress =>
      rcases error_of_bind refused with unserved | ⟨_, _, refused⟩
      · exact owner?_of_requireServed unserved
      · rcases error_of_bind refused with unknown | ⟨_, _, refused⟩
        · exact owner?_of_requireHost unknown
        · cases refused

end Facet

namespace Instance

variable {reader : Reader} {probe : Except Failure Capabilities} {declaration : Instance}
  {name : String}

/-- What is refused without reading is told of the instance, or of none, and is no failure to
read. -/
theorem Refused.toldOf {asked : List Access} {failure : Failure}
    (refused : declaration.Refused probe asked failure)
    (named : declaration.metadata.name = some name) (given : name ≠ "")
    (silent : ∀ failure, probe = .error failure → failure.owner? = none) :
    failure.ToldOf name ∧ failure.isUnreadable = false := by
  have same {other space : String} (identified : declaration.Named other space) : other = name :=
    Option.some.inj (identified.name_eq.symm.trans named)
  cases refused with
  | unnamed blank =>
    rw [named] at blank
    exact absurd blank given
  | unplaced identified _ _ =>
    cases identified.symm.trans named
    exact ⟨.inr rfl, rfl⟩
  | invalid identified fault =>
    obtain ⟨field, message, rfl⟩ := InstanceSpec.exists_field_of_validate fault
    exact ⟨.inr (congrArg some (same identified)), rfl⟩
  | unprobed _ _ failed =>
    have unnamed := silent failure failed
    exact ⟨.inl unnamed, Failure.isUnreadable_eq_false_of_owner? unnamed⟩
  | unattainable identified _ _ refused =>
    obtain ⟨told, other⟩ := Facet.owner?_of_requiredExposure refused
    exact ⟨.inr (told.trans (congrArg some (same identified))), other⟩

/-- Nothing is read before. -/
theorem Refused.reads_eq_nil {asked : List Access} {failure : Failure}
    (refused : declaration.Refused probe asked failure) :
    Pass.reads (⟨asked, .error failure⟩ : Pass Plan) = [] := by
  cases refused <;> rfl

/-! ## All failures of a pass -/

/-- The places that a pass reads after it has asked for the capabilities. -/
theorem reads_of_events (keys : List Key) (result : Except Failure Plan) :
    Pass.reads (⟨.probe :: keys.map .read, result⟩ : Pass Plan) = keys := by
  simp [Pass.reads, List.filterMap_map]

/-- How a pass ends: it is refused before anything is read, or something is found out about all of
its places, or it fails at the first place about which nothing is found out. -/
inductive Ends (reader : Reader) (probe : Except Failure Capabilities) (declaration : Instance) :
    Pass Plan → Prop where
  | refused {asked : List Access} {failure : Failure}
      (refused : declaration.Refused probe asked failure) :
      Ends reader probe declaration ⟨asked, .error failure⟩
  | found {settings : Settings} {capabilities : Capabilities} {plan : Plan}
      (finds : ∀ key ∈ settings.keys capabilities, ∃ object?, reader.Finds key object?) :
      Ends reader probe declaration ⟨.probe :: (settings.keys capabilities).map .read, .ok plan⟩
  | failed {settings : Settings} {capabilities : Capabilities} {before : List Key} {key : Key}
      {failure : Failure} (named : declaration.metadata.name = some settings.name)
      (first : reader.FailsFirst (settings.keys capabilities) before key failure) :
      Ends reader probe declaration
        ⟨.probe :: (before ++ [key]).map .read, .error (settings.tell key failure)⟩

/-- Every pass ends in one of these ways. -/
theorem plan_ends (reader : Reader) (probe : Except Failure Capabilities)
    (declaration : Instance) :
    Ends reader probe declaration (declaration.plan reader probe) := by
  rcases refused_or_admitted probe declaration with
    ⟨asked, failure, refused⟩ | ⟨settings, capabilities, admitted⟩
  · rw [plan_of_refused refused]
    exact .refused refused
  · obtain ⟨make, _, passed⟩ := plan_of_admitted admitted reader
    rw [passed, Settings.reads_eq_map_keys]
    rcases reader.finds_or_failsFirst (settings.keys capabilities) with
      finds | ⟨before, key, failure, first⟩
    · choose! found finds using finds
      rw [ReadRequest.passAll_of_finds finds]
      exact .found fun key listed => ⟨found key, finds key listed⟩
    · rw [ReadRequest.passAll_of_failsFirst first]
      exact .failed admitted.named.name_eq first

variable {pass : Pass Plan}

/-- A failure of the pass is told of the instance, or of none. -/
theorem Ends.toldOf (ends : Ends reader probe declaration pass)
    (named : declaration.metadata.name = some name) (given : name ≠ "")
    (silent : ∀ failure, probe = .error failure → failure.owner? = none)
    (blames : reader.BlamesAsked) {failure : Failure} (failed : pass.result = .error failure) :
    failure.ToldOf name := by
  cases ends with
  | refused refused =>
    cases failed
    exact (refused.toldOf named given silent).1
  | found finds => cases failed
  | failed identified first =>
    cases failed
    cases identified.symm.trans named
    obtain ⟨⟨after, split⟩, _, fails⟩ := first
    exact Settings.toldOf_tell blames (split ▸ List.mem_append_right _ List.mem_cons_self) fails

/-- If it is a failure to read, it is told of the instance, and it is what the reader raised at the
place that was read last: about the kind of this place, and worth another try if that is. -/
theorem Ends.unreadable (ends : Ends reader probe declaration pass)
    (named : declaration.metadata.name = some name) (given : name ≠ "")
    (silent : ∀ failure, probe = .error failure → failure.owner? = none)
    (blames : reader.BlamesAsked) {failure : Failure} (failed : pass.result = .error failure)
    (unread : failure.isUnreadable = true) :
    failure.owner? = some name ∧ ∃ key raised, pass.reads.getLast? = some key ∧
      reader key = .error raised ∧ failure.kind? = some key.kind.name ∧
      failure.kind? = raised.kind? ∧ failure.isRetryable = raised.isRetryable := by
  -- A failure that names no instance is no failure to read, so this one names it.
  have told : failure.owner? = some name := by
    rcases ends.toldOf named given silent blames failed with unnamed | told
    · cases unread.symm.trans (Failure.isUnreadable_eq_false_of_owner? unnamed)
    · exact told
  refine ⟨told, ?_⟩
  cases ends with
  | refused refused =>
    cases failed
    cases unread.symm.trans (refused.toldOf named given silent).2
  | found finds => cases failed
  | @failed settings capabilities before key raised identified first =>
    cases failed
    rcases first.fails with fails | ⟨value, _, malformed⟩
    · refine ⟨key, raised, ?_, fails, ?_, Settings.kind?_tell, Settings.isRetryable_tell⟩
      · rw [reads_of_events, List.getLast?_concat]
      · rcases blames key raised fails with unnamed | ⟨message, rfl⟩
        · have other := Failure.isUnreadable_eq_false_of_owner? unnamed
          rw [Settings.tell_of_isUnreadable_eq_false other] at unread
          cases unread.symm.trans other
        · exact Settings.kind?_tell
    -- What is there and is no object of its kind has been read.
    · obtain ⟨message, rfl⟩ := Resource.exists_of_decode malformed
      rw [Settings.tell_of_isUnreadable_eq_false rfl] at unread
      cases unread

/-- What is found wrong with a place that is read is the failure of the pass, told of the
instance. -/
theorem Ends.result_of_fails (ends : Ends reader probe declaration pass) {key : Key}
    {failure : Failure} (read : key ∈ pass.reads) (fails : reader.Fails key failure) :
    ∃ settings : Settings, pass.result = .error (settings.tell key failure) := by
  have fetched := Reader.fetch_eq_error_iff.2 fails
  have contradicts {object? : Option Resource} (finds : reader.Finds key object?) : False := by
    cases (Reader.fetch_eq_ok_iff.2 finds).symm.trans fetched
  cases ends with
  | refused refused =>
    rw [refused.reads_eq_nil] at read
    exact absurd read List.not_mem_nil
  | found finds =>
    rw [reads_of_events] at read
    obtain ⟨object?, finds⟩ := finds key read
    exact (contradicts finds).elim
  | @failed settings capabilities before last other identified first =>
    rw [reads_of_events] at read
    rcases List.mem_append.1 read with earlier | here
    · obtain ⟨object?, finds⟩ := first.found key earlier
      exact (contradicts finds).elim
    · cases List.mem_singleton.1 here
      cases (Reader.fetch_eq_error_iff.2 first.fails).symm.trans fetched
      exact ⟨settings, rfl⟩

/-- Against a cluster, where both the capabilities and the objects are asked for with requests, no
failure is told of anything but the instance. -/
theorem toldOf_of_transport (transport : Transport)
    (named : declaration.metadata.name = some name) (given : name ≠ "") {failure : Failure}
    (failed : (declaration.plan (Client.read transport) (Discovery.probe transport)).result =
      .error failure) : failure.ToldOf name :=
  (plan_ends ..).toldOf named given (fun _ => Discovery.owner?_of_probe)
    (Client.read_blamesAsked transport) failed

/-- Every failure of a pass over a named instance is told of the instance, or of none. A failure to
read is told of the instance; it is about the kind of the place that was read last, and is worth
another try if what the reader raised there is. Whatever a reader raises at a place that is read ends
the pass with a failure of the same kind, worth another try in the same cases; and what is there and
is no object of its kind ends it with a failure that names the kind and is not worth another try. -/
theorem failures_told_of_instance (named : declaration.metadata.name = some name)
    (given : name ≠ "") (silent : ∀ failure, probe = .error failure → failure.owner? = none)
    (blames : reader.BlamesAsked) :
    (∀ failure, (declaration.plan reader probe).result = .error failure → failure.ToldOf name) ∧
      (∀ failure, (declaration.plan reader probe).result = .error failure →
        failure.isUnreadable = true →
          failure.owner? = some name ∧
            ∃ key raised, (declaration.plan reader probe).reads.getLast? = some key ∧
              reader key = .error raised ∧ failure.kind? = some key.kind.name ∧
              failure.kind? = raised.kind? ∧ failure.isRetryable = raised.isRetryable) ∧
      ∀ key ∈ (declaration.plan reader probe).reads,
        (∀ raised, reader key = .error raised →
          ∃ failure, (declaration.plan reader probe).result = .error failure ∧
            failure.kind? = raised.kind? ∧ failure.isRetryable = raised.isRetryable) ∧
        ∀ value error, reader key = .ok (some value) →
          Resource.decodeValue key.kind value = .error error →
            ∃ failure, (declaration.plan reader probe).result = .error failure ∧
              failure = .malformed s!"failed to decode: {error.message}" (some key.kind.name) ∧
              failure.isRetryable = false := by
  have ends := plan_ends reader probe declaration
  refine ⟨fun failure failed => ends.toldOf named given silent blames failed,
    fun failure failed unread => ends.unreadable named given silent blames failed unread,
    fun key read => ⟨fun raised fails => ?_, fun value error stored malformed => ?_⟩⟩
  · obtain ⟨settings, failed⟩ := ends.result_of_fails read (.inl fails)
    exact ⟨_, failed, Settings.kind?_tell, Settings.isRetryable_tell⟩
  · have decoded := Resource.decode_of_decodeValue malformed
    obtain ⟨settings, failed⟩ := ends.result_of_fails read (.inr ⟨value, stored, decoded⟩)
    rw [Settings.tell_of_isUnreadable_eq_false rfl] at failed
    exact ⟨_, failed, rfl, rfl⟩

/-- A cluster that answers every request with the same error. -/
def unavailableTransport : Transport := fun _ => ⟨503, ""⟩

/-- An instance whose account has a name of its own. -/
def builderInstance : Instance :=
  .of (some "releases") (some "tools")
    { InstanceSpec.blank with serviceAccountName := some "builder" }

/-- Where the account of another name cannot be read, the failure is about accounts and worth another
try, and it is not told of the account. -/
theorem failures_told_of_builderInstance :
    ∃ failure,
      (builderInstance.plan (Client.read unavailableTransport) (.ok .none)).result =
        .error failure ∧
      failure.owner? ≠ some "builder" ∧ failure.kind? = some "ServiceAccount" ∧
      failure.isRetryable = true := by
  have named : builderInstance.metadata.name = some "releases" := rfl
  have silent (failure : Failure) (failed : Except.ok Capabilities.none = .error failure) :
      failure.owner? = none := nomatch failed
  obtain ⟨told, _, raised⟩ := failures_told_of_instance named (by decide) silent
    (Client.read_blamesAsked unavailableTransport)
  have read : (builderInstance.plan (Client.read unavailableTransport) (.ok .none)).reads =
      [⟨.serviceAccount, "tools", "builder"⟩] := rfl
  obtain ⟨fails, _⟩ := raised ⟨.serviceAccount, "tools", "builder"⟩ (by simp [read])
  obtain ⟨failure, failed, kind, retryable⟩ := fails _ rfl
  refine ⟨failure, failed, ?_, kind, retryable⟩
  rcases told failure failed with unnamed | named
  · rw [unnamed]
    decide
  · rw [named]
    decide

end Instance

end Converge
