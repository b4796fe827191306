import Converge.Facet.Exposure

/-!
# Secrets of an ingress

An ingress may be given secrets one after the other. Each of them reads the hosts off the rules anew
and puts itself in the place of all encryption that it finds. The rules are only read, so after any
number of secrets the ingress is as it was beside its encryption
(`Ingress.foldl_withTlsSecret_kept`), and the last secret does what it would have done alone
(`Ingress.foldl_withTlsSecret_concat`).

Which hosts these are is said without looking at how they are gathered: `Ingress.Covers` goes
through the rules one by one. It relates one list of hosts to each list of rules
(`Ingress.covers_iff`), and `Ingress.foldl_withTlsSecret_covers` puts all of this together.
-/

namespace Converge.Ingress

/-- Hosts cover rules if they are the hosts of those rules that have one, rule by rule; a host of
several rules is there several times. -/
inductive Covers : List String → List IngressRule → Prop where
  | nil : Covers [] []
  | hostless {rule : IngressRule} {hosts : List String} {rules : List IngressRule}
      (absent : rule.host = none) (behind : Covers hosts rules) : Covers hosts (rule :: rules)
  | hosted {rule : IngressRule} {host : String} {hosts : List String} {rules : List IngressRule}
      (named : rule.host = some host) (behind : Covers hosts rules) :
      Covers (host :: hosts) (rule :: rules)

/-- The hosts that are gathered from rules cover the rules, and no other hosts do. -/
theorem covers_iff {hosts : List String} {rules : List IngressRule} :
    Covers hosts rules ↔ hosts = rules.filterMap (·.host) := by
  constructor
  · intro covers
    induction covers with
    | nil => rfl
    | hostless absent _ ih => rw [List.filterMap_cons_none absent, ih]
    | hosted named _ ih => rw [List.filterMap_cons_some named, ih]
  · rintro rfl
    induction rules with
    | nil => exact .nil
    | cons rule rules ih =>
      cases named : rule.host with
      | none =>
        rw [List.filterMap_cons_none named]
        exact .hostless named ih
      | some host =>
        rw [List.filterMap_cons_some named]
        exact .hosted named ih

/-- An ingress with other encryption, and all else as it was. -/
def withTls (ingress : Ingress) (tls : List IngressTls) : Ingress :=
  { ingress with spec := { ingress.spec with tls } }

/-- A secret looks at the rules of an ingress and not at its encryption, which it replaces. -/
theorem withTlsSecret_withTls (ingress : Ingress) (tls : List IngressTls) (secret : String) :
    (ingress.withTls tls).withTlsSecret secret = ingress.withTlsSecret secret := rfl

/-- Secrets change nothing of an ingress but its encryption. -/
theorem foldl_withTlsSecret_kept (ingress : Ingress) (secrets : List String) :
    ∃ tls, secrets.foldl withTlsSecret ingress = ingress.withTls tls := by
  induction secrets generalizing ingress with
  | nil => exact ⟨ingress.spec.tls, rfl⟩
  | cons secret rest ih =>
    obtain ⟨tls, kept⟩ := ih (ingress.withTlsSecret secret)
    exact ⟨tls, kept⟩

/-- Of several secrets the last one counts, as if there had been no others. -/
theorem foldl_withTlsSecret_concat (ingress : Ingress) (earlier : List String) (last : String) :
    (earlier ++ [last]).foldl withTlsSecret ingress = ingress.withTlsSecret last := by
  obtain ⟨tls, kept⟩ := ingress.foldl_withTlsSecret_kept earlier
  rw [List.foldl_append, kept]
  exact ingress.withTlsSecret_withTls tls last

/-- Whatever secrets an ingress is given, only its encryption changes. Without a secret this stays
as well. Otherwise it is a single entry, with the last of the secrets and with the hosts that cover
the rules. -/
theorem foldl_withTlsSecret_covers (ingress : Ingress) (secrets : List String) :
    let secured := secrets.foldl withTlsSecret ingress
    secured = ingress.withTls secured.spec.tls ∧
      (secrets = [] → secured.spec.tls = ingress.spec.tls) ∧
      ∀ last ∈ secrets.getLast?, ∃ hosts, Covers hosts ingress.spec.rules ∧
        secured.spec.tls = [⟨hosts, some last⟩] := by
  intro secured
  refine ⟨?_, ?_, fun last latest => ?_⟩
  · obtain ⟨tls, kept⟩ : ∃ tls, secured = ingress.withTls tls :=
      ingress.foldl_withTlsSecret_kept secrets
    rw [kept]
    rfl
  · rintro rfl
    rfl
  · obtain ⟨earlier, rfl⟩ := List.getLast?_eq_some_iff.1 latest
    have alone : secured = ingress.withTlsSecret last :=
      ingress.foldl_withTlsSecret_concat earlier last
    rw [alone]
    exact ⟨_, covers_iff.2 rfl, rfl⟩

/-- Encryption for a host that is no longer served stays until a secret comes. Then a rule without
a host is passed, and a host of two rules is there twice. -/
theorem covers_of_renewed_secret :
    let rules : List IngressRule :=
      [⟨some "a.example.com", none⟩, ⟨none, none⟩, ⟨some "b.example.com", none⟩,
        ⟨some "a.example.com", none⟩]
    let shared : Ingress :=
      .of (.ofInstance "nexus3" "tools") { rules, tls := [⟨["old.example.com"], none⟩] }
    ([].foldl withTlsSecret shared).spec.tls = [⟨["old.example.com"], none⟩] ∧
      (["nexus-tls", "renewed-tls"].foldl withTlsSecret shared).spec.tls =
        [⟨["a.example.com", "b.example.com", "a.example.com"], some "renewed-tls"⟩] := by
  intro rules shared
  refine ⟨(foldl_withTlsSecret_covers shared []).2.1 rfl, ?_⟩
  obtain ⟨hosts, covers, entry⟩ :=
    (foldl_withTlsSecret_covers shared ["nexus-tls", "renewed-tls"]).2.2 "renewed-tls" rfl
  rw [entry, covers_iff.1 covers]
  rfl

end Converge.Ingress
