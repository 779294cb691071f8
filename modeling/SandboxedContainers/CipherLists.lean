import SandboxedContainers.ConsoleTLS

/-!
# The ciphers the console plugin is served with

nginx takes the ciphers of TLS 1.2 from `ssl_ciphers` and the suites of TLS 1.3 from
`Ciphersuites`, two lists of names with colons between them.  The names of a profile
are told apart by how they begin, filtered, and written into the two lists; a list
that would be empty is replaced by the one of the defaults.
-/

namespace SandboxedContainers

open Lib

namespace CipherLists

def names (directive : String) : List String := Text.split ':' directive

def served (cipher : String) : Bool :=
  !Text.startsWith "TLS_" cipher && !isDHECipher cipher && !isWeakCipher cipher

theorem served_iff {cipher : String} : served cipher = true ↔
    Text.startsWith "TLS_" cipher = false ∧ isDHECipher cipher = false ∧ isWeakCipher cipher = false := by
  simp [served, and_assoc]

theorem legacyCiphers_eq (ciphers : List String) :
    consolePluginFilterWeakCiphers (consolePluginFilterDHECiphers (consolePluginSplitCipherSuites ciphers).1) =
      ciphers.filter served := by
  simp only [consolePluginFilterWeakCiphers, consolePluginFilterDHECiphers, consolePluginSplitCipherSuites,
    List.partition_eq_filter_filter, List.filter_filter]
  congr 1
  funext cipher
  rw [served, Bool.and_comm, Bool.and_comm (!isDHECipher cipher)]

theorem tls13Suites_eq (ciphers : List String) :
    (consolePluginSplitCipherSuites ciphers).2 = ciphers.filter (Text.startsWith "TLS_") := by
  simp [consolePluginSplitCipherSuites, List.partition_eq_filter_filter, Function.comp_def]

/-- The names a rendered list holds: those of the profile that are written to it, or the
default ones where there is none. -/
theorem names_joined (written : List String) (default : String) :
    names (if written ≠ [] then Text.join ':' written else default) =
      if written ≠ [] then written.flatMap names else names default := by
  split
  · exact Text.split_join ‹_›
  · rfl

theorem names_defaultCiphers : names consolePluginDefaultCiphers =
    ["ECDHE-ECDSA-AES128-GCM-SHA256", "ECDHE-RSA-AES128-GCM-SHA256", "ECDHE-ECDSA-AES256-GCM-SHA384",
      "ECDHE-RSA-AES256-GCM-SHA384", "ECDHE-ECDSA-CHACHA20-POLY1305", "ECDHE-RSA-CHACHA20-POLY1305"] := by
  decide +kernel

theorem names_defaultCipherSuites : names consolePluginDefaultCipherSuites =
    ["TLS_AES_128_GCM_SHA256", "TLS_AES_256_GCM_SHA384", "TLS_CHACHA20_POLY1305_SHA256"] := by
  decide +kernel

theorem served_defaultCiphers : ∀ cipher ∈ names consolePluginDefaultCiphers, served cipher = true := by
  rw [names_defaultCiphers]
  decide +kernel

section Rendered

variable (profiles : TLSProfiles) (profile : TLSSecurityProfile)

theorem names_ciphers : names (consolePluginTLSProfileToNginx profiles profile).ciphers =
    if (consolePluginTLSProfileSpec profiles profile).ciphers.filter served ≠ [] then
      ((consolePluginTLSProfileSpec profiles profile).ciphers.filter served).flatMap names
    else names consolePluginDefaultCiphers := by
  rw [← names_joined, ← legacyCiphers_eq]
  rfl

theorem names_ciphersuites : names (consolePluginTLSProfileToNginx profiles profile).ciphersuites =
    if (consolePluginTLSProfileSpec profiles profile).ciphers.filter (Text.startsWith "TLS_") ≠ [] then
      ((consolePluginTLSProfileSpec profiles profile).ciphers.filter (Text.startsWith "TLS_")).flatMap names
    else names consolePluginDefaultCipherSuites := by
  rw [← names_joined, ← tls13Suites_eq]
  rfl

end Rendered

/-! ### Strict adherence -/

/-- The spec a strict component has to honour: the one the profile names, with
Intermediate where it names none.  A profile that cannot be honoured has none. -/
def honoured (profiles : TLSProfiles) (profile : TLSSecurityProfile) : Option TLSProfileSpec :=
  match profile.type with
  | .unset => some profiles.intermediate
  | .custom => profile.custom
  | named => profiles.lookup named

theorem honoured_of_resolvable {profiles : TLSProfiles} {profile : TLSSecurityProfile}
    (resolvable : consolePluginTLSProfileResolvable profile = true) :
    honoured profiles profile = some (consolePluginTLSProfileSpec profiles profile) := by
  obtain ⟨type, custom⟩ := profile
  cases type with
  | custom =>
    obtain ⟨spec, rfl⟩ := Option.isSome_iff_exists.mp resolvable
    rfl
  | unrecognised name => cases resolvable
  | _ => rfl

theorem isStrict_iff {policy : TLSAdherencePolicy} : consolePluginTLSAdherenceIsStrict policy = true ↔
    policy = .strictAllComponents ∨ ∃ value, policy = .unrecognised value := by
  cases policy <;> simp [consolePluginTLSAdherenceIsStrict]

theorem rendered_strict {profiles : TLSProfiles} {apiServer : APIServer} {profile : TLSSecurityProfile}
    {directives : ConsolePluginNginxTLSDirectives} (configured : apiServer.tlsSecurityProfile = some profile)
    (strict : consolePluginTLSAdherenceIsStrict apiServer.tlsAdherence = true)
    (rendered : nginxTLSFromCluster profiles (.ok apiServer) = .ok directives) :
    consolePluginTLSProfileResolvable profile = true ∧
      directives = consolePluginTLSProfileToNginx profiles profile := by
  simp only [nginxTLSFromCluster, configured, strict, Bool.true_and] at rendered
  split at rendered
  · cases rendered
  · next resolvable =>
    cases rendered
    exact ⟨by simpa using resolvable, rfl⟩

theorem tls12_rendered_iff {version : TLSProtocolVersion} :
    "TLSv1.2" ∈ Text.split ' ' (consolePluginNginxProtocols version) ↔ version ≠ .versionTLS13 := by
  cases version with
  | versionTLS13 => decide +kernel
  | _ =>
    refine iff_of_true ?_ nofun
    change "TLSv1.2" ∈ Text.split ' ' "TLSv1.2 TLSv1.3"
    decide +kernel

/-- `ssl_ciphers` keeps to a list of ciphers exactly if one of them is written to it, so
that it is not the default one, and a name that has colons in it is read as names of
the list. -/
theorem names_ciphers_within_iff (profiles : TLSProfiles) (profile : TLSSecurityProfile) :
    (∀ cipher ∈ names (consolePluginTLSProfileToNginx profiles profile).ciphers,
        cipher ∈ (consolePluginTLSProfileSpec profiles profile).ciphers) ↔
      (∃ cipher ∈ (consolePluginTLSProfileSpec profiles profile).ciphers, served cipher = true) ∧
        ∀ cipher ∈ (consolePluginTLSProfileSpec profiles profile).ciphers, served cipher = true →
          ∀ piece ∈ names cipher, piece ∈ (consolePluginTLSProfileSpec profiles profile).ciphers := by
  rw [names_ciphers]
  generalize (consolePluginTLSProfileSpec profiles profile).ciphers = ciphers
  have written_iff : ciphers.filter served ≠ [] ↔ ∃ cipher ∈ ciphers, served cipher = true := by
    simp [List.filter_eq_nil_iff]
  split
  · next written =>
    have pieces : (∀ cipher ∈ (ciphers.filter served).flatMap names, cipher ∈ ciphers) ↔
        ∀ cipher ∈ ciphers, served cipher = true → ∀ piece ∈ names cipher, piece ∈ ciphers := by
      simp only [List.mem_flatMap, List.mem_filter]
      constructor
      · intro within cipher member isServed piece pieceMember
        exact within piece ⟨cipher, ⟨member, isServed⟩, pieceMember⟩
      · rintro within piece ⟨cipher, ⟨member, isServed⟩, pieceMember⟩
        exact within cipher member isServed piece pieceMember
    rw [pieces]
    exact (and_iff_right (written_iff.mp written)).symm
  · next unwritten =>
    -- A default cipher that is in the list would have been written.
    refine iff_of_false ?_ fun holds => unwritten (written_iff.mpr holds.1)
    intro within
    have first : "ECDHE-ECDSA-AES128-GCM-SHA256" ∈ names consolePluginDefaultCiphers := by
      rw [names_defaultCiphers]
      exact List.mem_cons_self
    exact unwritten (written_iff.mpr ⟨_, within _ first, served_defaultCiphers _ first⟩)

end CipherLists

open CipherLists

/-- Under strict adherence the ciphers of TLS 1.2 are ciphers of the honoured profile
exactly if TLS 1.2 is not served, or some cipher of the profile passes the filters and
those that pass are read back, piece by piece, as ciphers of the profile. -/
theorem strictTLS_within_profile_iff (profiles : TLSProfiles) (apiServer : APIServer)
    (profile : TLSSecurityProfile) (directives : ConsolePluginNginxTLSDirectives)
    (configured : apiServer.tlsSecurityProfile = some profile)
    (strict : apiServer.tlsAdherence = .strictAllComponents ∨
      ∃ value, apiServer.tlsAdherence = .unrecognised value)
    (rendered : nginxTLSFromCluster profiles (.ok apiServer) = .ok directives) :
    ∃ spec, honoured profiles profile = some spec ∧
      (("TLSv1.2" ∈ Text.split ' ' directives.protocols →
          ∀ cipher ∈ names directives.ciphers, cipher ∈ spec.ciphers) ↔
        spec.minTLSVersion = .versionTLS13 ∨
          (∃ cipher ∈ spec.ciphers, served cipher = true) ∧
            ∀ cipher ∈ spec.ciphers, served cipher = true → ∀ piece ∈ names cipher, piece ∈ spec.ciphers) := by
  obtain ⟨resolvable, rfl⟩ := rendered_strict configured (isStrict_iff.mpr strict) rendered
  refine ⟨_, honoured_of_resolvable resolvable, ?_⟩
  rw [← names_ciphers_within_iff profiles profile]
  change ("TLSv1.2" ∈ Text.split ' ' (consolePluginNginxProtocols _) → _) ↔ _
  rw [tls12_rendered_iff, ne_eq, ← or_iff_not_imp_left]

def exampleProfiles : TLSProfiles where
  old := ⟨["TLS_AES_128_GCM_SHA256", "ECDHE-RSA-AES128-GCM-SHA256", "AES128-SHA"], .versionTLS10⟩
  intermediate := ⟨["TLS_AES_128_GCM_SHA256", "ECDHE-RSA-AES128-GCM-SHA256"], .versionTLS12⟩
  modern := ⟨["TLS_AES_128_GCM_SHA256"], .versionTLS13⟩

def strictCustom (ciphers : List String) : APIServer where
  tlsAdherence := .strictAllComponents
  tlsSecurityProfile := some { type := .custom, custom := some ⟨ciphers, .versionTLS12⟩ }

theorem strictTLS_within_custom : ∃ directives,
    nginxTLSFromCluster exampleProfiles
        (.ok (strictCustom ["AES128-SHA", "ECDHE-RSA-AES256-GCM-SHA384"])) = .ok directives ∧
      ∀ cipher ∈ names directives.ciphers, cipher ∈ ["AES128-SHA", "ECDHE-RSA-AES256-GCM-SHA384"] := by
  refine ⟨_, rfl, ?_⟩
  obtain ⟨spec, found, within⟩ := strictTLS_within_profile_iff exampleProfiles
    (strictCustom ["AES128-SHA", "ECDHE-RSA-AES256-GCM-SHA384"]) _ _ rfl (.inl rfl) rfl
  cases found
  exact within.mpr (.inr (by decide +kernel)) (by decide +kernel)

/-- A custom profile for TLS 1.2 whose only cipher is a finite-field DHE one is served with
six ciphers that are not in it. -/
theorem strictTLS_widened : ∃ directives,
    nginxTLSFromCluster exampleProfiles (.ok (strictCustom ["DHE-RSA-AES128-GCM-SHA256"])) = .ok directives ∧
      "TLSv1.2" ∈ Text.split ' ' directives.protocols ∧
      "ECDHE-RSA-AES128-GCM-SHA256" ∈ names directives.ciphers ∧
      "ECDHE-RSA-AES128-GCM-SHA256" ∉ ["DHE-RSA-AES128-GCM-SHA256"] := by
  refine ⟨_, rfl, ?_⟩
  decide +kernel

/-! ### The two directives -/

namespace CipherLists

/-- The cipher names of a profile.  The IANA names start with `TLS_`, the OpenSSL ones have
no underscore, and neither have a colon. -/
def IsName (name : String) : Prop :=
  ':' ∉ name.toList ∧ (Text.startsWith "TLS_" name = false → '_' ∉ name.toList)

def isTLS13Suite (name : String) : Bool :=
  Text.startsWith "TLS_AES_" name || name == "TLS_CHACHA20_POLY1305_SHA256"

def dashed (name : String) : String :=
  String.ofList (name.toList.map fun c => if c = '_' then '-' else c)

/-- Weak, by the patterns of the filter, under either spelling. -/
def isWeakSpelled (name : String) : Bool := isWeakCipher name || isWeakCipher (dashed name)

/-- Every name is in the directive that takes it, and no weak or finite-field DHE cipher is
in either. -/
structure Routed (directives : ConsolePluginNginxTLSDirectives) : Prop where
  suites : ∀ name ∈ names directives.ciphersuites, isTLS13Suite name = true
  ciphers : ∀ name ∈ names directives.ciphers, isTLS13Suite name = false
  strong : ∀ name ∈ names directives.ciphersuites ++ names directives.ciphers,
    isDHECipher name = false ∧ isWeakSpelled name = false

theorem dashed_eq_self {name : String} (plain : '_' ∉ name.toList) : dashed name = name := by
  have kept : (name.toList.map fun c => if c = '_' then '-' else c) = name.toList := by
    conv_rhs => rw [← List.map_id name.toList]
    apply List.map_congr_left
    intro c member
    have other : c ≠ '_' := fun same => plain (same ▸ member)
    exact if_neg other
  rw [dashed, kept, String.ofList_toList]

theorem startsWith_of_isTLS13Suite {name : String} (suite : isTLS13Suite name = true) :
    Text.startsWith "TLS_" name = true := by
  rcases Bool.or_eq_true _ _ ▸ suite with starts | same
  · exact Text.startsWith_of_within (by decide +kernel) starts
  · rw [eq_of_beq same]
    decide +kernel

theorem isDHECipher_of_isTLS13Suite {name : String} (suite : isTLS13Suite name = true) :
    isDHECipher name = false := by
  rcases Bool.or_eq_true _ _ ▸ suite with starts | same
  · rw [isDHECipher, Text.not_startsWith (by decide +kernel) (by decide +kernel) starts,
      Text.not_startsWith (by decide +kernel) (by decide +kernel) starts]
    rfl
  · rw [eq_of_beq same]
    decide +kernel

theorem served_strong {name : String} (isName : IsName name) (isServed : served name = true) :
    isTLS13Suite name = false ∧ isDHECipher name = false ∧ isWeakSpelled name = false := by
  obtain ⟨starts, dhe, weak⟩ := served_iff.mp isServed
  refine ⟨?_, dhe, ?_⟩
  · rw [Bool.eq_false_iff]
    intro suite
    exact absurd (startsWith_of_isTLS13Suite suite) (by simp [starts])
  · rw [isWeakSpelled, dashed_eq_self (isName.2 starts), weak]
    rfl

theorem isName_defaultCiphers : ∀ name ∈ names consolePluginDefaultCiphers, IsName name := by
  rw [names_defaultCiphers]
  unfold IsName
  decide +kernel

theorem defaultCipherSuites_strong : ∀ name ∈ names consolePluginDefaultCipherSuites,
    isTLS13Suite name = true ∧ isWeakSpelled name = false := by
  rw [names_defaultCipherSuites]
  decide +kernel

section Routing

variable {profiles : TLSProfiles} {profile : TLSSecurityProfile}

theorem mem_names_flatMap_iff {written : List String} (areNames : ∀ name ∈ written, IsName name)
    {name : String} : name ∈ written.flatMap names ↔ name ∈ written := by
  constructor
  · intro member
    obtain ⟨whole, wholeMember, piece⟩ := List.mem_flatMap.mp member
    rw [names, Text.split_eq_singleton (areNames whole wholeMember).1, List.mem_singleton] at piece
    exact piece ▸ wholeMember
  · intro member
    refine List.mem_flatMap.mpr ⟨name, member, ?_⟩
    rw [names, Text.split_eq_singleton (areNames name member).1]
    exact List.mem_singleton_self name

theorem names_ciphers_strong
    (areNames : ∀ name ∈ (consolePluginTLSProfileSpec profiles profile).ciphers, IsName name) :
    ∀ name ∈ names (consolePluginTLSProfileToNginx profiles profile).ciphers,
      isTLS13Suite name = false ∧ isDHECipher name = false ∧ isWeakSpelled name = false := by
  intro name member
  rw [names_ciphers] at member
  split at member
  · have served_names : ∀ cipher ∈ (consolePluginTLSProfileSpec profiles profile).ciphers.filter served,
        IsName cipher := fun cipher kept => areNames cipher (List.mem_filter.mp kept).1
    have kept := (mem_names_flatMap_iff served_names).mp member
    exact served_strong (served_names name kept) (List.mem_filter.mp kept).2
  · exact served_strong (isName_defaultCiphers name member) (served_defaultCiphers name member)

/-- The names in `Ciphersuites` are in order exactly if those of the profile that start with
`TLS_` are: nothing is filtered on the way. -/
theorem names_ciphersuites_strong_iff
    (areNames : ∀ name ∈ (consolePluginTLSProfileSpec profiles profile).ciphers, IsName name) :
    (∀ name ∈ names (consolePluginTLSProfileToNginx profiles profile).ciphersuites,
        isTLS13Suite name = true ∧ isWeakSpelled name = false) ↔
      ∀ name ∈ (consolePluginTLSProfileSpec profiles profile).ciphers,
        Text.startsWith "TLS_" name = true → isTLS13Suite name = true ∧ isWeakSpelled name = false := by
  rw [names_ciphersuites]
  generalize (consolePluginTLSProfileSpec profiles profile).ciphers = ciphers at areNames ⊢
  split
  · have routed_names : ∀ name ∈ ciphers.filter (Text.startsWith "TLS_"), IsName name :=
      fun name kept => areNames name (List.mem_filter.mp kept).1
    simp only [mem_names_flatMap_iff routed_names, List.mem_filter, and_imp]
  · next unwritten =>
    refine iff_of_true defaultCipherSuites_strong fun name member starts => ?_
    exact absurd (List.ne_nil_of_mem (List.mem_filter.mpr ⟨member, starts⟩)) unwritten

end Routing

end CipherLists

/-- The ciphers of a profile reach the right directives, and only strong ones, exactly if
every name of the profile that starts with `TLS_` is a suite of TLS 1.3 that is not weak. -/
theorem ciphers_routed_iff (profiles : TLSProfiles) (profile : TLSSecurityProfile)
    (areNames : ∀ name ∈ (consolePluginTLSProfileSpec profiles profile).ciphers, IsName name) :
    Routed (consolePluginTLSProfileToNginx profiles profile) ↔
      ∀ name ∈ (consolePluginTLSProfileSpec profiles profile).ciphers,
        Text.startsWith "TLS_" name = true → isTLS13Suite name = true ∧ isWeakSpelled name = false := by
  rw [← names_ciphersuites_strong_iff areNames]
  constructor
  · intro routed name member
    exact ⟨routed.suites name member, (routed.strong name (List.mem_append_left _ member)).2⟩
  · intro suites
    refine ⟨fun name member => (suites name member).1,
      fun name member => (names_ciphers_strong areNames name member).1, ?_⟩
    intro name member
    rcases List.mem_append.mp member with suite | cipher
    · exact ⟨isDHECipher_of_isTLS13Suite (suites name suite).1, (suites name suite).2⟩
    · exact (names_ciphers_strong areNames name cipher).2

theorem ciphers_routed_intermediate :
    Routed (consolePluginTLSProfileToNginx exampleProfiles { type := .intermediate }) :=
  (ciphers_routed_iff exampleProfiles { type := .intermediate } (by unfold IsName; decide +kernel)).mpr
    (by decide +kernel)

/-- The IANA name of a TLS 1.2 cipher is written to `Ciphersuites`, where its OpenSSL name
would have been dropped as weak. -/
theorem ciphers_misrouted :
    ¬ Routed (consolePluginTLSProfileToNginx exampleProfiles
      { type := .custom
        custom := some ⟨["ECDHE-RSA-AES128-GCM-SHA256", "TLS_ECDHE_RSA_WITH_AES_128_CBC_SHA"], .versionTLS12⟩ }) ∧
      isWeakCipher "ECDHE-RSA-AES128-SHA" = true := by
  refine ⟨fun routed => ?_, by decide +kernel⟩
  have misplaced := routed.suites "TLS_ECDHE_RSA_WITH_AES_128_CBC_SHA" (by decide +kernel)
  exact absurd misplaced (by decide +kernel)

end SandboxedContainers
