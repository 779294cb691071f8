import SandboxedContainers.Client
import SandboxedContainers.Lib.Text

/-!
# TLS of the console plugin

The console plugin is served by nginx, and its TLS directives are rendered from the
TLS security profile of the cluster.  The table of the named profiles belongs to the
OpenShift API and is a parameter here.
-/

namespace SandboxedContainers

open Lib

inductive TLSProtocolVersion where
  | versionTLS10
  | versionTLS11
  | versionTLS12
  | versionTLS13
  | unrecognised (name : String)
  deriving DecidableEq, Repr

structure TLSProfileSpec where
  ciphers : List String
  minTLSVersion : TLSProtocolVersion
  deriving DecidableEq, Repr

inductive TLSProfileType where
  | unset
  | old
  | intermediate
  | modern
  | custom
  | unrecognised (name : String)
  deriving DecidableEq, Repr

def TLSProfileType.text : TLSProfileType → String
  | unset => ""
  | old => "Old"
  | intermediate => "Intermediate"
  | modern => "Modern"
  | custom => "Custom"
  | unrecognised name => name

structure TLSSecurityProfile where
  type : TLSProfileType
  custom : Option TLSProfileSpec := none
  deriving DecidableEq, Repr

inductive TLSAdherencePolicy where
  | noOpinion
  | legacyAdheringComponentsOnly
  | strictAllComponents
  | unrecognised (value : String)
  deriving DecidableEq, Repr

def TLSAdherencePolicy.text : TLSAdherencePolicy → String
  | noOpinion => ""
  | legacyAdheringComponentsOnly => "LegacyAdheringComponentsOnly"
  | strictAllComponents => "StrictAllComponents"
  | unrecognised value => value

structure APIServer where
  tlsAdherence : TLSAdherencePolicy := .noOpinion
  tlsSecurityProfile : Option TLSSecurityProfile := none
  deriving DecidableEq, Repr

/-- `configv1.TLSProfiles`, the specs of the named profiles. -/
structure TLSProfiles where
  old : TLSProfileSpec
  intermediate : TLSProfileSpec
  modern : TLSProfileSpec

def TLSProfiles.lookup (profiles : TLSProfiles) : TLSProfileType → Option TLSProfileSpec
  | .old => some profiles.old
  | .intermediate => some profiles.intermediate
  | .modern => some profiles.modern
  | .unset | .custom | .unrecognised _ => none

structure ConsolePluginNginxTLSDirectives where
  protocols : String
  ciphers : String
  ciphersuites : String
  ecdhCurve : String
  deriving DecidableEq, Repr

def consolePluginECDHCurves : List String :=
  ["X25519MLKEM768", "X25519", "SecP256r1MLKEM768", "SecP384r1MLKEM1024", "secp256r1", "secp384r1"]

def consolePluginDefaultCiphers : String :=
  "ECDHE-ECDSA-AES128-GCM-SHA256:ECDHE-RSA-AES128-GCM-SHA256:ECDHE-ECDSA-AES256-GCM-SHA384:ECDHE-RSA-AES256-GCM-SHA384:ECDHE-ECDSA-CHACHA20-POLY1305:ECDHE-RSA-CHACHA20-POLY1305"

def consolePluginDefaultCipherSuites : String :=
  "TLS_AES_128_GCM_SHA256:TLS_AES_256_GCM_SHA384:TLS_CHACHA20_POLY1305_SHA256"

def consolePluginDefaultTLSDirectives : ConsolePluginNginxTLSDirectives where
  protocols := "TLSv1.2 TLSv1.3"
  ciphers := consolePluginDefaultCiphers
  ciphersuites := consolePluginDefaultCipherSuites
  ecdhCurve := Text.join ':' consolePluginECDHCurves

def consolePluginTLSAdherenceIsStrict : TLSAdherencePolicy → Bool
  | .noOpinion | .legacyAdheringComponentsOnly => false
  | .strictAllComponents | .unrecognised _ => true

def consolePluginTLSProfileResolvable (profile : TLSSecurityProfile) : Bool :=
  match profile.type with
  | .unset | .old | .intermediate | .modern => true
  | .custom => profile.custom.isSome
  | .unrecognised _ => false

def consolePluginNginxProtocols : TLSProtocolVersion → String
  | .versionTLS13 => "TLSv1.3"
  | _ => "TLSv1.2 TLSv1.3"

def consolePluginWeakPatterns : List String := ["NULL", "EXPORT", "RC4", "MD5", "DES", "3DES", "BF-", "ECB"]

/-- The upper case of a character.  Outside ASCII only the long s and the dotless i have
an ASCII upper case; what the other letters become is in none of the patterns. -/
def upperRune (c : Char) : Char :=
  if c = 'ſ' then 'S' else if c = 'ı' then 'I' else c.toUpper

def upperText (text : String) : String := String.ofList (text.toList.map upperRune)

def isWeakCipher (cipher : String) : Bool :=
  let upper := upperText cipher
  consolePluginWeakPatterns.any (Text.contains · upper) || Text.endsWith "-SHA" upper

def consolePluginFilterWeakCiphers (ciphers : List String) : List String :=
  ciphers.filter fun cipher => !isWeakCipher cipher

/-- The TLS 1.2 and below ciphers, and the TLS 1.3 suites. -/
def consolePluginSplitCipherSuites (ciphers : List String) : List String × List String :=
  ciphers.partition fun cipher => !Text.startsWith "TLS_" cipher

def isDHECipher (cipher : String) : Bool :=
  Text.startsWith "DHE-" cipher || Text.startsWith "TLS_DHE_" cipher

def consolePluginFilterDHECiphers (ciphers : List String) : List String :=
  ciphers.filter fun cipher => !isDHECipher cipher

section Profiles

variable (profiles : TLSProfiles)

/-- The first half of `consolePluginTLSProfileToNginx`: which spec is rendered. -/
def consolePluginTLSProfileSpec (profile : TLSSecurityProfile) : TLSProfileSpec :=
  match profile.type with
  | .custom => profile.custom.getD profiles.intermediate
  | .unset => profiles.intermediate
  | named => (profiles.lookup named).getD profiles.intermediate

def consolePluginTLSProfileToNginx (profile : TLSSecurityProfile) : ConsolePluginNginxTLSDirectives :=
  let spec := consolePluginTLSProfileSpec profiles profile
  let (legacyCiphers, tls13Suites) := consolePluginSplitCipherSuites spec.ciphers
  let legacyCiphers := consolePluginFilterWeakCiphers (consolePluginFilterDHECiphers legacyCiphers)
  { protocols := consolePluginNginxProtocols spec.minTLSVersion
    ciphers := if legacyCiphers ≠ [] then Text.join ':' legacyCiphers else consolePluginDefaultCiphers
    ciphersuites :=
      if tls13Suites ≠ [] then Text.join ':' tls13Suites else consolePluginDefaultCipherSuites
    ecdhCurve := Text.join ':' consolePluginECDHCurves }

/-- The directives, from the answer to the `Get` of the `APIServer` of the cluster. -/
def nginxTLSFromCluster : Except ApiError APIServer → Except Err ConsolePluginNginxTLSDirectives
  | .error error => .error (.wrap "reading the cluster TLS security profile" (.api error))
  | .ok apiServer =>
    match apiServer.tlsSecurityProfile with
    | none => .ok consolePluginDefaultTLSDirectives
    | some profile =>
      if consolePluginTLSAdherenceIsStrict apiServer.tlsAdherence &&
          !consolePluginTLSProfileResolvable profile then
        .error (.new ("tlsAdherence=" ++ apiServer.tlsAdherence.text ++
          " requires honoring the cluster TLS profile, but \"" ++ profile.type.text ++
          "\" is not a profile this operator can render"))
      else
        .ok (consolePluginTLSProfileToNginx profiles profile)

end Profiles

end SandboxedContainers
