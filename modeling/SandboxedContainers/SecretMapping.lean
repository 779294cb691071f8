import SandboxedContainers.Credentials
import SandboxedContainers.Lib.Renaming
import SandboxedContainers.ServerReads

/-!
# The credentials that are written and the credentials that are wanted

`ccoDataMapping` brings a `cco-secret` into the format of `peer-pods-secret`, and
`trySetupCredentialsFromEnv` writes one from the environment; `validatePeerPodsConfigs` tests
what is there.  The mapping is described by what each of its entries is read from, and the
test is compared with both.
-/

namespace SandboxedContainers

open Lib Routine ImageGenerator

namespace SecretMapping

section Lines

variable {line before after : List Char} {name : String}

/-- A byte that starts a character. -/
def leads (byte : Char) : Bool := byte.toNat < 0x80 || 0xc0 ≤ byte.toNat

theorem spaces_code : Trim.Code spaces leads := by
  have starts : ∀ unit ∈ spaces, (unit.head?.any leads && unit.tail.all (!leads ·)) = true := by decide +kernel
  refine ⟨fun unit member => ?_, by decide +kernel⟩
  have start := starts unit member
  cases unit with
  | nil => cases start
  | cons first rest =>
    rw [Bool.and_eq_true, List.all_eq_true] at start
    exact ⟨first, rest, rfl, start.1, fun symbol inside => by simpa using start.2 symbol inside⟩

theorem equals_not_space : ∀ unit ∈ spaces, '=' ∉ unit := by decide +kernel

def beforeEquals (line : List Char) : List Char := line.takeWhile (· ≠ '=')

def afterEquals (line : List Char) : List Char := (line.dropWhile (· ≠ '=')).tail

theorem ne_equals (first : '=' ∉ before) : ∀ c ∈ before, decide (c ≠ '=') = true := by
  intro c member
  rw [decide_eq_true_eq]
  rintro rfl
  exact first member

theorem beforeEquals_append (first : '=' ∉ before) : beforeEquals (before ++ '=' :: after) = before := by
  rw [beforeEquals, List.takeWhile_append_of_pos (ne_equals first)]
  simp

theorem dropWhile_append (first : '=' ∉ before) :
    (before ++ '=' :: after).dropWhile (· ≠ '=') = '=' :: after := by
  rw [List.dropWhile_append_of_pos (ne_equals first)]
  simp

theorem afterEquals_append (first : '=' ∉ before) : afterEquals (before ++ '=' :: after) = after := by
  rw [afterEquals, dropWhile_append first, List.tail_cons]

theorem cutEquals_eq (line : List Char) :
    cutEquals line = if '=' ∈ line then some (beforeEquals line, afterEquals line) else none := by
  rw [cutEquals, List.span_eq_takeWhile_dropWhile]
  by_cases member : '=' ∈ line
  · obtain ⟨before, after, rfl, first⟩ := List.eq_append_cons_of_mem member
    rw [if_pos member, beforeEquals, afterEquals, dropWhile_append first]
    rfl
  · have rest : (line ++ []).dropWhile (· ≠ '=') = [] := List.dropWhile_append_of_pos (ne_equals member)
    rw [List.append_nil] at rest
    rw [if_neg member, rest]

/-- What a line says about a field: the trimmed text behind its first equals sign, if the
trimmed text before it is the field's name. -/
def lineValue (name : String) (line : List Char) : Option String :=
  if '=' ∈ line ∧ String.ofList (trimSpace (beforeEquals line)) = name then
    some (String.ofList (trimSpace (afterEquals line)))
  else none

def fieldValue (name credFile : String) : Option String :=
  ((credFile.toList.splitOn '\n').filterMap (lineValue name)).getLast?

theorem cutEquals_trimSpace (line : List Char) :
    (cutEquals (trimSpace line)).map (fun parts => (trimSpace parts.1, trimSpace parts.2)) =
      (cutEquals line).map fun parts => (trimSpace parts.1, trimSpace parts.2) := by
  rw [cutEquals_eq, cutEquals_eq]
  by_cases member : '=' ∈ line
  · obtain ⟨before, after, rfl, first⟩ := List.eq_append_cons_of_mem member
    have first' : '=' ∉ Trim.trimStart spaces before := fun inside => first (Trim.mem_of_mem_trimStart inside)
    have cut : trimSpace (before ++ '=' :: after) = Trim.trimStart spaces before ++ '=' :: Trim.trimEnd spaces after :=
      spaces_code.trim_cut equals_not_space
    rw [cut, if_pos (by simp), if_pos member, beforeEquals_append first, afterEquals_append first,
      beforeEquals_append first', afterEquals_append first']
    simp only [Option.map_some, trimSpace, spaces_code.trim_trimStart, spaces_code.trim_trimEnd]
  · have member' : '=' ∉ trimSpace line := fun inside => member (Trim.mem_of_mem_trim inside)
    rw [if_neg member, if_neg member']

def lineEntry (line : List Char) : Option (String × String) :=
  (cutEquals line).map fun parts => (String.ofList (trimSpace parts.1), String.ofList (trimSpace parts.2))

theorem lineEntry_trimSpace (line : List Char) : lineEntry (trimSpace line) = lineEntry line := by
  have same := congrArg (Option.map fun parts => (String.ofList parts.1, String.ofList parts.2))
    (cutEquals_trimSpace line)
  rw [Option.map_map, Option.map_map] at same
  exact same

theorem lineValue_eq (name : String) (line : List Char) :
    lineValue name line = (lineEntry line).bind fun entry => if entry.1 = name then some entry.2 else none := by
  rw [lineEntry, cutEquals_eq, lineValue]
  by_cases member : '=' ∈ line
  · simp only [member, true_and, if_true, Option.map_some, Option.bind_some]
  · simp only [member, false_and, if_false, Option.map_none, Option.bind_none]

theorem mapSTSLine_eq (data : StrMap) (line : List Char) :
    mapSTSLine data line = (lineEntry line).elim data (StrMap.rename stsFieldMap data) := by
  rw [← lineEntry_trimSpace, mapSTSLine, lineEntry]
  cases cutEquals (trimSpace line) with
  | none => rfl
  | some parts =>
    dsimp only [Option.map_some, Option.elim_some, StrMap.rename]
    cases stsFieldMap.lookup (String.ofList (trimSpace parts.1)) <;> rfl

theorem mapSTSCredentials_eq (data : StrMap) (credFile : String) : mapSTSCredentials data credFile =
      ((credFile.toList.splitOn '\n').filterMap lineEntry).foldl (StrMap.rename stsFieldMap) data := by
  rw [mapSTSCredentials]
  induction credFile.toList.splitOn '\n' generalizing data with
  | nil => rfl
  | cons line lines ih =>
    rw [List.foldl_cons, ih, mapSTSLine_eq]
    cases found : lineEntry line with
    | none => rw [List.filterMap_cons_none found, Option.elim_none]
    | some entry => rw [List.filterMap_cons_some found, Option.elim_some, List.foldl_cons]

end Lines

section Mapping

variable {settings : CredentialsSettings} {data m : StrMap} {line : String × String} {key : String}

theorem ccoToPp_oneToOne : StrMap.OneToOne ccoToPp := ⟨by decide, by decide⟩

theorem stsFieldMap_oneToOne : StrMap.OneToOne stsFieldMap := ⟨by decide, by decide⟩

theorem fieldValue_eq (name credFile : String) :
    fieldValue name credFile = StrMap.lastValue name ((credFile.toList.splitOn '\n').filterMap lineEntry) := by
  rw [fieldValue, StrMap.lastValue, ← List.getLast?_map]
  congr 1
  induction credFile.toList.splitOn '\n' with
  | nil => rfl
  | cons line lines ih =>
    cases found : lineEntry line with
    | none =>
      have silent : lineValue name line = none := by rw [lineValue_eq, found, Option.bind_none]
      rw [List.filterMap_cons_none silent, List.filterMap_cons_none found, ih]
    | some entry =>
      rw [List.filterMap_cons_some found]
      by_cases same : entry.1 = name
      · have tells : lineValue name line = some entry.2 := by
          rw [lineValue_eq, found, Option.bind_some, if_pos same]
        rw [List.filterMap_cons_some tells, List.filter_cons_of_pos (by simpa using same), List.map_cons, ih]
      · have silent : lineValue name line = none := by
          rw [lineValue_eq, found, Option.bind_some, if_neg same]
        rw [List.filterMap_cons_none silent, List.filter_cons_of_neg (by simpa using same), ih]

def withSTS (m : StrMap) (credFile : Option String) : StrMap := credFile.elim m (mapSTSCredentials m)

theorem lookup_withSTS {credFile : Option String} (known : line ∈ stsFieldMap) :
    (withSTS m credFile).lookup line.2 = (credFile.bind (fieldValue line.1)).or (m.lookup line.2) := by
  cases credFile with
  | none => rfl
  | some credFile =>
    rw [withSTS, Option.elim_some, mapSTSCredentials_eq, StrMap.lookup_foldl_rename stsFieldMap_oneToOne known,
      Option.bind_some, fieldValue_eq]

theorem lookup_withSTS_of_not_mem {credFile : Option String} (foreign : key ∉ stsFieldMap.map Prod.snd) :
    (withSTS m credFile).lookup key = m.lookup key := by
  cases credFile with
  | none => rfl
  | some credFile =>
    rw [withSTS, Option.elim_some, mapSTSCredentials_eq, StrMap.lookup_foldl_rename_of_not_mem foreign]

theorem mapEntries_eq (data : StrMap) : mapEntries data = ccoToPp.foldl (StrMap.fetch data) ∅ := rfl

theorem lookup_mapEntries (known : line ∈ ccoToPp) : (mapEntries data).lookup line.2 = data.lookup line.1 := by
  rw [mapEntries_eq, StrMap.lookup_foldl_fetch ccoToPp_oneToOne.targets known, Finmap.lookup_empty, Option.or_none]

theorem lookup_mapEntries_of_not_mem (foreign : key ∉ ccoToPp.map Prod.snd) : (mapEntries data).lookup key = none := by
  rw [mapEntries_eq, StrMap.lookup_foldl_fetch_of_not_mem foreign, Finmap.lookup_empty]

def gcpKeys : List String := ["GCP_WIF_CREDENTIALS", "GCP_CREDENTIALS"]

def gcpKey (settings : CredentialsSettings) (document : String) : Option String :=
  (settings.credentialType document).map fun type =>
    if type = "external_account" then "GCP_WIF_CREDENTIALS" else "GCP_CREDENTIALS"

theorem lookup_mapServiceAccount (document : String) (key : String) :
    (mapServiceAccount settings m document).lookup key =
      if gcpKey settings document = some key then some document else m.lookup key := by
  unfold mapServiceAccount gcpKey
  cases settings.credentialType document with
  | none => simp
  | some type =>
    by_cases external : type = "external_account"
    · by_cases same : key = "GCP_WIF_CREDENTIALS"
      · subst same
        simp [external]
      · simp [external, Finmap.lookup_insert_of_ne m same, Ne.symm same]
    · by_cases same : key = "GCP_CREDENTIALS"
      · subst same
        simp [external]
      · simp [external, Finmap.lookup_insert_of_ne m same, Ne.symm same]

def withServiceAccount (settings : CredentialsSettings) (m : StrMap) (document : Option String) : StrMap :=
  document.elim m (mapServiceAccount settings m)

theorem gcpKey_mem {document : String} (goes : gcpKey settings document = some key) : key ∈ gcpKeys := by
  unfold gcpKey at goes
  obtain ⟨type, _, rfl⟩ := Option.map_eq_some_iff.mp goes
  split
  · exact List.mem_cons_self
  · exact List.mem_cons_of_mem _ List.mem_cons_self

theorem lookup_withServiceAccount_of_not_mem {document : Option String} (foreign : key ∉ gcpKeys) :
    (withServiceAccount settings m document).lookup key = m.lookup key := by
  cases document with
  | none => rfl
  | some document =>
    rw [withServiceAccount, Option.elim_some, lookup_mapServiceAccount, if_neg]
    intro goes
    exact foreign (gcpKey_mem goes)

theorem ccoDataMapping_eq (settings : CredentialsSettings) (data : StrMap) : ccoDataMapping settings data =
      withServiceAccount settings (withSTS (mapEntries data) (data.lookup "credentials"))
        (data.lookup "service_account.json") := by
  by_cases none : data = ∅
  · subst none
    rfl
  · rw [ccoDataMapping, if_neg none]
    cases data.lookup "credentials" <;> cases data.lookup "service_account.json" <;> rfl

theorem lookup_ccoDataMapping_direct (known : line ∈ ccoToPp) :
    (ccoDataMapping settings data).lookup line.2 = data.lookup line.1 := by
  have apart : ∀ line ∈ ccoToPp, line.2 ∉ gcpKeys ∧ line.2 ∉ stsFieldMap.map Prod.snd := by decide
  rw [ccoDataMapping_eq, lookup_withServiceAccount_of_not_mem (apart line known).1,
    lookup_withSTS_of_not_mem (apart line known).2, lookup_mapEntries known]

theorem lookup_ccoDataMapping_field (known : line ∈ stsFieldMap) :
    (ccoDataMapping settings data).lookup line.2 = (data.lookup "credentials").bind (fieldValue line.1) := by
  have apart : ∀ line ∈ stsFieldMap, line.2 ∉ gcpKeys ∧ line.2 ∉ ccoToPp.map Prod.snd := by decide
  rw [ccoDataMapping_eq, lookup_withServiceAccount_of_not_mem (apart line known).1, lookup_withSTS known,
    lookup_mapEntries_of_not_mem (apart line known).2, Option.or_none]

theorem lookup_ccoDataMapping_gcp (settings : CredentialsSettings) (data : StrMap) (known : key ∈ gcpKeys) :
    (ccoDataMapping settings data).lookup key =
      (data.lookup "service_account.json").filter fun document => gcpKey settings document = some key := by
  have apart : ∀ key ∈ gcpKeys, key ∉ stsFieldMap.map Prod.snd ∧ key ∉ ccoToPp.map Prod.snd := by decide
  have before : (withSTS (mapEntries data) (data.lookup "credentials")).lookup key = none := by
    rw [lookup_withSTS_of_not_mem (apart key known).1, lookup_mapEntries_of_not_mem (apart key known).2]
  rw [ccoDataMapping_eq]
  cases data.lookup "service_account.json" with
  | none => exact before
  | some document =>
    rw [withServiceAccount, Option.elim_some, lookup_mapServiceAccount, before]
    by_cases goes : gcpKey settings document = some key <;> simp [Option.filter_some, goes]

def peerPodsKeys : List String :=
  ["AWS_ACCESS_KEY_ID", "AWS_SECRET_ACCESS_KEY", "AZURE_SUBSCRIPTION_ID", "AZURE_CLIENT_ID", "AZURE_CLIENT_SECRET",
   "AZURE_TENANT_ID", "AZURE_FEDERATED_TOKEN_FILE", "AWS_ROLE_ARN", "AWS_WEB_IDENTITY_TOKEN_FILE",
   "GCP_WIF_CREDENTIALS", "GCP_CREDENTIALS"]

theorem mem_peerPodsKeys {value : String} (found : (ccoDataMapping settings data).lookup key = some value) :
    key ∈ peerPodsKeys := by
  by_contra foreign
  rw [show peerPodsKeys = ccoToPp.map Prod.snd ++ (stsFieldMap.map Prod.snd ++ gcpKeys) from rfl,
    List.mem_append, List.mem_append, not_or, not_or] at foreign
  rw [ccoDataMapping_eq, lookup_withServiceAccount_of_not_mem foreign.2.2, lookup_withSTS_of_not_mem foreign.2.1,
    lookup_mapEntries_of_not_mem foreign.1] at found
  cases found

/-- The mapping with the entries of the secret visited one after the other, as listed. -/
def ccoDataMappingIn (settings : CredentialsSettings) (entries : List (String × String)) (ccoSecretData : StrMap) :
    StrMap :=
  if ccoSecretData = ∅ then ∅
  else withServiceAccount settings
    (withSTS (entries.foldl (StrMap.rename ccoToPp) ∅) (ccoSecretData.lookup "credentials"))
    (ccoSecretData.lookup "service_account.json")

theorem ccoDataMappingIn_eq {entries : List (String × String)} (whole : StrMap.ofList entries = data) :
    ccoDataMappingIn settings entries data = ccoDataMapping settings data := by
  by_cases none : data = ∅
  · rw [ccoDataMappingIn, if_pos none, ccoDataMapping, if_pos none]
  · rw [ccoDataMappingIn, if_neg none, StrMap.foldl_rename_eq_foldl_fetch ccoToPp_oneToOne whole, ← mapEntries_eq,
      ccoDataMapping_eq]

theorem lineValue_crlf {value : List Char} (known : line ∈ stsFieldMap) (trimmed : trimSpace value = value) :
    lineValue line.1 (line.1.toList ++ '=' :: (value ++ ['\r'])) = some (String.ofList value) := by
  have plain : ∀ line ∈ stsFieldMap, '=' ∉ line.1.toList ∧ String.ofList (trimSpace line.1.toList) = line.1 := by
    decide +kernel
  have ending : trimSpace (value ++ ['\r']) = value :=
    (spaces_code.trim_append_unit (by decide +kernel)).trans trimmed
  rw [lineValue, beforeEquals_append (plain line known).1, afterEquals_append (plain line known).1, ending,
    if_pos ⟨by simp, (plain line known).2⟩]

end Mapping

/-- What the mapping is to make of a secret. -/
structure Mapped (settings : CredentialsSettings) (data mapped : StrMap) : Prop where
  keys : ∀ key value, mapped.lookup key = some value → key ∈ peerPodsKeys
  direct : ∀ line ∈ ccoToPp, mapped.lookup line.2 = data.lookup line.1
  fields : ∀ line ∈ stsFieldMap, mapped.lookup line.2 = (data.lookup "credentials").bind (fieldValue line.1)
  external : ∀ document, data.lookup "service_account.json" = some document →
    settings.credentialType document = some "external_account" →
      mapped.lookup "GCP_WIF_CREDENTIALS" = some document ∧ mapped.lookup "GCP_CREDENTIALS" = none
  static : ∀ document type, data.lookup "service_account.json" = some document →
    settings.credentialType document = some type → type ≠ "external_account" →
      mapped.lookup "GCP_CREDENTIALS" = some document ∧ mapped.lookup "GCP_WIF_CREDENTIALS" = none
  unparsed : ∀ document, data.lookup "service_account.json" = some document →
    settings.credentialType document = none →
      mapped.lookup "GCP_WIF_CREDENTIALS" = none ∧ mapped.lookup "GCP_CREDENTIALS" = none
  absent : data.lookup "service_account.json" = none →
    mapped.lookup "GCP_WIF_CREDENTIALS" = none ∧ mapped.lookup "GCP_CREDENTIALS" = none

end SecretMapping

open SecretMapping

/-- The mapping is what it is to be, for every secret, and the same in whatever order its
entries are visited; a value is kept whole if it has equals signs in it or a carriage return
behind it. -/
theorem ccoDataMapping_correct (settings : CredentialsSettings) (data : StrMap) :
    Mapped settings data (ccoDataMapping settings data) ∧
      (∀ entries, StrMap.ofList entries = data →
        ccoDataMappingIn settings entries data = ccoDataMapping settings data) ∧
      ∀ line ∈ stsFieldMap, ∀ value, trimSpace value = value →
        lineValue line.1 (line.1.toList ++ '=' :: (value ++ ['\r'])) = some (String.ofList value) := by
  have wif := lookup_ccoDataMapping_gcp settings data (show "GCP_WIF_CREDENTIALS" ∈ gcpKeys by decide)
  have static := lookup_ccoDataMapping_gcp settings data (show "GCP_CREDENTIALS" ∈ gcpKeys by decide)
  refine ⟨⟨fun _ _ found => mem_peerPodsKeys found, fun _ known => lookup_ccoDataMapping_direct known,
    fun _ known => lookup_ccoDataMapping_field known, ?_, ?_, ?_, ?_⟩,
    fun _ whole => ccoDataMappingIn_eq whole, fun _ known _ trimmed => lineValue_crlf known trimmed⟩
  · intro document found external
    rw [wif, static, found]
    simp [Option.filter_some, gcpKey, external]
  · intro document type found parsed other
    rw [wif, static, found]
    simp [Option.filter_some, gcpKey, parsed, other]
  · intro document found unparsed
    rw [wif, static, found]
    simp [Option.filter_some, gcpKey, unparsed]
  · intro absent
    rw [wif, static, absent]
    exact ⟨rfl, rfl⟩

namespace SecretMapping

section Checks

variable {settings : CredentialsSettings} {data : StrMap} {memory memory' : Reconciler} {s s' : Cluster}
  {log : List Exchange}

def tokenProviders : List String := ["azure", "aws", "gcp"]

def complete (settings : CredentialsSettings) : String → Bool
  | "azure" => settings.getenv "CLIENTID" ≠ "" && settings.getenv "TENANTID" ≠ "" &&
      settings.getenv "SUBSCRIPTIONID" ≠ ""
  | "aws" => settings.getenv "ROLEARN" ≠ ""
  | "gcp" => settings.getenv "SERVICE_ACCOUNT_EMAIL" ≠ "" && gcpAudience settings ≠ ""
  | _ => false

/-- The one provider the environment is complete for. -/
def Sole (settings : CredentialsSettings) (provider : String) : Prop :=
  ∀ other ∈ tokenProviders, complete settings other = true ↔ other = provider

def Stores (r : Req) (secret : Secret) : Prop := r = .create .secret secret ∨ r = .update .secret secret

theorem issues_createOrUpdateSecret (key : Key) (data : StrMap) (labels : List (String × String)) :
    Issues (fun r => ∀ secret, Stores r secret → secretDataOf secret = data)
      (createOrUpdateSecret key data none labels) := by
  have filled (secret : Secret) : secretDataOf (inScope (filledSecret data labels secret)) = data := rfl
  refine Issues.bind (Issues.attempt (looks_clientGet ?_).1) fun read => ?_
  · rintro secret (same | same) <;> cases same
  cases read with
  | error error =>
    dsimp only
    split
    · change Issues _ (clientCreate (filledSecret data labels _) >>= fun _ => Pure.pure _)
      refine Issues.bind (looks_clientCreate ?_).1 fun _ => issues_pure _
      rintro secret (same | same)
      · cases same
        exact filled _
      · cases same
    · exact issues_throw _
  | ok existing =>
    change Issues _ (if _ then _ else _)
    split
    · exact issues_pure _
    · change Issues _ (clientUpdate (filledSecret data labels existing) >>= fun _ => Pure.pure _)
      refine Issues.bind (looks_clientUpdate ?_).1 fun _ => issues_pure _
      rintro secret (same | same)
      · cases same
      · cases same
        exact filled existing

theorem createOrUpdateSecret_ok {key : Key} {labels : List (String × String)}
    (runs : Prog.Runs Answered (createOrUpdateSecret key data none labels memory) s log (.ok ⟨⟩, memory') s') :
    ∃ secret : Secret, s'.find? .secret key = some secret ∧ secretDataOf secret = data := by
  obtain ⟨read, memory₁, between, first, rest, ran, ends, rfl⟩ := runs_attempt_bind runs
  obtain ⟨rfl, rfl, ⟨existing, rfl, readable⟩ | ⟨error, rfl⟩⟩ := clientGet_runs ran
  · have found : between.find? .secret key = some existing := readable.2
    change Prog.Runs Answered ((if _ then _ else _ : Op Err PUnit) _) _ _ _ _ at ends
    split at ends
    · next same =>
        cases ends
        exact ⟨existing, found, congrArg (fun body : SecretBody => body.data) same.2.symm⟩
    · obtain ⟨answer, _, _, _, _, updated, done, _⟩ := of_runs_bind ends
      cases done
      obtain ⟨response, answered, _, ended⟩ := call_runs
        (.update .secret (inScope (filledSecret data labels existing))) id updated
      cases response with
      | error error => cases ended
      | ok accepted =>
        have sameKey : (inScope (filledSecret data labels existing)).key = key :=
          (Collection.find?_mem found).2
        exact ⟨_, find?_of_updated answered sameKey found rfl, rfl⟩
  · dsimp only at ends
    split at ends
    · change Prog.Runs Answered ((clientCreate (filledSecret data labels _) >>= fun _ => Pure.pure _ : Op Err PUnit) _)
        _ _ _ _ at ends
      obtain ⟨answer, _, _, _, _, created, done, _⟩ := of_runs_bind ends
      cases done
      obtain ⟨response, answered, _, ended⟩ := call_runs (.create .secret (inScope (filledSecret data labels
        ⟨{ name := key.name, ns := key.ns }, show SecretBody from ⟨∅⟩⟩))) id created
      cases response with
      | error error => cases ended
      | ok accepted => exact ⟨_, find?_of_created answered, rfl⟩
    · cases ends

theorem complete_azure : complete settings "azure" = true ↔
    settings.getenv "CLIENTID" ≠ "" ∧ settings.getenv "TENANTID" ≠ "" ∧ settings.getenv "SUBSCRIPTIONID" ≠ "" := by
  simp [complete, and_assoc]

theorem complete_aws : complete settings "aws" = true ↔ settings.getenv "ROLEARN" ≠ "" := by
  simp [complete]

theorem complete_gcp : complete settings "gcp" = true ↔
    settings.getenv "SERVICE_ACCOUNT_EMAIL" ≠ "" ∧ gcpAudience settings ≠ "" := by
  simp [complete]

theorem envCredentials_azure (found : complete settings "azure" = true) :
    envCredentials settings = Pure.pure (some (StrMap.ofList [("AZURE_CLIENT_ID", settings.getenv "CLIENTID"),
      ("AZURE_TENANT_ID", settings.getenv "TENANTID"), ("AZURE_SUBSCRIPTION_ID", settings.getenv "SUBSCRIPTIONID"),
      ("AZURE_FEDERATED_TOKEN_FILE", tokenPath)])) := by
  rw [complete_azure] at found
  unfold envCredentials
  exact if_pos (by simp [found])

theorem envCredentials_aws (noAzure : complete settings "azure" = false) (found : complete settings "aws" = true) :
    envCredentials settings = Pure.pure (some (StrMap.ofList [("AWS_ROLE_ARN", settings.getenv "ROLEARN"),
      ("AWS_WEB_IDENTITY_TOKEN_FILE", tokenPath)])) := by
  rw [Bool.eq_false_iff, Ne, complete_azure] at noAzure
  rw [complete_aws] at found
  unfold envCredentials
  refine (if_neg (by simpa [and_assoc] using noAzure)).trans ?_
  exact if_pos found

theorem envCredentials_gcp (noAzure : complete settings "azure" = false) (noAws : complete settings "aws" = false)
    (found : complete settings "gcp" = true) :
    envCredentials settings = Pure.pure (some (StrMap.ofList [("GCP_WIF_CREDENTIALS",
      gcpWIFDocument settings (gcpAudience settings) (settings.getenv "SERVICE_ACCOUNT_EMAIL") tokenPath)])) := by
  rw [Bool.eq_false_iff, Ne, complete_azure] at noAzure
  rw [Bool.eq_false_iff, Ne, complete_aws] at noAws
  rw [complete_gcp] at found
  have builds : buildGCPWIFCredentials settings (gcpAudience settings) (settings.getenv "SERVICE_ACCOUNT_EMAIL")
      tokenPath = Pure.pure (gcpWIFDocument settings (gcpAudience settings)
        (settings.getenv "SERVICE_ACCOUNT_EMAIL") tokenPath) := by
    rw [buildGCPWIFCredentials, if_neg found.2, if_neg found.1, if_neg (by decide)]
  unfold envCredentials
  refine (if_neg (by simpa [and_assoc] using noAzure)).trans ((if_neg noAws).trans ?_)
  refine (if_pos (by simp [found])).trans ?_
  rw [builds]
  rfl

theorem Sole.complete_self {provider : String} (sole : Sole settings provider) (known : provider ∈ tokenProviders) :
    complete settings provider = true := (sole provider known).mpr rfl

theorem Sole.complete_other {provider other : String} (sole : Sole settings provider) (known : other ∈ tokenProviders)
    (differs : other ≠ provider) : complete settings other = false := by
  rw [Bool.eq_false_iff]
  intro found
  exact differs ((sole other known).mp found)

theorem gcpWIFDocument_ne (audience serviceAccountEmail tokenPath : String) :
    gcpWIFDocument settings audience serviceAccountEmail tokenPath ≠ "" := by
  intro blank
  exact absurd (String.append_eq_empty_iff.mp blank).2 (by decide)

theorem envCredentials_fit {provider : String} (known : provider ∈ tokenProviders) (sole : Sole settings provider) :
    ∃ data, envCredentials settings = Pure.pure (some data) ∧
      credentialsPresent provider data = true := by
  have itself := sole.complete_self known
  simp only [tokenProviders, List.mem_cons, List.not_mem_nil, or_false] at known
  rcases known with rfl | rfl | rfl
  · refine ⟨_, envCredentials_azure itself, ?_⟩
    rw [complete_azure] at itself
    simp [credentialsPresent, checkKeysPresentAndNotEmpty, StrMap.getD,
      StrMap.lookup_ofList, StrMap.lastValue, itself, tokenPath]
  · refine ⟨_, envCredentials_aws (sole.complete_other (by decide) (by decide)) itself, ?_⟩
    rw [complete_aws] at itself
    simp [credentialsPresent, checkKeysPresentAndNotEmpty, StrMap.getD,
      StrMap.lookup_ofList, StrMap.lastValue, itself, tokenPath]
  · refine ⟨_, envCredentials_gcp (sole.complete_other (by decide) (by decide))
      (sole.complete_other (by decide) (by decide)) itself, ?_⟩
    simp [credentialsPresent, checkKeysPresentAndNotEmpty, StrMap.getD,
      StrMap.lookup_ofList, StrMap.lastValue, gcpWIFDocument_ne]

theorem trySetupCredentialsFromEnv_runs {result : Except Err Bool}
    (found : envCredentials settings = Pure.pure (some data))
    (runs : Prog.Runs Answered (trySetupCredentialsFromEnv settings memory) s log (result, memory') s') :
    (∀ entry ∈ log, ∀ secret, Stores entry.1 secret → secretDataOf secret = data) ∧ result ≠ .ok false ∧
      (result = .ok true → ∃ secret : Secret, s'.find? .secret peerPodsSecretKey = some secret ∧
        secretDataOf secret = data) := by
  rw [trySetupCredentialsFromEnv, found] at runs
  change Prog.Runs Answered ((createOrUpdateSecret peerPodsSecretKey data none [(labelExplicitDeletion, "true")] >>=
    fun _ => Pure.pure true : Op Err Bool) memory) s log _ s' at runs
  refine ⟨((issues_createOrUpdateSecret _ data _).bind fun _ => issues_pure _).mem_runs runs, ?_⟩
  rcases runs_bind runs with ⟨_, _, _, _, _, stored, done, _⟩ | ⟨error, _, _, failed⟩
  · cases done
    exact ⟨nofun, fun _ => createOrUpdateSecret_ok stored⟩
  · cases failed
    exact ⟨nofun, nofun⟩

def Given (data : StrMap) (key : String) : Prop := StrMap.getD data key ≠ ""

def GivenField (data : StrMap) (name : String) : Prop :=
  ((data.lookup "credentials").bind (fieldValue name)).getD "" ≠ ""

theorem given_mapped {line : String × String} (known : line ∈ ccoToPp) :
    Given (ccoDataMapping settings data) line.2 ↔ Given data line.1 := by
  rw [Given, Given, StrMap.getD, StrMap.getD, lookup_ccoDataMapping_direct known]

theorem given_field {line : String × String} (known : line ∈ stsFieldMap) :
    Given (ccoDataMapping settings data) line.2 ↔ GivenField data line.1 := by
  rw [Given, GivenField, StrMap.getD, lookup_ccoDataMapping_field known]

theorem credentialsPresent_aws : credentialsPresent "aws" data = true ↔
    (Given data "AWS_ACCESS_KEY_ID" ∧ Given data "AWS_SECRET_ACCESS_KEY") ∨
      (Given data "AWS_ROLE_ARN" ∧ Given data "AWS_WEB_IDENTITY_TOKEN_FILE") := by
  simp [credentialsPresent, checkKeysPresentAndNotEmpty, Given]

theorem credentialsPresent_azure : credentialsPresent "azure" data = true ↔
    Given data "AZURE_TENANT_ID" ∧ Given data "AZURE_CLIENT_ID" ∧ Given data "AZURE_SUBSCRIPTION_ID" ∧
      (Given data "AZURE_CLIENT_SECRET" ∨ Given data "AZURE_FEDERATED_TOKEN_FILE") := by
  simp only [credentialsPresent, checkKeysPresentAndNotEmpty, Given, List.all_cons,
    List.all_nil, Bool.and_true, Bool.or_eq_true, Bool.and_eq_true, decide_eq_true_eq]
  tauto

theorem credentialsPresent_gcp : credentialsPresent "gcp" data = true ↔
    Given data "GCP_CREDENTIALS" ∨ Given data "GCP_WIF_CREDENTIALS" := by
  simp [credentialsPresent, checkKeysPresentAndNotEmpty, Given]

theorem given_gcp {key : String} (known : key ∈ gcpKeys) : Given (ccoDataMapping settings data) key ↔
      ∃ document, data.lookup "service_account.json" = some document ∧ gcpKey settings document = some key := by
  rw [Given, StrMap.getD, lookup_ccoDataMapping_gcp settings data known]
  cases data.lookup "service_account.json" with
  | none => simp
  | some document =>
    by_cases goes : gcpKey settings document = some key
    · have filled : document ≠ "" := by
        rintro rfl
        rw [gcpKey, settings.credentialType_empty] at goes
        cases goes
      simp [Option.filter_some, goes, filled]
    · simp [Option.filter_some, goes]

theorem gcpKey_iff {document : String} :
    (gcpKey settings document = some "GCP_CREDENTIALS" ∨ gcpKey settings document = some "GCP_WIF_CREDENTIALS") ↔
      ∃ type, settings.credentialType document = some type := by
  unfold gcpKey
  cases settings.credentialType document with
  | none => simp
  | some type => by_cases external : type = "external_account" <;> simp [external]

end Checks

end SecretMapping

/-- What the operator writes from its environment passes the test of the one provider it is
about, and what it makes of a `cco-secret` passes exactly if the secret has what is needed. -/
theorem credentials_accepted (settings : CredentialsSettings) :
    (∀ provider ∈ tokenProviders, Sole settings provider → ∀ memory s log result memory' s',
      Prog.Runs Answered (trySetupCredentialsFromEnv settings memory) s log (result, memory') s' →
        (∀ entry ∈ log, ∀ secret, Stores entry.1 secret →
          ImageGenerator.credentialsPresent provider (secretDataOf secret) = true) ∧
        result ≠ .ok false ∧
        (result = .ok true → ∃ secret : Secret, s'.find? .secret peerPodsSecretKey = some secret ∧
          ImageGenerator.credentialsPresent provider (secretDataOf secret) = true)) ∧
    ∀ data : StrMap, (ImageGenerator.credentialsPresent "aws" (ccoDataMapping settings data) = true ↔
        (Given data "aws_access_key_id" ∧ Given data "aws_secret_access_key") ∨
          (GivenField data "role_arn" ∧ GivenField data "web_identity_token_file")) ∧
      (ImageGenerator.credentialsPresent "azure" (ccoDataMapping settings data) = true ↔
        Given data "azure_tenant_id" ∧ Given data "azure_client_id" ∧ Given data "azure_subscription_id" ∧
          (Given data "azure_client_secret" ∨ Given data "azure_federated_token_file")) ∧
      (ImageGenerator.credentialsPresent "gcp" (ccoDataMapping settings data) = true ↔
        ∃ document type, data.lookup "service_account.json" = some document ∧
          settings.credentialType document = some type) := by
  have direct (data : StrMap) : ∀ line ∈ ccoToPp, (Given (ccoDataMapping settings data) line.2 ↔ Given data line.1) :=
    fun _ => given_mapped
  have fields (data : StrMap) :
      ∀ line ∈ stsFieldMap, (Given (ccoDataMapping settings data) line.2 ↔ GivenField data line.1) :=
    fun _ => given_field
  simp only [ccoToPp, stsFieldMap, List.forall_mem_cons] at direct fields
  refine ⟨?_, fun data => ?_⟩
  · intro provider known sole memory s log result memory' s' runs
    obtain ⟨data, found, fits⟩ := envCredentials_fit known sole
    obtain ⟨stores, notFalse, stored⟩ := trySetupCredentialsFromEnv_runs found runs
    refine ⟨fun entry member secret writes => ?_, notFalse, fun done => ?_⟩
    · rw [stores entry member secret writes]
      exact fits
    · obtain ⟨secret, present, same⟩ := stored done
      exact ⟨secret, present, same ▸ fits⟩
  · obtain ⟨accessKey, secretKey, subscription, client, clientSecret, tenant, tokenFile, _⟩ := direct data
    obtain ⟨role, webToken, _⟩ := fields data
    refine ⟨?_, ?_, ?_⟩
    · rw [credentialsPresent_aws, accessKey, secretKey, role, webToken]
    · rw [credentialsPresent_azure, tenant, client, subscription, clientSecret, tokenFile]
    · rw [credentialsPresent_gcp, given_gcp (by decide), given_gcp (by decide), ← exists_or]
      refine exists_congr fun document => ?_
      rw [← and_or_left, gcpKey_iff, exists_and_left]

theorem credentials_accepted_role :
    ∃ log memory' s', Prog.Runs Answered (trySetupCredentialsFromEnv roleSettings {}) (clusterOf []) log
        (.ok true, memory') s' ∧
      ∃ secret : Secret, s'.find? .secret peerPodsSecretKey = some secret ∧
        ImageGenerator.credentialsPresent "aws" (secretDataOf secret) = true := by
  obtain ⟨log, runs⟩ := Prog.runs_eval Answered Store.exec (fun _ _ => .inl rfl)
    (trySetupCredentialsFromEnv roleSettings {}) (clusterOf [])
  have sole : Sole roleSettings "aws" := by unfold Sole; decide +kernel
  obtain ⟨_, _, stored⟩ := (credentials_accepted roleSettings).1 "aws" (by decide) sole _ _ _ _ _ _ runs
  exact ⟨log, _, _, runs, stored rfl⟩

end SandboxedContainers
