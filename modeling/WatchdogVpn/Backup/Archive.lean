import Mathlib
import WatchdogVpn.Backup.Contents
import WatchdogVpn.OpenVpn.Safety

/-!
# Backup archives

`BackupManager.create_backup` collects the selected sections from the stores and packs them with a
manifest into a ZIP archive, which for an encrypted backup becomes the payload of a second one.
`BackupManager.inspect_backup` reads such an archive under limits on its members and checks the
manifest and every section. Packing, deflating and the cipher come in through `Tools`: they give
back the bytes they were given.
-/

namespace WatchdogVpn.Backup

open Documents
open Rules (Error stripped)

/-- A member of an archive: its `ZipInfo` and its bytes. -/
structure Member (B : Type) where
  name : String
  fileSize : Nat
  compressSize : Nat
  content : B

/-- What is used of the libraries: JSON and TOML texts, ZIP archives, the cipher, and the
lower-casing of OpenVPN directives. -/
structure Tools (B : Type) {D : Type} (lib : Library D) extends TextLibrary B lib where
  /-- An archive with these entries. -/
  pack : List (String × B) → B
  /-- The members of an archive, and nothing for a `BadZipFile`. -/
  unpack : B → Option (List (Member B))
  deflatedSize : B → Nat
  unpack_pack : ∀ entries, unpack (pack entries) =
    some (entries.map fun entry => ⟨entry.1, size entry.2, deflatedSize entry.2, entry.2⟩)
  /-- `BACKUP_ENCRYPTION_SUPPORTED`. -/
  encryptionSupported : Bool
  encrypt : (password : String) → (salt nonce : List UInt8) → (plaintext : B) → B
  /-- Nothing for an `InvalidTag`. -/
  decrypt : (password : String) → (salt nonce : List UInt8) → (ciphertext : B) → Option B
  decrypt_encrypt : ∀ password salt nonce plaintext,
    decrypt password salt nonce (encrypt password salt nonce plaintext) = some plaintext
  b64Encode : List UInt8 → String
  b64Decode : String → Option (List UInt8)
  b64Decode_encode : ∀ bytes, b64Decode (b64Encode bytes) = some bytes
  openvpn : OpenVpn.Lowering

/-- An exception: a `BackupValidationError`, or one of a store. -/
inductive BackupFailure
  | backup (message : String)
  | store (error : Error)

/-- Raise a `BackupValidationError` unless a condition holds. -/
def check (c : Prop) [Decidable c] (message : String) : Except BackupFailure Unit :=
  if c then .ok () else .error (.backup message)

@[simp] theorem check_eq_ok {c : Prop} [Decidable c] {message : String} {u : Unit} :
    check c message = .ok u ↔ c := by
  unfold check
  split <;> simp_all

theorem check_of {c : Prop} [Decidable c] {message : String} (h : c) : check c message = .ok () := if_pos h

section Check

variable {α : Type} {c : Prop} [Decidable c] {message : String} {f : Unit → Except BackupFailure α} {a : α}

theorem check_bind (h : c) : check c message >>= f = f () := by rw [check_of h, Effect.ok_bind]

theorem check_bind_ok : check c message >>= f = .ok a ↔ c ∧ f () = .ok a := by
  simp only [Effect.except_bind_iff, check_eq_ok]
  exact ⟨fun ⟨_, h⟩ => h, fun h => ⟨(), h⟩⟩

end Check

/-- What a store says, as an exception of the backup. -/
def ofStore {α : Type} (result : Except Error α) : Except BackupFailure α :=
  match result with
  | .ok a => .ok a
  | .error e => .error (.store e)

@[simp] theorem ofStore_ok {α : Type} (a : α) : ofStore (.ok a) = .ok a := rfl

theorem ofStore_eq_ok {α : Type} {result : Except Error α} {a : α} : ofStore result = .ok a ↔
    result = .ok a := by
  cases result <;> simp [ofStore]

/-! ## Sections -/

inductive Section
  | settings
  | profiles
  | providers
  | providerState
  | routingRules
  | appPolicy
  | nodeGroups
  | routeChains
  | selectionState
  | dnsPolicy
  | metricsPolicy
  | backupPolicy
  | metadata
  | diagnostics
deriving DecidableEq

namespace Section

/-- The sections in the order of `SECTION_FILE_BY_NAME`. -/
def all : List Section :=
  [settings, profiles, providers, providerState, routingRules, appPolicy, nodeGroups, routeChains,
    selectionState, dnsPolicy, metricsPolicy, backupPolicy, metadata, diagnostics]

def name : Section → String
  | settings => "settings"
  | profiles => "profiles"
  | providers => "providers"
  | providerState => "provider-state"
  | routingRules => "routing-rules"
  | appPolicy => "app-policy"
  | nodeGroups => "node-groups"
  | routeChains => "route-chains"
  | selectionState => "selection-state"
  | dnsPolicy => "dns-policy"
  | metricsPolicy => "metrics-policy"
  | backupPolicy => "backup-policy"
  | metadata => "metadata"
  | diagnostics => "diagnostics"

/-- `SECTION_FILE_BY_NAME`. -/
def entry : Section → String
  | settings => "settings.json"
  | profiles => "profiles.json"
  | providers => "providers.json"
  | providerState => "provider-state.json"
  | routingRules => "routing-rules.json"
  | appPolicy => "app-policy.json"
  | nodeGroups => "node-groups.json"
  | routeChains => "route-chains.json"
  | selectionState => "selection-state.json"
  | dnsPolicy => "dns-policy.json"
  | metricsPolicy => "metrics-policy.json"
  | backupPolicy => "backup-policy.json"
  | metadata => "metadata.json"
  | diagnostics => "diagnostics.json"

/-- `DEFAULT_SECTION_NAMES`. -/
def defaults : List Section := all.filter (· ≠ diagnostics)

theorem mem_all (s : Section) : s ∈ all := by cases s <;> decide

theorem entry_injective : Function.Injective entry := by
  intro a b h
  cases a <;> cases b <;> first | rfl | exact absurd h (by decide)

theorem name_injective : Function.Injective name := by
  intro a b h
  cases a <;> cases b <;> first | rfl | exact absurd h (by decide)

def named? (text : String) : Option Section := all.find? fun s => s.name == text

theorem named?_name (s : Section) : named? s.name = some s := by cases s <;> decide

end Section

/-- The loop of `_normalize_sections`. -/
def normalizeLoop : List Section → List String → Except BackupFailure (List Section)
  | normalized, [] => do
    check (normalized ≠ []) "at least one backup section is required"
    return normalized
  | normalized, text :: texts =>
    match Section.named? (stripped text) with
    | none => .error (.backup ("unsupported backup section: " ++ stripped text))
    | some s =>
      if s ∈ normalized then .error (.backup ("duplicate backup section: " ++ stripped text))
      else normalizeLoop (normalized ++ [s]) texts

def normalizeSections (sections : List String) : Except BackupFailure (List Section) :=
  normalizeLoop [] sections

variable {B D : Type} {lib : Library D} (tools : Tools B lib)

/-! ## Writing -/

/-- `_section`. -/
def sectionObject (fields : Object) : Object := ("schema_version", .int 1) :: fields

/-- What a backup says of itself. -/
structure BackupInfo where
  createdAt : String
  reason : String
  /-- `os.name`. -/
  platform : String
  diagnostics : Object

def providerStateItem (lib : Library D) (provider : Provider D) : Json :=
  .obj [("id", .str provider.id), ("last_updated", dtToIso lib provider.lastUpdated),
    ("metadata", .obj provider.metadata)]

def settingsSection (config : AppConfig lib) : Object := sectionObject [("config", .obj (config.toDict lib))]

def itemsSection (items : List Object) : Object := sectionObject [("items", .arr (items.map .obj))]

def providerStateSection (lib : Library D) (providers : List (Provider D)) : Object :=
  sectionObject [("items", .arr (providers.map (providerStateItem lib)))]

def groupsSection (groups : List StoredGroup) : Object :=
  sectionObject [("groups", .arr (groups.map fun group => .obj group.1.toDict))]

def policySection (policy : Object) : Object := sectionObject [("policy", .obj policy)]

def routeChainsSection (document : RouteChainDocument) : Object :=
  sectionObject [("document", .obj document.toDict)]

def selectionStateSection (state : State) : Object := sectionObject [("state", .obj state.toDict)]

def metricsSection (metrics : MetricsDocument lib) : Object :=
  sectionObject [("enabled", .bool metrics.enabled), ("retention_days", .int metrics.retentionDays.1),
    ("redaction_mode", .str metrics.redactionMode.value), ("max_bytes", .int metrics.maxBytes.1),
    ("updated_at", isoTextToJson lib metrics.updatedAt), ("history_included", .bool false)]

def backupPolicySection : Object :=
  sectionObject [("auto_backup",
    .obj [("before_restore", .bool true), ("before_destructive_remove", .bool true),
      ("before_replace_import", .bool true), ("before_uninstall_delete", .bool true)]),
    ("retention", .obj [("max_backups", .int 10)]), ("remote_upload", .bool false)]

variable (info : BackupInfo)

def metadataSection : Object :=
  sectionObject [("product", .str "WatchdogVPN"), ("hostname_included", .bool false),
    ("platform", .str info.platform)]

def diagnosticsSection : Object :=
  sectionObject [("generated_at", .str info.createdAt), ("payload", .obj info.diagnostics),
    ("included_by_explicit_request", .bool true)]

/-- One section of `_collect_sections`. Of several stores that do not load, the exception that is
raised may be another's. -/
def collectSection (disk : Disk B) (info : BackupInfo) : Section → Except BackupFailure Object
  | .settings => do
    return settingsSection (← ofStore (loadConfig tools.toTextLibrary (disk.files (.config .config))))
  | .profiles => do
    let profiles ← ofStore (loadProfiles tools.toTextLibrary (disk.files (.config .profiles)))
    return itemsSection (profiles.map (Profile.toDict lib))
  | .providers => do
    let providers ← ofStore (loadProviders tools.toTextLibrary (disk.files (.config .providers)))
    return itemsSection (providers.map (Provider.toDict lib))
  | .providerState => do
    let providers ← ofStore (loadProviders tools.toTextLibrary (disk.files (.config .providers)))
    return providerStateSection lib providers
  | .routingRules => do return groupsSection (← ofStore (disk.ruleFiles.mapM (loadGroup tools.toTextLibrary)))
  | .appPolicy => do
    let policy ← ofStore (loadAppPolicy tools.toTextLibrary (disk.files (.config .appPolicy)))
    return policySection (policy.toDict lib)
  | .nodeGroups => do
    let groups ← ofStore (loadNodeGroups tools.toTextLibrary (disk.files (.config .nodeGroups)))
    return itemsSection (groups.map NodeGroup.toDict)
  | .routeChains => do
    return routeChainsSection (← ofStore (loadRouteChains tools.toTextLibrary (disk.files (.config .chains))))
  | .selectionState => do
    return selectionStateSection (← ofStore (loadState tools.toTextLibrary (disk.files (.config .state))))
  | .dnsPolicy => do
    let policy ← ofStore (loadDnsPolicy tools.toTextLibrary (disk.files (.config .dnsPolicy)))
    return policySection (policy.toDict lib)
  | .metricsPolicy => do
    return metricsSection (← ofStore (loadMetricsDocument tools.toTextLibrary (disk.files (.config .metrics))))
  | .backupPolicy => return backupPolicySection
  | .metadata => return metadataSection info
  | .diagnostics => return diagnosticsSection info

/-- The object of a section, from what the stores hold. -/
def payload (contents : Contents lib) (info : BackupInfo) : Section → Object
  | .settings => settingsSection contents.config
  | .profiles => itemsSection (contents.profiles.map (Profile.toDict lib))
  | .providers => itemsSection (contents.providers.map (Provider.toDict lib))
  | .providerState => providerStateSection lib contents.providers
  | .routingRules => groupsSection contents.groups
  | .appPolicy => policySection (contents.appPolicy.toDict lib)
  | .nodeGroups => itemsSection (contents.nodeGroups.map NodeGroup.toDict)
  | .routeChains => routeChainsSection contents.routeChains
  | .selectionState => selectionStateSection contents.state
  | .dnsPolicy => policySection (contents.dnsPolicy.toDict lib)
  | .metricsPolicy => metricsSection contents.metrics
  | .backupPolicy => backupPolicySection
  | .metadata => metadataSection info
  | .diagnostics => diagnosticsSection info

theorem collectSection_eq {disk : Disk B} {contents : Contents lib}
    (h : Loads tools.toTextLibrary disk contents)
    (info : BackupInfo) (s : Section) : collectSection tools disk info s = .ok (payload contents info s) := by
  cases s with
  | settings => rw [collectSection, h.config]; rfl
  | profiles => rw [collectSection, h.profiles]; rfl
  | providers | providerState => rw [collectSection, h.providers]; rfl
  | routingRules => rw [collectSection, h.groups]; rfl
  | appPolicy => rw [collectSection, h.appPolicy]; rfl
  | nodeGroups => rw [collectSection, h.nodeGroups]; rfl
  | routeChains => rw [collectSection, h.routeChains]; rfl
  | selectionState => rw [collectSection, h.state]; rfl
  | dnsPolicy => rw [collectSection, h.dnsPolicy]; rfl
  | metricsPolicy => rw [collectSection, h.metrics]; rfl
  | backupPolicy | metadata | diagnostics => rfl

def sensitiveWarning : String :=
  "Backup may contain private keys, passwords, provider tokens, subscription URLs, routing policy, " ++
    "app policy, route chains and local selection state. Store and share it as sensitive data."

variable (selected : List Section)

/-- The sections that were collected, in the order of `SECTION_FILE_BY_NAME`. -/
def listedSections : List Section := Section.all.filter (· ∈ selected)

def sectionFiles : Object := (listedSections selected).map fun s => (s.name, .str s.entry)

def manifest : Object :=
  [("schema_version", .int 1), ("product", .str "WatchdogVPN"), ("created_at", .str info.createdAt),
    ("reason", .str info.reason), ("format", .str "watchdogvpn-backup-zip"), ("section_schema_version", .int 1),
    ("sections", texts ((listedSections selected).map Section.name)),
    ("section_files", .obj (sectionFiles selected)),
    ("sensitive", .bool true), ("sensitive_warning", .str sensitiveWarning),
    ("encryption", .obj [("enabled", .bool false), ("supported", .bool tools.encryptionSupported),
      ("format", .null)]),
    ("notes", texts [sensitiveWarning, "plaintext backup; use encrypt=True for encrypted backup archives",
      "metrics-policy excludes metrics history and counters"])]

def backupEncryptionFormat : String := "watchdogvpn-backup-aesgcm-scrypt-v1"

def backupEncryptionAad : String := "WatchdogVPN encrypted backup v1"

def kdfParams : Object := [("n", .int 16384), ("r", .int 8), ("p", .int 1), ("length", .int 32)]

def encryptionMetadata (salt nonce : List UInt8) : Object :=
  [("enabled", .bool true), ("supported", .bool tools.encryptionSupported),
    ("format", .str backupEncryptionFormat),
    ("algorithm", .str "AES-256-GCM"), ("kdf", .str "scrypt"), ("kdf_params", .obj kdfParams),
    ("salt", .str (tools.b64Encode salt)), ("nonce", .str (tools.b64Encode nonce)),
    ("aad", .str backupEncryptionAad)]

def encryptedManifest (salt nonce : List UInt8) : Object :=
  [("schema_version", .int 1), ("product", .str "WatchdogVPN"), ("created_at", .str info.createdAt),
    ("reason", .str info.reason), ("format", .str "watchdogvpn-encrypted-backup-zip"),
    ("section_schema_version", .int 1), ("sections", texts ((listedSections selected).map Section.name)),
    ("section_files", .obj (sectionFiles selected)), ("sensitive", .bool true),
    ("sensitive_warning", .str sensitiveWarning), ("encryption", .obj (encryptionMetadata tools salt nonce)),
    ("notes", texts [sensitiveWarning, "payload.bin contains an encrypted full WatchdogVPN backup archive",
      "password recovery is not available if the passphrase is lost",
      "metrics-policy excludes metrics history and counters"])]

/-- The entries of `_write_plaintext_archive`. -/
def plaintextEntries (sections : List (Section × Object)) : List (String × B) :=
  ("manifest.json", tools.dumps (.obj (manifest tools info (sections.map Prod.fst)))) ::
    sections.map fun s => (s.1.entry, tools.dumps (.obj s.2))

/-- The salt and the nonce of a backup, from `os.urandom`. -/
structure Randomness where
  salt : List UInt8
  nonce : List UInt8
  saltSize : salt.length = 16
  nonceSize : nonce.length = 12

structure BackupRequest where
  info : BackupInfo
  sections : Option (List String)
  encrypt : Bool
  password : Option String
  random : Randomness

def passwordBytes (password : Option String) : Except BackupFailure String :=
  match password with
  | none => .error (.backup "encrypted backup password is required")
  | some password => do
    check (password ≠ "") "encrypted backup password is required"
    return password

/-- The entries of the archive around an encrypted one. -/
def encryptedEntries (request : BackupRequest) (selected : List Section) (password : String) (plaintext : B) :
    List (String × B) :=
  [("manifest.json", tools.dumps (.obj
      (encryptedManifest tools request.info selected request.random.salt request.random.nonce))),
    ("payload.bin", tools.encrypt password request.random.salt request.random.nonce plaintext)]

/-- `create_backup`: the bytes of the archive. -/
def createBackup (disk : Disk B) (request : BackupRequest) : Except BackupFailure B := do
  let selected ← normalizeSections (request.sections.getD (Section.defaults.map Section.name))
  let sections ← selected.mapM fun s => do return (s, ← collectSection tools disk request.info s)
  let plaintext := tools.pack (plaintextEntries tools request.info sections)
  if request.encrypt then
    let password ← passwordBytes request.password
    check (tools.encryptionSupported = true) "backup encryption requires the optional cryptography dependency"
    return tools.pack (encryptedEntries tools request selected password plaintext)
  else return plaintext

/-! ## Limits -/

def maxArchiveMembers : Nat := 32

def maxCompressedBytes : Nat := 16 * 1024 * 1024

def maxMemberUncompressedBytes : Nat := 2 * 1024 * 1024

def maxTotalUncompressedBytes : Nat := 8 * 1024 * 1024

def maxCompressionRatio : Nat := 100

structure Member.WithinLimits (member : Member B) : Prop where
  fileSize : member.fileSize ≤ maxMemberUncompressedBytes
  compressSize : member.compressSize ≤ maxCompressedBytes
  ratio : member.fileSize ≤ maxCompressionRatio * max member.compressSize 1

structure WithinLimits (members : List (Member B)) : Prop where
  count : members.length ≤ maxArchiveMembers
  compressed : (members.map (·.compressSize)).sum ≤ maxCompressedBytes
  uncompressed : (members.map (·.fileSize)).sum ≤ maxTotalUncompressedBytes
  each : ∀ member ∈ members, member.WithinLimits

/-- The loop of `_validate_archive_limits`. -/
def validateMembers : List (Member B) → Except BackupFailure Unit
  | [] => .ok ()
  | member :: members => do
    check (member.fileSize ≤ maxMemberUncompressedBytes)
      ("backup member uncompressed size exceeds limit: " ++ member.name)
    check (member.compressSize ≤ maxCompressedBytes)
      ("backup member compressed size exceeds limit: " ++ member.name)
    check (member.fileSize ≤ maxCompressionRatio * max member.compressSize 1)
      ("backup member compression ratio exceeds limit: " ++ member.name)
    validateMembers members

def validateArchiveLimits (members : List (Member B)) : Except BackupFailure Unit := do
  check (members.length ≤ maxArchiveMembers) "backup archive member count exceeds limit"
  check ((members.map (·.compressSize)).sum ≤ maxCompressedBytes) "backup compressed size exceeds limit"
  check ((members.map (·.fileSize)).sum ≤ maxTotalUncompressedBytes)
    "backup aggregate uncompressed size exceeds limit"
  validateMembers members

/-- `_read_archive_entry`, with the bytes read so far and after it. -/
def readArchiveEntry (members : List (Member B)) (entry : String) (budget : Nat) :
    Except BackupFailure (B × Nat) :=
  match members.find? fun member => member.name == entry with
  | none => .error (.backup ("backup missing " ++ entry))
  | some member => do
    check (member.fileSize ≤ maxMemberUncompressedBytes)
      ("backup member uncompressed size exceeds limit: " ++ entry)
    check (tools.size member.content ≤ maxMemberUncompressedBytes)
      ("backup member uncompressed size exceeds limit: " ++ entry)
    check (budget + tools.size member.content ≤ maxTotalUncompressedBytes)
      "backup aggregate uncompressed size exceeds limit"
    return (member.content, budget + tools.size member.content)

def loadArchiveJson (members : List (Member B)) (entry : String) (budget : Nat) :
    Except BackupFailure (Json × Nat) := do
  let (content, budget) ← readArchiveEntry tools members entry budget
  match tools.loads content with
  | .ok value => return (value, budget)
  | .error _ => .error (.backup (entry ++ " is not valid JSON"))

/-! ## Reading -/

def requireObject (value : Json) (name : String) : Except BackupFailure Object :=
  match value with
  | .obj fields => .ok fields
  | _ => .error (.backup (name ++ " must be a JSON object"))

/-- `_require_list`. -/
def requireArray (value : Json) (name : String) : Except BackupFailure (List Json) :=
  match value with
  | .arr items => .ok items
  | _ => .error (.backup (name ++ " must be a JSON array"))

/-- A value is equal to an integer in Python. -/
def equalsInt (k : Int) : Option Json → Bool
  | some (.int n) => n == k
  | some (.bool b) => (if b then 1 else 0) == k
  | some (.float text) => text == toString k ++ ".0"
  | _ => false

def equalsText (expected : String) : Option Json → Bool
  | some (.str text) => text == expected
  | _ => false

/-- `value is b`. -/
def isBool (b : Bool) : Option Json → Bool
  | some (.bool b') => b' == b
  | _ => false

/-- A dictionary has the same entries as another one whose keys are distinct. -/
def sameEntries {A : Type} (same : A → Option Json → Bool) (fields : Object)
    (expected : List (String × A)) : Bool :=
  fields.length == expected.length && expected.all fun entry => same entry.2 (fields.get entry.1)

/-- `PurePosixPath(name).parts`, without a root. -/
def pathParts (name : String) : List String :=
  ((name.toList.splitOn '/').map String.ofList).filter fun part => part ≠ "" ∧ part ≠ "."

/-- The name is a relative path with one part, which is not `..`. -/
def isPlainName (name : String) : Bool :=
  name.toList.head? ≠ some '/' ∧ ".." ∉ pathParts name ∧ (pathParts name).length = 1

def supportedEntries : List String := "manifest.json" :: Section.all.map Section.entry

/-- The loop of `_validate_entry_names`. -/
def validateNames : List String → Except BackupFailure Unit
  | [] => .ok ()
  | name :: names => do
    check (isPlainName name = true) ("backup contains unsafe path: " ++ name)
    check (name ∈ supportedEntries) ("backup contains unsupported entry: " ++ name)
    validateNames names

def validateEntryNames (names : List String) : Except BackupFailure Unit := do
  check names.Nodup "backup contains duplicate entries"
  validateNames names
  check ("manifest.json" ∈ names) "backup missing manifest.json"

/-- The sections of a manifest with the files that it says they have. -/
def manifestSections (manifest : Object) : Except BackupFailure (List Section) := do
  let files ← requireObject (manifest.getD "section_files" .null) "manifest.section_files"
  let sections ← requireArray (manifest.getD "sections" .null) "manifest.sections"
  let normalized ← normalizeSections (sections.map Json.toStr)
  check (normalized.length = sections.length) "manifest contains duplicate sections"
  check (sameEntries equalsText files (normalized.map fun s => (s.name, s.entry)) = true)
    "manifest section_files do not match supported files"
  return normalized

def sameMembers (names expected : List String) : Bool :=
  names.all (expected.contains ·) && expected.all (names.contains ·)

def validateManifest (manifest : Object) (names : List String) : Except BackupFailure Unit := do
  check (equalsInt 1 (manifest.get "schema_version") = true) "unsupported backup schema_version"
  check (equalsText "WatchdogVPN" (manifest.get "product") = true) "backup product is not WatchdogVPN"
  let encryption ← requireObject
      (manifest.getD "encryption" (.obj [("enabled", .bool false)])) "manifest.encryption"
  check (isBool false (encryption.get "enabled") = true) "encrypted backups must use the encrypted container"
  let sections ← manifestSections manifest
  check (sameMembers names ("manifest.json" :: sections.map Section.entry) = true)
    "backup entries do not match manifest contract"

def validateOpenvpnProfile (L : OpenVpn.Lowering) (profile : Profile D) : Except String Unit :=
  if profile.protocol = .openvpn ∨ profile.protocol = .openvpnCloak then
    let rawConfig := match profile.config.get "raw_config" with
      | some value => if value.truthy then value.toStr else ""
      | none => ""
    if stripped rawConfig = "" then .error (profile.protocol.value ++ " profile requires raw_config")
    else (L.validateOpenvpnConfig (stripped rawConfig).toList).map fun _ => ()
  else .ok ()

def validateProfileItem (item : Json) : Except BackupFailure Unit := do
  let profile ← ofStore (Profile.fromDict lib (← requireObject item "profile"))
  match validateOpenvpnProfile tools.openvpn profile with
  | .ok () => return ()
  | .error e => .error (.backup ("profiles.json contains unsafe OpenVPN profile: " ++ e))

/-- An item that a store's `from_dict` reads. -/
def storeItem {A : Type} (fromDict : Object → Except Error A) (name : String) (item : Json) :
    Except BackupFailure A := do
  ofStore (fromDict (← requireObject item name))

def parseOptionalDatetime (lib : Library D) (value : Json) : Except BackupFailure (Option D) :=
  match value with
  | .null => .ok none
  | .str text =>
    if text = "" then .ok none
    else
      match lib.fromIso text with
      | some t => .ok (some t)
      | none => .error (.backup "provider-state last_updated must be ISO-8601")
  | _ => .error (.backup "provider-state last_updated must be a string or null")

def validateProviderStateItem (lib : Library D) (item : Json) : Except BackupFailure Unit := do
  let state ← requireObject item "provider-state item"
  match state.get "id" with
  | some (.str _) => do
    let _ ← parseOptionalDatetime lib (state.getD "last_updated" .null)
    let _ ← requireObject (state.getD "metadata" (.obj [])) "provider-state metadata"
    return ()
  | _ => .error (.backup "provider-state item id must be a string")

def metricsPolicyDocument (lib : Library D) (data : Object) : Except Error (MetricsDocument lib) :=
  MetricsDocument.fromDict lib [("schema_version", .int 1), ("enabled", data.getD "enabled" (.bool false)),
    ("retention_days", data.getD "retention_days" (.int 7)),
    ("redaction_mode", data.getD "redaction_mode" (.str "aggregate")),
    ("max_bytes", data.getD "max_bytes" (.int 1048576)), ("buckets", .arr []),
    ("updated_at", data.getD "updated_at" .null)]

def validateMaxBackups (value : Json) : Except BackupFailure Unit :=
  match value with
  | .int n => do
    check (1 ≤ n) "backup-policy retention.max_backups must be at least 1"
    check (n ≤ 100) "backup-policy retention.max_backups must be at most 100"
  | _ => .error (.backup "backup-policy retention.max_backups must be an integer")

/-- What `_validate_section` checks of each section. -/
def checkSection (data : Object) : Section → Except BackupFailure Unit
  | .settings => do
    let _ ← ofStore (AppConfig.fromDict lib (← requireObject (data.getD "config" .null) "settings.config"))
  | .profiles => do
    let _ ← (← requireArray (data.getD "items" .null) "profiles.items").mapM (validateProfileItem tools)
  | .providers => do
    let _ ← (← requireArray (data.getD "items" .null) "providers.items").mapM
      (storeItem (Provider.fromDict lib) "provider")
  | .providerState => do
    let _ ← (← requireArray (data.getD "items" .null) "provider-state.items").mapM
        (validateProviderStateItem lib)
  | .routingRules => do
    let _ ← (← requireArray (data.getD "groups" .null) "routing-rules.groups").mapM
      (storeItem Rules.RuleGroup.fromDict "routing rule group")
  | .appPolicy => do
    let _ ← ofStore (AppPolicy.fromDict lib (← requireObject (data.getD "policy" .null) "app-policy.policy"))
  | .nodeGroups => do
    let _ ← (← requireArray (data.getD "items" .null) "node-groups.items").mapM
      (storeItem NodeGroup.fromDict "node group")
  | .routeChains => do
    let _ ← ofStore (RouteChainDocument.fromDict
      (← requireObject (data.getD "document" .null) "route-chains.document"))
  | .selectionState => do
    let _ ← ofStore (State.fromDict (← requireObject (data.getD "state" .null) "selection-state.state"))
  | .dnsPolicy => do
    let _ ← ofStore (DNSPolicy.fromDict lib (← requireObject (data.getD "policy" .null) "dns-policy.policy"))
  | .metricsPolicy => do
    let _ ← ofStore (metricsPolicyDocument lib data)
  | .backupPolicy => do
    let _ ← requireObject (data.getD "auto_backup" .null) "backup-policy.auto_backup"
    let retention ← requireObject (data.getD "retention" .null) "backup-policy.retention"
    validateMaxBackups (retention.getD "max_backups" (.int 10))
    check (isBool true (data.get "remote_upload") = true ∨ isBool false (data.get "remote_upload") = true)
      "backup-policy.remote_upload must be a boolean"
  | .metadata => check (equalsText "WatchdogVPN" (data.get "product") = true)
      "metadata product is not WatchdogVPN"
  | .diagnostics => do
    let _ ← requireObject (data.getD "payload" .null) "diagnostics.payload"
    check (isBool true (data.get "included_by_explicit_request") = true)
      "diagnostics must be explicitly requested"

def validateSection (s : Section) (value : Json) : Except BackupFailure Object := do
  let data ← requireObject value s.entry
  check (equalsInt 1 (data.get "schema_version") = true) (s.entry ++ " has unsupported schema_version")
  checkSection tools data s
  return data

/-- An exception of a store becomes one of the backup. -/
def asBackupFailure : BackupFailure → BackupFailure
  | .backup message => .backup message
  | .store e => .backup ("invalid backup section: " ++ e.message)

/-- The sections of an archive, in the order of its members. -/
def loadSections (members : List (Member B)) : List String → Nat →
    Except BackupFailure (List (Section × Object))
  | [], _ => .ok []
  | name :: names, budget =>
    match Section.all.find? fun s => s.entry == name with
    | none => .error (.backup ("unsupported backup section: " ++ name))
    | some s => do
      let (value, budget) ← loadArchiveJson tools members name budget
      let data ← (validateSection tools s value).mapError asBackupFailure
      let rest ← loadSections members names budget
      return (s, data) :: rest

structure ParsedBackup where
  manifest : Object
  sections : List (Section × Object)
  encrypted : Bool

/-- `_inspect_plaintext_archive`. -/
def inspectPlaintext (members : List (Member B)) : Except BackupFailure ParsedBackup := do
  validateArchiveLimits members
  let names := members.map (·.name)
  validateEntryNames names
  let (value, budget) ← loadArchiveJson tools members "manifest.json" 0
  let manifest ← requireObject value "manifest.json"
  validateManifest manifest names
  let sections ← loadSections tools members (names.filter (· ≠ "manifest.json")) budget
  return { manifest, sections, encrypted := false }

def b64Decode (text name : String) : Except BackupFailure (List UInt8) :=
  match tools.b64Decode text with
  | some b => .ok b
  | none => .error (.backup (name ++ " is not valid base64"))

/-- `_validate_encryption_metadata`, with the salt and the nonce. -/
def validateEncryptionMetadata (encryption : Object) : Except BackupFailure (List UInt8 × List UInt8) := do
  check (isBool true (encryption.get "enabled") = true) "encrypted backup manifest must enable encryption"
  check (equalsText backupEncryptionFormat (encryption.get "format") = true)
    "unsupported encrypted backup format"
  check (equalsText "AES-256-GCM" (encryption.get "algorithm") = true) "unsupported encrypted backup algorithm"
  check (equalsText "scrypt" (encryption.get "kdf") = true) "unsupported encrypted backup KDF"
  let params ← requireObject (encryption.getD "kdf_params" .null) "manifest.encryption.kdf_params"
  check (sameEntries equalsInt params [("n", 16384), ("r", 8), ("p", 1), ("length", 32)] = true)
    "unsupported encrypted backup KDF parameters"
  check (equalsText backupEncryptionAad (encryption.get "aad") = true) "unsupported encrypted backup AAD"
  let salt ← b64Decode tools (encryption.getD "salt" (.str "")).toStr "manifest.encryption.salt"
  let nonce ← b64Decode tools (encryption.getD "nonce" (.str "")).toStr "manifest.encryption.nonce"
  check (salt.length = 16) "encrypted backup salt has invalid length"
  check (nonce.length = 12) "encrypted backup nonce has invalid length"
  return (salt, nonce)

/-- `_validate_encrypted_manifest`, with the salt and the nonce. -/
def validateEncryptedManifest (manifest : Object) : Except BackupFailure (List UInt8 × List UInt8) := do
  check (equalsInt 1 (manifest.get "schema_version") = true) "unsupported encrypted backup schema_version"
  check (equalsText "WatchdogVPN" (manifest.get "product") = true) "encrypted backup product is not WatchdogVPN"
  check (equalsText "watchdogvpn-encrypted-backup-zip" (manifest.get "format") = true)
    "unsupported encrypted backup format"
  let encryption ← requireObject (manifest.getD "encryption" .null) "manifest.encryption"
  let random ← validateEncryptionMetadata tools encryption
  let _ ← manifestSections manifest
  return random

/-- The loop of `_validate_encrypted_entry_names`. -/
def validateEncryptedNames : List String → Except BackupFailure Unit
  | [] => .ok ()
  | name :: names => do
    check (isPlainName name = true) ("encrypted backup contains unsafe path: " ++ name)
    validateEncryptedNames names

def validateEncryptedEntryNames (names : List String) : Except BackupFailure Unit := do
  check names.Nodup "encrypted backup contains duplicate entries"
  validateEncryptedNames names
  check (sameMembers names ["manifest.json", "payload.bin"] = true)
    "encrypted backup entries do not match manifest contract"

def decryptBackupPayload (ciphertext : B) (random : List UInt8 × List UInt8)
    (password : Option String) : Except BackupFailure B := do
  check (tools.encryptionSupported = true) "backup encryption requires the optional cryptography dependency"
  let password ← passwordBytes password
  match tools.decrypt password random.1 random.2 ciphertext with
  | some plaintext => return plaintext
  | none => .error (.backup "encrypted backup password is incorrect or payload authentication failed")

/-- `_inspect_encrypted_backup`. -/
def inspectEncrypted (members : List (Member B)) (password : Option String) :
    Except BackupFailure ParsedBackup := do
  validateEncryptedEntryNames (members.map (·.name))
  let (value, budget) ← loadArchiveJson tools members "manifest.json" 0
  let manifest ← requireObject value "manifest.json"
  let random ← validateEncryptedManifest tools manifest
  let (ciphertext, _) ← readArchiveEntry tools members "payload.bin" budget
  let plaintext ← decryptBackupPayload tools ciphertext random password
  check (tools.size plaintext ≤ maxCompressedBytes) "encrypted backup plaintext exceeds compressed-byte limit"
  match tools.unpack plaintext with
  | none => .error (.backup "encrypted backup payload is not a valid zip")
  | some inner => do
    let parsed ← inspectPlaintext tools inner
    return { parsed with encrypted := true }

/-- `inspect_backup`, for the bytes of the file. -/
def inspectBackup (archive : B) (password : Option String) : Except BackupFailure ParsedBackup := do
  check (tools.size archive ≤ maxCompressedBytes) "backup compressed size exceeds limit"
  match tools.unpack archive with
  | none => .error (.backup "invalid backup zip")
  | some members => do
    validateArchiveLimits members
    if "payload.bin" ∈ members.map (·.name) then inspectEncrypted tools members password
    else inspectPlaintext tools members

end WatchdogVpn.Backup
