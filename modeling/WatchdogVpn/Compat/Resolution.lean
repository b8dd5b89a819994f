import WatchdogVpn.Lib.Json
import Mathlib.Data.List.Sort

/-!
# The resolver of dependencies

A dependency has a chain of methods that could provide it, each with a priority. The resolver walks
down the chain: a method that is not made for this host or lacks the metadata that would pin it is
passed over, and of the others an availability provider is asked whether their packages,
repositories, artifacts or sources exist.

* `Provider` is any provider: its answer to a call may depend on everything it was asked before.
* `providerCall` is what the resolver makes of an answer.
* `checkCandidateAvailability` asks what has to be asked for one method.
* `resolveDependency` is the walk.
-/

namespace WatchdogVpn.Compat

/-! ## The manifest -/

inductive MethodKind
  | officialPackageExact
  | externalRepoExact
  | officialArtifactPinned
  | pinnedSourceBuild
  | other (name : String)
  deriving DecidableEq

inductive TargetIdentity
  | resolvedRelease
  | mappedBaseRelease
  | rollingDistribution
  | other (name : String)
  deriving DecidableEq

inductive ImplementationStatus
  | implemented
  | other (name : String)
  deriving DecidableEq

structure TargetScope where
  technicalFamilies : List String
  rollingDistributions : List String := []
  stableReleases : List String := []

/-- An asset of an artifact, in the manifest and as it is selected. -/
structure SelectedArtifact where
  architecture : String
  assetName : String
  archiveOrBinaryKind : String
  officialDownloadBase : String
  sha256 : String
  expectedExecutable : String

structure Repository where
  id : Option String := none
  series : Option String := none
  url : Option String := none

structure CompatibleTarget where
  targetId : Option String := none
  series : Option String := none

/-- The fields of `data` that the resolver reads. -/
structure MethodData where
  evidence : List String := []
  packageNames : List String := []
  exposedPackageNames : List String := []
  repositoryPackage : Option String := none
  repository : Repository := {}
  compatibleTargets : List CompatibleTarget := []
  assets : List SelectedArtifact := []
  integrity : PyDict String Json := []
  components : List (PyDict String Json) := []
  revision : Option Json := none
  revisionType : Option Json := none

structure MethodCandidate where
  methodId : String
  priority : Int
  kind : MethodKind
  targetIdentity : TargetIdentity
  targetScope : TargetScope
  architectures : List String
  implementationStatus : ImplementationStatus
  data : MethodData := {}

structure DependencyRequirement where
  dependencyId : String
  capabilityId : String
  methodChain : List MethodCandidate

structure Manifest where
  coreHostCapabilities : List String
  protocolCapabilities : List String
  /-- The capability and the methods of each dependency, in the order of the document. -/
  dependencyRequirements : PyDict String (String × List MethodCandidate)

inductive Failure
  | dependencyResolution (message : String)
  /-- The `TypeError` of a value that cannot be hashed. -/
  | unhashable
  deriving DecidableEq

def loadRequirement (manifest : Manifest) (dependencyId : String) : Except Failure DependencyRequirement :=
  match manifest.dependencyRequirements.get dependencyId with
  | none => .error (.dependencyResolution ("unknown dependency: " ++ dependencyId))
  | some (capabilityId, chain) =>
    if (chain.map MethodCandidate.priority).Nodup then
      .ok ⟨dependencyId, capabilityId, chain.insertionSort fun a b => a.priority ≤ b.priority⟩
    else .error (.dependencyResolution ("dependency " ++ dependencyId ++ " has duplicate priorities"))

/-! ## The host -/

inductive ReleaseModel
  | stable
  | rolling
  | other (name : String)
  deriving DecidableEq

structure DistroFacts where
  resolvedDistribution : Option String
  resolvedRelease : Option String
  technicalFamily : Option String
  releaseModel : Option ReleaseModel
  machineArchitecture : Option String
  mappedBaseRelease : Option String

inductive SupportClassification
  | certified
  | supported
  | familyInferred
  | experimental
  | unsupported
  deriving DecidableEq

/-- `SupportClassification(value)`. -/
def SupportClassification.ofValue? : String → Option SupportClassification
  | "certified" => some certified
  | "supported" => some supported
  | "family_inferred" => some familyInferred
  | "experimental" => some experimental
  | "unsupported" => some unsupported
  | _ => none

def validateSupportClassification (value : String) : Except Failure SupportClassification :=
  match SupportClassification.ofValue? value with
  | some classification => .ok classification
  | none => .error (.dependencyResolution ("invalid support_classification: " ++ value))

/-- The values of `CoreCapabilityStatus` and of `ProtocolRuntimeStatus`. -/
inductive CapabilityStatus
  | present
  | provisionable
  | preparationFailed
  | absent
  | impossible
  deriving DecidableEq

namespace CapabilityStatus

/-- `CoreCapabilityStatus(value)`. -/
def ofCore? : String → Option CapabilityStatus
  | "present" => some present
  | "provisionable" => some provisionable
  | "preparation_failed" => some preparationFailed
  | "impossible" => some impossible
  | _ => none

/-- `ProtocolRuntimeStatus(value)`. -/
def ofProtocol? : String → Option CapabilityStatus
  | "present" => some present
  | "provisionable" => some provisionable
  | "absent" => some absent
  | "impossible" => some impossible
  | _ => none

end CapabilityStatus

structure CapabilityResult where
  capabilityId : String
  domainStatus : String

def capabilityStatus (manifest : Manifest) (results : List CapabilityResult) (capabilityId : String) :
    Except Failure (Option CapabilityStatus) :=
  let allCaps := manifest.coreHostCapabilities ++ manifest.protocolCapabilities
  if capabilityId ∉ allCaps then
    .error (.dependencyResolution ("dependency references unknown capability: " ++ capabilityId))
  else
    match results.find? fun result => decide (result.capabilityId ∉ allCaps) with
    | some result =>
      .error (.dependencyResolution ("capability result references unknown capability: " ++
        result.capabilityId))
    | none =>
      match results.filter fun result => decide (result.capabilityId = capabilityId) with
      | [] => .ok none
      | [result] =>
        let known := if capabilityId ∈
          manifest.coreHostCapabilities then CapabilityStatus.ofCore? result.domainStatus
          else CapabilityStatus.ofProtocol? result.domainStatus
        match known with
        | some status => .ok (some status)
        | none => .error (.dependencyResolution
            ("invalid domain_status for " ++ capabilityId ++ ": " ++ result.domainStatus))
      | _ :: _ :: _ => .error (.dependencyResolution ("duplicate capability result for " ++ capabilityId))

/-! ## The provider -/

inductive AvailabilityStatus
  | available
  | unavailable
  | unknown
  | timeout
  | permissionDenied
  | malformedResponse
  | providerError
  deriving DecidableEq

def AvailabilityStatus.value : AvailabilityStatus → String
  | available => "available"
  | unavailable => "unavailable"
  | unknown => "unknown"
  | timeout => "timeout"
  | permissionDenied => "permission_denied"
  | malformedResponse => "malformed_response"
  | providerError => "provider_error"

structure AvailabilityObservation where
  status : AvailabilityStatus
  evidence : String := ""
  reason : String := ""
  errorKind : Option String := none

inductive Operation
  | packageExists
  | repositorySupportsExactTarget
  | artifactExists
  | artifactIntegrityMetadataAvailable
  | sourceRevisionAvailable
  deriving DecidableEq

structure Call where
  operation : Operation
  candidate : MethodCandidate
  targetId : String
  packageName : Option String := none
  selectedAsset : Option SelectedArtifact := none

inductive RawStatus
  | ofStatus (status : AvailabilityStatus)
  /-- Another value that can be hashed, with its `str`. -/
  | other (text : String)
  | unhashable

/-- The fields of an `ArtifactAvailabilityObservation`; a value that is not a text is `none`. -/
structure ArtifactIdentity where
  targetId : Option String
  architecture : Option String
  assetName : Option String
  officialDownloadBase : Option String
  sha256 : Option String
  expectedExecutable : Option String

inductive RawErrorKind
  | absent
  | text (kind : String)
  | notText

structure RawObservation where
  status : RawStatus
  /-- `none` if it is not a text. -/
  evidence : Option String
  reason : Option String
  errorKind : RawErrorKind
  /-- Present for an `ArtifactAvailabilityObservation`. -/
  artifact : Option ArtifactIdentity := none

inductive Answer
  | raised (text : String)
  | notAnObservation
  | observation (raw : RawObservation)

/-- A provider with a state of its own. -/
structure Provider (σ : Type) where
  providerType : String
  authoritative : Bool
  call : Call → σ → Answer × σ

/-- Computations that ask a provider and may raise. -/
abbrev Resolving (σ α : Type) : Type := StateT σ (Except Failure) α

/-- The first field of an answer that is not the one of the selected asset. -/
def providerAssetMismatch (status : AvailabilityStatus) (artifact : Option ArtifactIdentity) (targetId : String)
    (asset : SelectedArtifact) : Option String :=
  if status ≠ .available then none
  else
    match artifact with
    | none => some "artifact provider returned available without structured artifact identity"
    | some identity =>
      let fields := [("target_id", identity.targetId, targetId),
        ("architecture", identity.architecture, asset.architecture),
        ("asset_name", identity.assetName, asset.assetName),
        ("official_download_base", identity.officialDownloadBase, asset.officialDownloadBase),
        ("sha256", identity.sha256, asset.sha256),
        ("expected_executable", identity.expectedExecutable, asset.expectedExecutable)]
      (fields.find? fun field => decide (field.2.1 ≠ some field.2.2)).map fun field =>
        "artifact provider " ++ field.1 ++ " mismatch"

/-- An observation that reports an error of the provider. -/
def providerFault (reason : String) (evidence : String := "") (errorKind : String := "provider_error") :
    AvailabilityObservation :=
  { status := .providerError, evidence, reason, errorKind := some errorKind }

/-- The checks of `_provider_call` on an observation whose status is known. -/
def checkedObservation (authoritative : Bool) (call : Call) (status : AvailabilityStatus)
    (raw : RawObservation) : AvailabilityObservation :=
  match raw.evidence, raw.reason, raw.errorKind with
  | none, _, _ => providerFault "availability provider returned invalid evidence"
  | some _, none, _ => providerFault "availability provider returned invalid reason"
  | some _, some _, .notText => providerFault "availability provider returned invalid error_kind"
  | some evidence, some reason, errorKind =>
    if authoritative && status = .available && evidence = "" then
      providerFault "authoritative provider returned available without evidence"
    else
      match call.selectedAsset.bind (providerAssetMismatch status raw.artifact call.targetId) with
      | some mismatch => providerFault mismatch evidence "artifact_subject_mismatch"
      | none =>
        { status := status, evidence, reason,
          errorKind := match errorKind with
            | .text kind => some kind
            | _ => none }

/-- What the resolver makes of an answer. -/
def checkedAnswer (authoritative : Bool) (call : Call) : Answer → Except Failure AvailabilityObservation
  | .raised text => .ok (providerFault "availability provider raised an exception" text)
  | .notAnObservation => .ok (providerFault "availability provider returned invalid observation")
  | .observation raw =>
    match raw.status with
    -- membership in a set of texts
    | .unhashable => .error .unhashable
    | .other text => .ok (providerFault "availability provider returned invalid status" text)
    | .ofStatus status => .ok (checkedObservation authoritative call status raw)

variable {σ : Type} (P : Provider σ)

def providerCall (call : Call) : Resolving σ AvailabilityObservation := fun s =>
  match checkedAnswer P.authoritative call (P.call call s).1 with
  | .ok observation => .ok (observation, (P.call call s).2)
  | .error failure => .error failure

/-! ## What is recorded of the calls -/

structure ObservationRecord where
  candidatePriority : Int
  operation : String
  methodId : String
  target : String
  status : AvailabilityStatus
  evidence : String
  reason : String
  errorKind : Option String
  providerType : String
  providerAuthoritative : Bool
  packageName : Option String
  packageOrigin : Option String
  asset : Option SelectedArtifact
  repository : Option Repository

/-- `"%s" % value` of a value that may be `None`. -/
def optionalText : Option String → String
  | some text => text
  | none => "None"

def observationRecord (operation : String) (candidate : MethodCandidate) (targetId : String)
    (packageName : Option String)
    (result : AvailabilityObservation) (selectedAsset : Option SelectedArtifact := none) :
    ObservationRecord where
  candidatePriority := candidate.priority
  operation := operation
  methodId := candidate.methodId
  target := targetId
  status := result.status
  evidence := result.evidence
  reason := result.reason
  errorKind := result.errorKind
  providerType := P.providerType
  providerAuthoritative := P.authoritative
  packageName := packageName
  packageOrigin :=
    if candidate.kind = .externalRepoExact then
      packageName.map fun name =>
        if name ∈ candidate.data.exposedPackageNames then
          "external_repository:" ++ optionalText candidate.data.repository.id
        else "base_repository"
    else none
  asset := selectedAsset
  repository := if candidate.kind = .externalRepoExact then some candidate.data.repository else none

/-! ## One candidate -/

structure CandidateRejection where
  methodId : String
  methodKind : MethodKind
  reason : String
  evidence : String := ""
  errorKind : Option String := none

variable (candidate : MethodCandidate)

/-- A rejection of a candidate that is not for this host. -/
def MethodCandidate.notForTarget (reason : String) : CandidateRejection :=
  { methodId := candidate.methodId, methodKind := candidate.kind, reason }

/-- `_candidate_target`: the target the candidate is looked up for, or its rejection. -/
def candidateTarget (facts : DistroFacts) (candidate : MethodCandidate) : Except CandidateRejection String :=
  if ∀ family ∈ facts.technicalFamily, family ∉ candidate.targetScope.technicalFamilies then
    .error (candidate.notForTarget "technical_family_not_applicable")
  else if ∀ architecture ∈ facts.machineArchitecture, architecture ∉ candidate.architectures then
    .error (candidate.notForTarget "architecture_not_supported")
  else if facts.releaseModel = some .rolling then
    if candidate.targetIdentity ≠ .rollingDistribution then
      .error (candidate.notForTarget "rolling_target_requires_rolling_identity")
    else
      match facts.resolvedDistribution with
      | some distribution =>
        if distribution ∈ candidate.targetScope.rollingDistributions then .ok distribution
        else .error (candidate.notForTarget "rolling_distribution_not_explicitly_targeted")
      | none => .error (candidate.notForTarget "rolling_distribution_not_explicitly_targeted")
  else if facts.releaseModel ≠ some .stable then .error (candidate.notForTarget "release_model_unknown")
  else
    match facts.resolvedRelease with
    | none => .error (candidate.notForTarget "release_unknown")
    | some release =>
      if release ∉ candidate.targetScope.stableReleases then
        .error (candidate.notForTarget "stable_release_not_explicitly_targeted")
      else
        match candidate.targetIdentity with
        | .mappedBaseRelease =>
          match facts.mappedBaseRelease with
          | none => .error (candidate.notForTarget "mapped_base_release_absent")
          | some base =>
            if base = "" then .error (candidate.notForTarget "mapped_base_release_absent") else .ok base
        | .rollingDistribution => .error (candidate.notForTarget "stable_target_cannot_use_rolling_identity")
        | .other _ => .error (candidate.notForTarget "unknown_target_identity")
        | .resolvedRelease => .ok release

def isHex (length : Nat) : Option Json → Bool
  | some (.str text) => text.length = length && text.toList.all fun c => c ∈ "0123456789abcdefABCDEF".toList
  | _ => false

def isSha256 (value : Option Json) : Bool := isHex 64 value

def isGitCommit (value : Option Json) : Bool := isHex 40 value

/-- `type(value) is str and value`. -/
def isNonemptyText : Option Json → Bool
  | some (.str text) => text ≠ ""
  | _ => false

/-- `value == text`. -/
def isText (text : String) : Option Json → Bool
  | some (.str other) => other = text
  | _ => false

def sourceComponentHasCompleteSecurityMetadata (component : PyDict String Json) : Bool :=
  isText "latest_official_release" (component.get "resolution") ||
    (isText "commit" (component.get "revision_type") && isGitCommit (component.get "revision") &&
      isNonemptyText (component.get "tag"))

def candidateHasCompleteSecurityMetadata : Bool :=
  match candidate.kind with
  | .officialArtifactPinned =>
    let integrity := candidate.data.integrity
    if isText "sha256" (integrity.get "type") then candidate.architectures.all fun arch =>
      isSha256 (integrity.get arch)
    else if isText "signature" (integrity.get "type") then
      ["signature", "key_fingerprint", "key_provenance", "verification_policy"].all fun field =>
        isNonemptyText (integrity.get field)
    else false
  | .pinnedSourceBuild =>
    if candidate.data.components.isEmpty then
      isText "commit" candidate.data.revisionType && isGitCommit candidate.data.revision
    else candidate.data.components.all sourceComponentHasCompleteSecurityMetadata
  | _ => true

variable (targetId : String)

def externalRepoTargetIsCompatible : Bool :=
  candidate.data.compatibleTargets.any fun entry =>
    entry.targetId = some targetId && entry.series = candidate.data.repository.series

def selectArtifactForArchitecture (architecture : Option String) : Except Failure SelectedArtifact :=
  match candidate.data.assets.filter fun asset => decide (some asset.architecture = architecture) with
  | [asset] => .ok asset
  | matching => .error (.dependencyResolution
      ("artifact candidate " ++ candidate.methodId ++ " has " ++ toString matching.length ++
        " assets for architecture " ++ optionalText architecture))

/-- The loop of `_all_packages_exist`. -/
def packagesExist (candidate : MethodCandidate) (targetId : String) :
    List String → List ObservationRecord → Resolving σ (AvailabilityObservation × List ObservationRecord)
  | [], observations =>
    pure ({ status := .available, evidence := "all declared packages available" }, observations)
  | packageName :: rest, observations => do
    let result ← providerCall P
      { operation := .packageExists, candidate, targetId, packageName := some packageName }
    let observations := observations ++
      [observationRecord P "package_exists" candidate targetId (some packageName) result]
    if result.status ≠ .available then
      pure ({ status := result.status, evidence := result.evidence, errorKind := result.errorKind,
              reason := if result.reason = "" then "package unavailable: " ++ packageName
              else result.reason }, observations)
    else packagesExist candidate targetId rest observations

def allPackagesExist : Resolving σ (AvailabilityObservation × List ObservationRecord) :=
  packagesExist P candidate targetId candidate.data.packageNames []

/-- A field of an entry, if it is there. -/
def optionalField (name : String) (value : Option String) : List (String × Json) :=
  value.toList.map fun text => (name, .str text)

/-- The observation of a repository that is not declared for the target. -/
def repositoryNotCompatible : AvailabilityObservation where
  status := .unavailable
  evidence :=
    let targets := candidate.data.compatibleTargets.map fun entry =>
      Json.obj (optionalField "target_id" entry.targetId ++ optionalField "series" entry.series)
    "compatible_targets=" ++ (Json.arr targets).repr ++ " target=" ++ targetId ++ " repository_series=" ++
      optionalText candidate.data.repository.series
  reason := "target_release_not_explicitly_compatible"
  errorKind := some "target_release_not_explicitly_compatible"

/-- Everything that was found out about the availability of a candidate. -/
structure Availability where
  result : AvailabilityObservation
  observations : List ObservationRecord
  selectedAsset : Option SelectedArtifact := none

def checkExternalRepo : Resolving σ Availability := do
  if ¬ externalRepoTargetIsCompatible candidate targetId then
    let result := repositoryNotCompatible candidate targetId
    pure ⟨result, [observationRecord P "repository_supports_exact_target" candidate targetId none result], none⟩
  else
    let repo ← providerCall P { operation := .repositorySupportsExactTarget, candidate, targetId }
    let observations := [observationRecord P "repository_supports_exact_target" candidate targetId none repo]
    if repo.status ≠ .available then pure ⟨repo, observations, none⟩
    else
      match candidate.data.repositoryPackage.filter fun name => decide (name ≠ "") with
      | some repositoryPackage =>
        let bootstrap ← providerCall P
          { operation := .packageExists, candidate, targetId, packageName := some repositoryPackage }
        let observations := observations ++
          [observationRecord P "repository_package_available" candidate targetId
            (some repositoryPackage) bootstrap]
        if bootstrap.status ≠ .available then pure ⟨bootstrap, observations, none⟩
        else
          let packages ← allPackagesExist P candidate targetId
          pure ⟨packages.1, observations ++ packages.2, none⟩
      | none =>
        let packages ← allPackagesExist P candidate targetId
        pure ⟨packages.1, observations ++ packages.2, none⟩

def checkArtifact (facts : DistroFacts) : Resolving σ Availability := do
  let asset ← liftM (selectArtifactForArchitecture candidate facts.machineArchitecture)
  let artifact ← providerCall P { operation := .artifactExists, candidate, targetId, selectedAsset := some asset }
  let observations := [observationRecord P "artifact_exists" candidate targetId none artifact (some asset)]
  if artifact.status ≠ .available then pure ⟨artifact, observations, some asset⟩
  else
    let integrity ← providerCall P
      { operation := .artifactIntegrityMetadataAvailable, candidate, targetId, selectedAsset := some asset }
    pure ⟨integrity, observations ++
      [observationRecord P "artifact_integrity_metadata_available" candidate targetId none integrity
        (some asset)], some asset⟩

def checkCandidateAvailability (facts : DistroFacts) : Resolving σ Availability :=
  match candidate.kind with
  | .officialPackageExact => do
    let packages ← allPackagesExist P candidate targetId
    pure ⟨packages.1, packages.2, none⟩
  | .externalRepoExact => checkExternalRepo P candidate targetId
  | .officialArtifactPinned => checkArtifact P candidate targetId facts
  | .pinnedSourceBuild => do
    let source ← providerCall P { operation := .sourceRevisionAvailable, candidate, targetId }
    pure ⟨source, [observationRecord P "source_revision_available" candidate targetId none source], none⟩
  | .other _ =>
    let result : AvailabilityObservation := { status := .malformedResponse, reason := "unknown method kind" }
    pure ⟨result, [observationRecord P "unknown" candidate targetId none result], none⟩

/-! ## The chain -/

inductive ResolutionStatus
  | alreadyPresent
  | methodSelected
  | recipeNotImplemented
  | availabilityUnknown
  | outOfContract
  | noSafeRoute
  | capabilityObservationMissing
  | preparationFailed
  deriving DecidableEq

/-- The part of a decision that does not depend on how it comes about. -/
structure DecisionCommon where
  capabilityId : String
  dependencyId : String
  facts : DistroFacts
  supportClassification : SupportClassification
  observedCapabilityStatus : Option CapabilityStatus
  candidateChain : List String
  providerType : String
  providerAuthoritative : Bool

structure ResolutionDecision where
  common : DecisionCommon
  selectedMethodId : Option String := none
  selectedMethodKind : Option MethodKind := none
  resolutionStatus : ResolutionStatus
  executionReady : Bool := false
  rejectedCandidates : List CandidateRejection := []
  evidence : List String := []
  availabilityObservations : List ObservationRecord := []
  allAvailabilityObservations : List ObservationRecord := []
  selectedAsset : Option SelectedArtifact := none
  reason : String
  errorKind : Option String := none

def availabilityBlocksChain : AvailabilityStatus → Bool
  | .unknown | .timeout | .permissionDenied | .malformedResponse | .providerError => true
  | .available | .unavailable => false

def availabilityRejectionReason (status : AvailabilityStatus) : String :=
  match status with
  | .unavailable => "candidate_unavailable"
  | .unknown => "availability_unknown"
  | status => status.value

namespace MethodCandidate

def pinMetadataIncomplete : CandidateRejection where
  methodId := candidate.methodId
  methodKind := candidate.kind
  reason := "pin_metadata_incomplete"
  evidence := "method lacks complete pin or integrity metadata"
  errorKind := some "pin_metadata_incomplete"

/-- `value or default` of texts. -/
def orText (value default : String) : String := if value = "" then default else value

def notAvailable (result : AvailabilityObservation) : CandidateRejection where
  methodId := candidate.methodId
  methodKind := candidate.kind
  reason := orText result.reason (availabilityRejectionReason result.status)
  evidence := orText result.evidence result.reason
  errorKind := some (orText (result.errorKind.getD "") result.status.value)

/-- The rejection of a candidate that stands behind one of unknown availability. -/
def notEvaluated (lower : MethodCandidate) (result : AvailabilityObservation) (blocking : MethodCandidate) :
    CandidateRejection where
  methodId := lower.methodId
  methodKind := lower.kind
  reason := "not_evaluated_due_to_higher_priority_unknown"
  evidence := "blocked by " ++ result.status.value ++ " on " ++ blocking.methodId
  errorKind := some "not_evaluated_due_to_higher_priority_unknown"

def executionReady : Bool :=
  candidate.kind = .pinnedSourceBuild && candidate.implementationStatus = .implemented

end MethodCandidate

open MethodCandidate (orText)

/-- The decision for a candidate that is available. -/
def selection (common : DecisionCommon) (candidate : MethodCandidate) (found : Availability)
    (rejections : List CandidateRejection) (observations : List ObservationRecord) : ResolutionDecision where
  common := common
  selectedMethodId := some candidate.methodId
  selectedMethodKind := some candidate.kind
  resolutionStatus := if candidate.executionReady then .methodSelected else .recipeNotImplemented
  executionReady := candidate.executionReady
  rejectedCandidates := rejections
  evidence := candidate.data.evidence ++ [found.result.evidence]
  availabilityObservations := found.observations
  allAvailabilityObservations := observations
  selectedAsset := found.selectedAsset
  reason := if candidate.executionReady then "method selected by strict exact-target chain"
    else "method selected but execution belongs to a later transactional provisioning task"

/-- The decision when the availability of a candidate is not known. -/
def availabilityUnknown (common : DecisionCommon) (candidate : MethodCandidate) (lower : List MethodCandidate)
    (found : Availability) (rejections : List CandidateRejection) (observations : List ObservationRecord) :
    ResolutionDecision where
  common := common
  resolutionStatus := .availabilityUnknown
  rejectedCandidates := rejections ++ lower.map fun c => c.notEvaluated found.result candidate
  evidence := if found.result.evidence = "" then [] else [found.result.evidence]
  availabilityObservations := found.observations
  allAvailabilityObservations := observations
  selectedAsset := found.selectedAsset
  reason := "higher-priority candidate availability is indeterminate"
  errorKind := some (orText (found.result.errorKind.getD "") found.result.status.value)

def noSafeRoute (common : DecisionCommon) (rejections : List CandidateRejection)
    (observations : List ObservationRecord) : ResolutionDecision where
  common := common
  resolutionStatus := .noSafeRoute
  rejectedCandidates := rejections
  allAvailabilityObservations := observations
  reason := "no candidate in the declared chain qualified for this exact target"
  errorKind := some "no_safe_route"

/-- The loop of `resolve_dependency`. -/
def resolveChain (facts : DistroFacts) (common : DecisionCommon) :
    List MethodCandidate → List CandidateRejection → List ObservationRecord → Resolving σ ResolutionDecision
  | [], rejections, observations => pure (noSafeRoute common rejections observations)
  | candidate :: lower, rejections, observations =>
    match candidateTarget facts candidate with
    | .error rejection => resolveChain facts common lower (rejections ++ [rejection]) observations
    | .ok targetId =>
      if candidateHasCompleteSecurityMetadata candidate = false then
        resolveChain facts common lower (rejections ++ [candidate.pinMetadataIncomplete]) observations
      else do
        let found ← checkCandidateAvailability P candidate targetId facts
        let observations := observations ++ found.observations
        if found.result.status ≠ .available then
          let rejections := rejections ++ [candidate.notAvailable found.result]
          if availabilityBlocksChain found.result.status then
            pure (availabilityUnknown common candidate lower found rejections observations)
          else resolveChain facts common lower rejections observations
        else pure (selection common candidate found rejections observations)

def decisionCommon (facts : DistroFacts) (classification : SupportClassification)
    (requirement : DependencyRequirement)
    (observed : Option CapabilityStatus) : DecisionCommon where
  capabilityId := requirement.capabilityId
  dependencyId := requirement.dependencyId
  facts := facts
  supportClassification := classification
  observedCapabilityStatus := observed
  candidateChain := requirement.methodChain.map MethodCandidate.methodId
  providerType := P.providerType
  providerAuthoritative := P.authoritative

def resolveDependency (manifest : Manifest) (facts : DistroFacts) (supportClassification : String)
    (capabilityResults : List CapabilityResult) (dependencyId : String) : Resolving σ ResolutionDecision := do
  let requirement ← liftM (loadRequirement manifest dependencyId)
  let classification ← liftM (validateSupportClassification supportClassification)
  let observed ← liftM (capabilityStatus manifest capabilityResults requirement.capabilityId)
  let common := decisionCommon P facts classification requirement observed
  if classification = .unsupported ∨ facts.resolvedDistribution = none then
    pure { common, resolutionStatus := .outOfContract, errorKind := some "out_of_contract",
           reason := "target distribution is outside the compatibility contract" }
  else
    match observed with
    | some .present =>
      pure { common, resolutionStatus := .alreadyPresent, executionReady := true,
             evidence := ["observed capability already present"],
             reason := "dependency already satisfied on this host" }
    | none =>
      pure { common, resolutionStatus := .capabilityObservationMissing
             errorKind := some "capability_observation_missing",
             reason := "capability observation is missing for required dependency" }
    | some .impossible =>
      pure { common, resolutionStatus := .noSafeRoute, errorKind := some "capability_impossible",
             reason := "observed capability state is explicitly impossible here" }
    | some .preparationFailed =>
      pure { common, resolutionStatus := .preparationFailed, errorKind := some "preparation_failed",
             reason := "capability preparation has already failed before dependency resolution" }
    | some .provisionable | some .absent => resolveChain P facts common requirement.methodChain [] []

end WatchdogVpn.Compat
