import WatchdogVpn.Compat.Resolution
import WatchdogVpn.Lib.Search

/-!
# The resolver follows the priorities

* `judge` is what the loop does with one candidate, and `resolveChain_eq` says that the loop is a
  search with it: it goes down the chain until a candidate qualifies or its availability is not
  known.
* `DefinitelyRejected`, `Indeterminate` and `Qualifies` are the three things that can be found out
  about a candidate; `judge_pass_iff` and `judge_stop_iff` connect them with `judge`.
* `found_grounded`: an authoritative provider gives evidence for whatever is available; what is
  unavailable was said to be so by the provider, or is a repository that is not declared for the
  target.
* **`strict_priority`** says what a decision rests on.
-/

namespace WatchdogVpn.Compat

open Search StateExcept List

variable {σ : Type} (P : Provider σ) (facts : DistroFacts)

/-! ## What can be found out about a candidate -/

/-- A candidate that is not for this host, lacks metadata, or is known to be unavailable. -/
inductive DefinitelyRejected (candidate : MethodCandidate) (s : σ) : CandidateRejection → σ → Prop
  | wrongTarget {rejection : CandidateRejection}
  (htarget : candidateTarget facts candidate = .error rejection) :
      DefinitelyRejected candidate s rejection s
  | incompleteMetadata {targetId : String}
  (htarget : candidateTarget facts candidate = .ok targetId)
      (hincomplete : candidateHasCompleteSecurityMetadata candidate = false) :
      DefinitelyRejected candidate s candidate.pinMetadataIncomplete s
  | unavailable {targetId : String} {found : Availability} {s' : σ}
      (htarget : candidateTarget facts candidate = .ok targetId)
      (hcomplete : candidateHasCompleteSecurityMetadata candidate = true)
      (hfound : checkCandidateAvailability P candidate targetId facts s = .ok (found, s'))
      (hstatus : found.result.status = .unavailable) :
      DefinitelyRejected candidate s (candidate.notAvailable found.result) s'

/-- The candidate is for this host and complete, and this is what was found out about its
availability. -/
structure Checked (candidate : MethodCandidate) (s : σ) (found : Availability) (s' : σ) : Prop where
  target : ∃ targetId, candidateTarget facts candidate = .ok targetId ∧
    checkCandidateAvailability P candidate targetId facts s = .ok (found, s')
  complete : candidateHasCompleteSecurityMetadata candidate = true

structure Qualifies (candidate : MethodCandidate) (s : σ) (found : Availability) (s' : σ) : Prop
    extends Checked P facts candidate s found s' where
  available : found.result.status = .available

/-- It cannot be told whether the candidate is available. -/
structure Indeterminate (candidate : MethodCandidate) (s : σ) (found : Availability) (s' : σ) : Prop
    extends Checked P facts candidate s found s' where
  unknown : found.result.status ≠ .available ∧ found.result.status ≠ .unavailable

/-! ## The loop is a search -/

/-- What the loop does with a candidate. -/
def judge (candidate : MethodCandidate) :
    Resolving σ (Verdict (CandidateRejection × List ObservationRecord)
      (MethodCandidate × Availability)) :=
  match candidateTarget facts candidate with
  | .error rejection => pure (.pass (rejection, []))
  | .ok targetId =>
    if candidateHasCompleteSecurityMetadata candidate =
      false then pure (.pass (candidate.pinMetadataIncomplete, []))
    else do
      let found ← checkCandidateAvailability P candidate targetId facts
      if found.result.status = .unavailable then
        pure (.pass (candidate.notAvailable found.result, found.observations))
      else pure (.stop (candidate, found))

/-- The decision that a search leads to. -/
def conclude (common : DecisionCommon) (rejections : List CandidateRejection)
    (observations : List ObservationRecord) :
    Option ((MethodCandidate × Availability) × List MethodCandidate) → ResolutionDecision
  | none => noSafeRoute common rejections observations
  | some ((candidate, found), lower) =>
    if found.result.status = .available then
      selection common candidate found rejections (observations ++ found.observations)
    else
      availabilityUnknown common candidate lower found
        (rejections ++ [candidate.notAvailable found.result])
        (observations ++ found.observations)

theorem blocks_iff {status : AvailabilityStatus} :
    availabilityBlocksChain status = true ↔ status ≠ .available ∧ status ≠ .unavailable := by
  cases status <;> decide

variable {P facts} {common : DecisionCommon} {chain : List MethodCandidate} {s s' : σ}
  {candidate : MethodCandidate}

variable {rejection : CandidateRejection}

theorem judge_of_wrongTarget (htgt : candidateTarget facts candidate = .error rejection) :
    judge P facts candidate = pure (.pass (rejection, [])) := by
  unfold judge
  rw [htgt]

variable {targetId : String}

theorem judge_of_incomplete (htgt : candidateTarget facts candidate = .ok targetId)
    (hinc : candidateHasCompleteSecurityMetadata candidate = false) :
    judge P facts candidate = pure (.pass (candidate.pinMetadataIncomplete, [])) := by
  unfold judge
  simp only [htgt]
  rw [if_pos hinc]

theorem judge_of_complete (htgt : candidateTarget facts candidate = .ok targetId)
    (hcomp : candidateHasCompleteSecurityMetadata candidate = true) :
    judge P facts candidate = (do
      let found ← checkCandidateAvailability P candidate targetId facts
      if found.result.status = .unavailable then
        pure (.pass (candidate.notAvailable found.result, found.observations))
      else pure (.stop (candidate, found))) := by
  unfold judge
  simp only [htgt]
  rw [if_neg (by simp [hcomp])]

theorem definitelyRejected_of_pass {remark : CandidateRejection × List ObservationRecord}
    (h : judge P facts candidate s = .ok (.pass remark, s')) :
    DefinitelyRejected P facts candidate s remark.1 s' := by
  cases htgt : candidateTarget facts candidate with
  | error rejection =>
    rw [judge_of_wrongTarget htgt] at h
    cases h
    exact .wrongTarget htgt
  | ok targetId =>
    cases hcomp : candidateHasCompleteSecurityMetadata candidate with
    | false =>
      rw [judge_of_incomplete htgt hcomp] at h
      cases h
      exact .incompleteMetadata htgt hcomp
    | true =>
      rw [judge_of_complete htgt hcomp] at h
      obtain ⟨found, s1, hfnd, h⟩ := bind_ok h
      by_cases hstat : found.result.status = .unavailable
      · rw [if_pos hstat] at h
        cases h
        exact .unavailable htgt hcomp hfnd hstat
      · rw [if_neg hstat] at h
        cases h

theorem pass_of_definitelyRejected (h : DefinitelyRejected P facts candidate s rejection s') :
    ∃ observations, judge P facts candidate s = .ok (.pass (rejection, observations), s') := by
  cases h with
  | wrongTarget htgt => exact ⟨[], by rw [judge_of_wrongTarget htgt]; rfl⟩
  | incompleteMetadata htgt hinc => exact ⟨[], by rw [judge_of_incomplete htgt hinc]; rfl⟩
  | @unavailable targetId found s' htgt hcomp hfnd hstat =>
    refine ⟨found.observations, ?_⟩
    rw [judge_of_complete htgt hcomp, bind_of_ok hfnd, if_pos hstat]
    rfl

variable {found : Availability}

theorem judge_stop_iff {last : MethodCandidate} :
    judge P facts candidate s = .ok (.stop (last, found), s') ↔
      last = candidate ∧ Checked P facts candidate s found s' ∧
      found.result.status ≠ .unavailable := by
  constructor
  · intro h
    cases htgt : candidateTarget facts candidate with
    | error rejection =>
      rw [judge_of_wrongTarget htgt] at h
      cases h
    | ok targetId =>
      cases hcomp : candidateHasCompleteSecurityMetadata candidate with
      | false =>
        rw [judge_of_incomplete htgt hcomp] at h
        cases h
      | true =>
        rw [judge_of_complete htgt hcomp] at h
        obtain ⟨found', s1, hfnd, h⟩ := bind_ok h
        by_cases hstat : found'.result.status = .unavailable
        · rw [if_pos hstat] at h
          cases h
        · rw [if_neg hstat] at h
          cases h
          exact ⟨rfl, ⟨⟨targetId, htgt, hfnd⟩, hcomp⟩, hstat⟩
  · rintro ⟨rfl, ⟨⟨targetId, htgt, hfnd⟩, hcomp⟩, hstat⟩
    rw [judge_of_complete htgt hcomp, bind_of_ok hfnd, if_neg hstat]
    rfl

/-- The loop does what a search does, and keeps the remarks in two lists. -/
theorem resolveChain_eq (rejections : List CandidateRejection)
    (observations : List ObservationRecord) :
    resolveChain P facts common chain rejections observations s =
      (search (judge P facts) chain >>= fun found =>
        pure (conclude common (rejections ++ found.1.map Prod.fst)
          (observations ++ found.1.flatMap Prod.snd) found.2)) s := by
  induction chain generalizing rejections observations s with
  | nil =>
    simp only [resolveChain, search, pure_bind, conclude, map_nil, flatMap_nil, append_nil]
  | cons candidate lower ih =>
    unfold resolveChain search
    cases htgt : candidateTarget facts candidate with
    | error rejection =>
      simp only [judge_of_wrongTarget htgt, pure_bind, bind_assoc]
      rw [ih]
      simp only [map_cons, flatMap_cons, append_assoc, nil_append, cons_append]
    | ok targetId =>
      cases hcomp : candidateHasCompleteSecurityMetadata candidate with
      | false =>
        simp only [judge_of_incomplete htgt hcomp, pure_bind, bind_assoc, if_true]
        rw [ih]
        simp only [map_cons, flatMap_cons, append_assoc, nil_append, cons_append]
      | true =>
        simp only [judge_of_complete htgt hcomp, bind_assoc, Bool.true_eq_false, if_false]
        -- the same is asked; then the two sides treat the answer alike
        cases hfnd : checkCandidateAvailability P candidate targetId facts s with
        | error failure => simp [bind_of_error hfnd]
        | ok answer =>
          obtain ⟨found, s1⟩ := answer
          rw [bind_of_ok hfnd, bind_of_ok hfnd]
          by_cases hav : found.result.status = .available
          · simp [hav, conclude]
          by_cases hunav : found.result.status = .unavailable
          · simp only [hunav, availabilityBlocksChain, ne_eq, reduceCtorEq, not_false_eq_true,
              if_true, if_false, Bool.false_eq_true, pure_bind, bind_assoc]
            rw [ih]
            simp only [map_cons, flatMap_cons, append_assoc, nil_append, cons_append]
          · have hblocks := blocks_iff.mpr ⟨hav, hunav⟩
            simp [hav, hunav, hblocks, conclude]

/-! ## What the answers rest on -/

/-- Asked about the candidate, the provider said that something is unavailable. -/
def SaidUnavailable (P : Provider σ) (candidate : MethodCandidate) (targetId : String) : Prop :=
  ∃ call s raw, call.candidate = candidate ∧ call.targetId = targetId ∧
    (P.call call s).1 = .observation raw ∧ raw.status = .ofStatus .unavailable

/-- If something is available, an authoritative provider gave evidence for it and for everything
that was asked on the way; if it is unavailable, the provider said so, or it is a repository that is
not declared for the target. -/
structure Grounded (P : Provider σ) (candidate : MethodCandidate) (targetId : String)
    (result : AvailabilityObservation) (observations : List ObservationRecord) : Prop where
  evidence : P.authoritative = true → result.status = .available →
    result.evidence ≠ "" ∧ ∀ record ∈ observations, record.evidence ≠ ""
  unavailable : result.status = .unavailable → SaidUnavailable P candidate targetId ∨
    candidate.kind = .externalRepoExact ∧ externalRepoTargetIsCompatible candidate targetId = false

/-- The status is the one that was given, unless a fault was found. -/
theorem checkedObservation_status {authoritative : Bool} {call : Call} {status : AvailabilityStatus}
    {raw : RawObservation} {observation : AvailabilityObservation}
    (h : checkedObservation authoritative call status raw = observation) :
    observation.status = .providerError ∨ observation.status = status ∧
      (authoritative = true → status = .available → observation.evidence ≠ "") := by
  unfold checkedObservation at h
  repeat' split at h
  all_goals subst h
  any_goals exact .inl rfl
  all_goals
    refine .inr ⟨rfl, fun hauth hav => ?_⟩
    have hgiven := ‹¬ (_ && _ && _) = true›
    simp only at hav ⊢
    simpa [hauth, hav] using hgiven

theorem grounded_of_providerCall {call : Call} {observation : AvailabilityObservation}
    (h : providerCall P call s = .ok (observation, s')) (operation : String)
    (packageName : Option String)
    (asset : Option SelectedArtifact) : Grounded P call.candidate call.targetId observation
      [observationRecord P operation call.candidate call.targetId packageName observation
        asset] := by
  unfold providerCall at h
  cases hans : (P.call call s).1 with
  | raised text | notAnObservation =>
    rw [hans] at h
    cases h
    exact ⟨nofun, nofun⟩
  | observation raw =>
    rw [hans] at h
    cases hraw : raw.status with
    | unhashable =>
      simp only [checkedAnswer, hraw] at h
      cases h
    | other text =>
      simp only [checkedAnswer, hraw] at h
      cases h
      exact ⟨nofun, nofun⟩
    | ofStatus status =>
      simp only [checkedAnswer, hraw] at h
      cases h
      rcases checkedObservation_status rfl with hfault | ⟨hsame, hevd⟩
      · exact ⟨fun _ hav => absurd (hfault.symm.trans hav) nofun, fun hun =>
          absurd (hfault.symm.trans hun) nofun⟩
      · constructor
        · intro hauth hav
          have hgiven := hevd hauth (hsame ▸ hav)
          exact ⟨hgiven, forall_mem_singleton.mpr hgiven⟩
        · intro hun
          exact .inl ⟨call, s, raw, rfl, rfl, hans, hraw.trans (congrArg _ (hsame.symm.trans hun))⟩

variable {result : AvailabilityObservation} {observations : List ObservationRecord}

theorem Grounded.append {before : List ObservationRecord}
    (hbef : P.authoritative = true → ∀ record ∈ before, record.evidence ≠ "")
    (h : Grounded P candidate targetId result observations) :
    Grounded P candidate targetId result (before ++ observations) where
  evidence hauth hav := ⟨(h.evidence hauth hav).1,
    forall_mem_append.mpr ⟨hbef hauth, (h.evidence hauth hav).2⟩⟩
  unavailable := h.unavailable

theorem grounded_packagesExist {names : List String} {before : List ObservationRecord}
    (hbef : P.authoritative = true → ∀ record ∈ before, record.evidence ≠ "")
    {answer : AvailabilityObservation × List ObservationRecord}
    (h : packagesExist P candidate targetId names before s = .ok (answer, s')) :
    Grounded P candidate targetId answer.1 answer.2 := by
  induction names generalizing before s with
  | nil =>
    cases h
    exact ⟨fun hauth _ => ⟨(by decide : "all declared packages available" ≠ ""), hbef hauth⟩, nofun⟩
  | cons name names ih =>
    obtain ⟨result, s1, hres, h⟩ := bind_ok h
    have hgrd := grounded_of_providerCall hres "package_exists" (some name) none
    by_cases hav : result.status = .available
    · rw [if_neg (not_not.mpr hav)] at h
      exact ih (fun hauth => forall_mem_append.mpr ⟨hbef hauth, (hgrd.evidence hauth hav).2⟩) h
    · rw [if_pos hav] at h
      cases h
      exact ⟨fun _ hstat => absurd hstat hav, hgrd.unavailable⟩

theorem grounded_allPackagesExist {answer : AvailabilityObservation × List ObservationRecord}
    (h : allPackagesExist P candidate targetId s = .ok (answer, s')) :
    Grounded P candidate targetId answer.1 answer.2 :=
  grounded_packagesExist (fun _ _ hrec => absurd hrec not_mem_nil) h

theorem grounded_checkExternalRepo (hkind : candidate.kind = .externalRepoExact)
    (h : checkExternalRepo P candidate targetId s = .ok (found, s')) :
    Grounded P candidate targetId found.result found.observations := by
  unfold checkExternalRepo at h
  split at h
  · cases h
    exact ⟨nofun, fun _ => .inr ⟨hkind, eq_false_of_ne_true ‹_›⟩⟩
  · obtain ⟨repo, s1, hrepo, h⟩ := bind_ok h
    have hgrd := grounded_of_providerCall hrepo "repository_supports_exact_target" none none
    by_cases hav : repo.status = .available
    · rw [if_neg (not_not.mpr hav)] at h
      have hfst := fun hauth => (hgrd.evidence hauth hav).2
      cases hpkg : candidate.data.repositoryPackage.filter fun name => decide (name ≠ "") with
      | some repositoryPackage =>
        simp only [hpkg] at h
        obtain ⟨bootstrap, s2, hboot, h⟩ := bind_ok h
        have hgrd2 := grounded_of_providerCall hboot "repository_package_available"
          (some repositoryPackage) none
        by_cases hav2 : bootstrap.status = .available
        · rw [if_neg (not_not.mpr hav2)] at h
          obtain ⟨packages, s3, hpkgs, h⟩ := bind_ok h
          cases h
          refine (grounded_allPackagesExist hpkgs).append fun hauth =>
            forall_mem_append.mpr ⟨hfst hauth, ?_⟩
          exact (hgrd2.evidence hauth hav2).2
        · rw [if_pos hav2] at h
          cases h
          exact ⟨fun _ hstat => absurd hstat hav2, hgrd2.unavailable⟩
      | none =>
        simp only [hpkg] at h
        obtain ⟨packages, s3, hpkgs, h⟩ := bind_ok h
        cases h
        exact (grounded_allPackagesExist hpkgs).append hfst
    · rw [if_pos hav] at h
      cases h
      exact ⟨fun _ hstat => absurd hstat hav, hgrd.unavailable⟩

theorem grounded_checkArtifact (h : checkArtifact P candidate targetId facts s = .ok (found, s')) :
    Grounded P candidate targetId found.result found.observations := by
  obtain ⟨asset, s1, -, h⟩ := bind_ok h
  obtain ⟨artifact, s2, hart, h⟩ := bind_ok h
  have hgrd := grounded_of_providerCall hart "artifact_exists" none (some asset)
  by_cases hav : artifact.status = .available
  · rw [if_neg (not_not.mpr hav)] at h
    obtain ⟨integrity, s3, hint, h⟩ := bind_ok h
    cases h
    exact (grounded_of_providerCall hint _ _ _).append fun hauth => (hgrd.evidence hauth hav).2
  · rw [if_pos hav] at h
    cases h
    exact ⟨fun _ hstat => absurd hstat hav, hgrd.unavailable⟩

/-- **What is found out is grounded.** A candidate is unavailable only if the provider said so or
the manifest does not declare the repository for the target; an authoritative provider gives
evidence for whatever is available. -/
theorem found_grounded (h : checkCandidateAvailability P candidate targetId facts s =
    .ok (found, s')) : Grounded P candidate targetId found.result found.observations := by
  unfold checkCandidateAvailability at h
  cases hkind : candidate.kind with
  | officialPackageExact =>
    simp only [hkind] at h
    obtain ⟨packages, s1, hpkgs, h⟩ := bind_ok h
    cases h
    exact grounded_allPackagesExist hpkgs
  | externalRepoExact =>
    simp only [hkind] at h
    exact grounded_checkExternalRepo hkind h
  | officialArtifactPinned =>
    simp only [hkind] at h
    exact grounded_checkArtifact h
  | pinnedSourceBuild =>
    simp only [hkind] at h
    obtain ⟨source, s1, hsrc, h⟩ := bind_ok h
    cases h
    exact grounded_of_providerCall hsrc _ _ _
  | other name =>
    simp only [hkind] at h
    cases h
    exact ⟨nofun, nofun⟩

/-! ## The chain -/

theorem chain_sorted {manifest : Manifest} {dependencyId : String}
    {requirement : DependencyRequirement}
    (h : loadRequirement manifest dependencyId = .ok requirement) :
    requirement.methodChain.Pairwise fun a b => a.priority < b.priority := by
  unfold loadRequirement at h
  cases hget : manifest.dependencyRequirements.get dependencyId with
  | none =>
    rw [hget] at h
    cases h
  | some entry =>
    obtain ⟨capabilityId, chain⟩ := entry
    simp only [hget] at h
    split at h
    · rename_i hdist
      cases h
      have hle : (chain.insertionSort fun a b => a.priority ≤ b.priority).Pairwise fun a b =>
          a.priority ≤ b.priority :=
        pairwise_insertionSort _ chain
      have hne : (chain.insertionSort fun a b => a.priority ≤ b.priority).Pairwise fun a b =>
          a.priority ≠ b.priority := by
        have hperm :=
          (perm_insertionSort (fun a b : MethodCandidate => a.priority ≤ b.priority) chain).map
          MethodCandidate.priority
        exact pairwise_map.mp (hperm.nodup_iff.mpr hdist)
      exact (hle.and hne).imp fun hab => by omega
    · cases h

variable {before : List MethodCandidate}

theorem mem_before_of_lt {lower : List MethodCandidate} {other : MethodCandidate}
    (hsort : (before ++ candidate :: lower).Pairwise fun a b => a.priority < b.priority)
    (hoth : other ∈ before ++ candidate :: lower) (hlt : other.priority < candidate.priority) :
    other ∈ before := by
  rcases mem_append.mp hoth with hin | hin
  · exact hin
  have hrest := (pairwise_append.mp hsort).2.1
  rcases mem_cons.mp hin with rfl | hlower
  · omega
  · have hgt := (pairwise_cons.mp hrest).1 other hlower
    omega

/-- What a decision about a chain rests on. -/
structure StrictPriority (P : Provider σ) (facts : DistroFacts)
    (chain : List MethodCandidate) (s : σ) (decision : ResolutionDecision) (s' : σ) : Prop where
  /-- A candidate is selected only if everything of smaller priority was rejected for good; there is
  evidence for it. -/
  selected : ∀ methodId, decision.selectedMethodId = some methodId →
    ∃ before candidate lower found s₁,
    chain = before ++ candidate :: lower ∧ candidate.methodId = methodId ∧
    (∀ other ∈ chain, other.priority < candidate.priority → other ∈ before) ∧
    Each (DefinitelyRejected P facts) s before decision.rejectedCandidates s₁ ∧
    Qualifies P facts candidate s₁ found s' ∧
    decision.evidence = candidate.data.evidence ++ [found.result.evidence] ∧
    decision.availabilityObservations = found.observations ∧
    (P.authoritative = true → found.result.evidence ≠ "" ∧
      ∀ record ∈ found.observations, record.evidence ≠ "")
  /-- Nothing behind a candidate of unknown availability is selected. -/
  unknown : ∀ before candidate lower rejections found s₁ s₂, chain = before ++ candidate :: lower →
    Each (DefinitelyRejected P facts) s before rejections s₁ →
    Indeterminate P facts candidate s₁ found s₂ → decision.selectedMethodId = none
  /-- At the end of the chain every candidate has been rejected for good, each with one rejection.
  -/
  exhausted : decision.resolutionStatus = .noSafeRoute → decision.errorKind = some "no_safe_route" →
    Each (DefinitelyRejected P facts) s chain decision.rejectedCandidates s' ∧
    decision.selectedMethodId = none
  /-- At a candidate of unknown availability the others are rejected too. -/
  blocked : decision.resolutionStatus = .availabilityUnknown →
    decision.selectedMethodId = none ∧
    decision.rejectedCandidates.map CandidateRejection.methodId = chain.map MethodCandidate.methodId
  ready : decision.executionReady = true →
    (decision.resolutionStatus = .alreadyPresent ∧
      decision.common.observedCapabilityStatus = some .present) ∨
    ∃ candidate ∈ chain, decision.selectedMethodId = some candidate.methodId ∧
    candidate.kind = .pinnedSourceBuild ∧
      candidate.implementationStatus = .implemented

theorem DefinitelyRejected.methodId_eq (h : DefinitelyRejected P facts candidate s rejection s') :
    rejection.methodId = candidate.methodId := by
  cases h with
  | wrongTarget htgt =>
    unfold candidateTarget at htgt
    repeat' split at htgt
    all_goals cases htgt
    all_goals rfl
  | incompleteMetadata => rfl
  | unavailable => rfl

variable {decision : ResolutionDecision}

theorem selection_status_ne {rejections : List CandidateRejection}
    {observations : List ObservationRecord} {status : ResolutionStatus}
    (hsel : status ≠ .methodSelected) (hnotI : status ≠ .recipeNotImplemented) :
    (selection common candidate found rejections observations).resolutionStatus ≠ status := by
  unfold selection
  split
  · exact hsel.symm
  · exact hnotI.symm

theorem executionReady_iff : candidate.executionReady = true ↔
    candidate.kind = .pinnedSourceBuild ∧ candidate.implementationStatus = .implemented := by
  simp [MethodCandidate.executionReady]

theorem search_of_indeterminate (lower : List MethodCandidate)
    {rejections : List CandidateRejection}
    {s1 s2 : σ} (heach : Each (DefinitelyRejected P facts) s before rejections s1)
    (h : Indeterminate P facts candidate s1 found s2) :
    ∃ passed, search (judge P facts) (before ++ candidate :: lower) s =
      .ok ((passed, some ((candidate, found), lower)), s2) := by
  have hpasses : ∀ candidate s rejection s', DefinitelyRejected P facts candidate s rejection s' →
      ∃ remark, Passes (judge P facts) candidate s remark s' := by
    intro candidate s rejection s' hrej
    obtain ⟨observations, hpass⟩ := pass_of_definitelyRejected hrej
    exact ⟨(rejection, observations), hpass⟩
  obtain ⟨passed, heach⟩ := heach.exists_remarks hpasses
  exact ⟨passed, search_of_each heach (judge_stop_iff.mpr ⟨rfl, h.toChecked, h.unknown.2⟩)⟩

theorem each_rejected {passed : List (CandidateRejection × List ObservationRecord)}
    (h : Each (Passes (judge P facts)) s before passed s') :
    Each (DefinitelyRejected P facts) s before (passed.map Prod.fst) s' :=
  h.map Prod.fst fun _ _ _ _ hpass => definitelyRejected_of_pass hpass

theorem strictPriority_of_resolveChain (hsort : chain.Pairwise fun a b => a.priority < b.priority)
    (h : resolveChain P facts common chain [] [] s = .ok (decision, s')) :
    StrictPriority P facts chain s decision s' := by
  rw [resolveChain_eq] at h
  obtain ⟨⟨passed, stop⟩, s1, hsearch, h⟩ := bind_ok h
  have hdcs : decision = conclude common (passed.map Prod.fst) (passed.flatMap Prod.snd) stop ∧
      s' = s1 := by
    cases h
    exact ⟨rfl, rfl⟩
  obtain ⟨rfl, rfl⟩ := hdcs
  have hunk : ∀ before candidate lower rejections found s1 s2, chain = before ++
      candidate :: lower → Each (DefinitelyRejected P facts) s before rejections s1 →
      Indeterminate P facts candidate s1 found s2 →
      (conclude common (passed.map Prod.fst) (passed.flatMap Prod.snd) stop).selectedMethodId =
      none := by
    intro before candidate lower rejections found s1 s2 hch heach hind
    obtain ⟨passed', hsearch'⟩ := search_of_indeterminate lower heach hind
    rw [← hch, hsearch] at hsearch'
    cases hsearch'
    simp only [conclude, if_neg hind.unknown.1]
    rfl
  rcases search_ok hsearch with ⟨rfl, heach⟩ | ⟨⟨last, found⟩, before, candidate, lower, s2, rfl,
    rfl, heach, hstop⟩
  · -- the whole chain has been passed
    refine ⟨nofun, hunk, fun _ _ => ⟨each_rejected heach, rfl⟩, nofun, nofun⟩
  · obtain ⟨rfl, hchec, hnot⟩ := judge_stop_iff.mp hstop
    -- the search stops at a candidate that is available or of which nothing is known
    by_cases hav : found.result.status = .available
    · have hconc : conclude common (passed.map Prod.fst) (passed.flatMap Prod.snd)
          (some ((last, found), lower)) = selection common last found (passed.map Prod.fst)
          (passed.flatMap Prod.snd ++ found.observations) := if_pos hav
      rw [hconc] at hunk ⊢
      refine ⟨fun methodId hsel => ?_, hunk, fun hstat => ?_, fun hstat => ?_, fun hrdy => .inr ?_⟩
      · refine ⟨before, last, lower, found, s2, rfl, Option.some.inj hsel,
          fun other hoth hlt => mem_before_of_lt hsort hoth hlt, each_rejected heach, ⟨hchec, hav⟩,
          rfl, rfl, fun hauthoritative => ?_⟩
        obtain ⟨targetId, -, hfnd⟩ := hchec.target
        exact (found_grounded hfnd).evidence hauthoritative hav
      · exact absurd hstat (selection_status_ne (by decide) (by decide))
      · exact absurd hstat (selection_status_ne (by decide) (by decide))
      · obtain ⟨hkind, himpl⟩ := executionReady_iff.mp hrdy
        exact ⟨last, mem_append_right _ mem_cons_self, rfl, hkind, himpl⟩
    · have hconc : conclude common (passed.map Prod.fst) (passed.flatMap Prod.snd)
          (some ((last, found), lower)) = availabilityUnknown common last lower found
          (passed.map Prod.fst ++ [last.notAvailable found.result])
            (passed.flatMap Prod.snd ++ found.observations) := if_neg hav
      rw [hconc] at hunk ⊢
      refine ⟨nofun, hunk, nofun, fun _ => ⟨rfl, ?_⟩, nofun⟩
      have hbef := (each_rejected heach).map_eq fun _ _ _ _ hrej => hrej.methodId_eq
      simp only [availabilityUnknown, map_append, hbef, map_cons, map_map, append_assoc,
        singleton_append]
      rfl

theorem strictPriority_of_early (hsel : decision.selectedMethodId = none)
    (hrt : decision.resolutionStatus = .noSafeRoute → decision.errorKind ≠ some "no_safe_route")
    (hstat : decision.resolutionStatus ≠ .availabilityUnknown)
    (hrdy : decision.executionReady = true →
      decision.resolutionStatus = .alreadyPresent ∧
      decision.common.observedCapabilityStatus = some .present) :
    StrictPriority P facts chain s decision s' where
  selected methodId h := by
    rw [hsel] at h
    cases h
  unknown _ _ _ _ _ _ _ _ _ _ := hsel
  exhausted h hkind := absurd hkind (hrt h)
  blocked h := absurd h hstat
  ready h := .inl (hrdy h)

/-- **The resolver follows the priorities strictly.** Whatever the manifest, the host and the
provider, a decision rests on what `StrictPriority` says. -/
theorem strict_priority {manifest : Manifest} {supportClassification dependencyId : String}
    {results : List CapabilityResult}
    (h : resolveDependency P manifest facts supportClassification results dependencyId s =
      .ok (decision, s')) : ∃ requirement, loadRequirement manifest dependencyId = .ok requirement ∧
      StrictPriority P facts requirement.methodChain s decision s' := by
  obtain ⟨requirement, s1, hrqm, h⟩ := bind_ok h
  obtain ⟨hload, rfl⟩ := liftM_ok hrqm
  obtain ⟨classification, s2, hclas, h⟩ := bind_ok h
  obtain ⟨-, rfl⟩ := liftM_ok hclas
  obtain ⟨observed, s3, hobs, h⟩ := bind_ok h
  obtain ⟨-, rfl⟩ := liftM_ok hobs
  refine ⟨requirement, hload, ?_⟩
  split at h
  · cases h
    exact strictPriority_of_early rfl nofun nofun nofun
  · cases observed with
    | none =>
      cases h
      exact strictPriority_of_early rfl nofun nofun nofun
    | some status =>
      cases status with
      | present =>
        cases h
        exact strictPriority_of_early rfl nofun nofun fun _ => ⟨rfl, rfl⟩
      | impossible =>
        cases h
        exact strictPriority_of_early rfl
          (fun _ => (by decide : some "capability_impossible" ≠ some "no_safe_route")) nofun nofun
      | preparationFailed =>
        cases h
        exact strictPriority_of_early rfl nofun nofun nofun
      | provisionable | absent => exact strictPriority_of_resolveChain (chain_sorted hload) h

/-- A host that needs a runtime for which there are three methods: one for another family, a
package, a source build. -/
def labFacts : DistroFacts where
  resolvedDistribution := some "debian"
  resolvedRelease := some "debian_13"
  technicalFamily := some "debian_apt"
  releaseModel := some .stable
  machineArchitecture := some "x86_64"
  mappedBaseRelease := none

def labManifest : Manifest where
  coreHostCapabilities := []
  protocolCapabilities := ["proto_amneziawg_runtime"]
  dependencyRequirements := [("dep_amneziawg_runtime", "proto_amneziawg_runtime",
    [{ methodId := "source_build", priority := 4, kind := .pinnedSourceBuild
       targetIdentity := .resolvedRelease, architectures := ["x86_64"]
       targetScope := { technicalFamilies := ["debian_apt"], stableReleases := ["debian_13"] }
       implementationStatus := .implemented,
       data := { components := [[("resolution", .str "latest_official_release")]] } },
     { methodId := "ubuntu_ppa", priority := 1, kind := .externalRepoExact,
       targetIdentity := .resolvedRelease,
       targetScope := { technicalFamilies := ["ubuntu_apt"] }, architectures := ["x86_64"],
       implementationStatus := .other "not_implemented" },
     { methodId := "debian_package", priority := 3, kind := .officialPackageExact,
       targetIdentity := .resolvedRelease,
       targetScope := { technicalFamilies := ["debian_apt"], stableReleases := ["debian_13"] },
       architectures := ["x86_64"], implementationStatus := .other "not_implemented",
       data := { packageNames := ["amneziawg"] } }])]

/-- It has the sources and no packages, and counts what it is asked. -/
def labProvider : Provider Nat where
  providerType := "lab"
  authoritative := true
  call request asked :=
    (.observation
      { status := .ofStatus (if request.operation = .sourceRevisionAvailable then .available
        else .unavailable)
        evidence := some "asked", reason := some "", errorKind := .absent }, asked + 1)

theorem strict_priority_source_build : ∃ decision s',
    resolveDependency labProvider labManifest labFacts "supported"
      [⟨"proto_amneziawg_runtime", "absent"⟩] "dep_amneziawg_runtime" 0 = .ok (decision, s') ∧
      decision.selectedMethodId = some "source_build" ∧
    ∃ requirement, loadRequirement labManifest "dep_amneziawg_runtime" = .ok requirement ∧
      StrictPriority labProvider labFacts requirement.methodChain 0 decision s' := by
  obtain ⟨decision, s', hrun, hsel⟩ : ∃ decision s',
      resolveDependency labProvider labManifest labFacts "supported"
      [⟨"proto_amneziawg_runtime", "absent"⟩]
        "dep_amneziawg_runtime" 0 = .ok (decision, s') ∧
          decision.selectedMethodId = some "source_build" := ⟨_, _, rfl, rfl⟩
  exact ⟨decision, s', hrun, hsel, strict_priority hrun⟩

end WatchdogVpn.Compat
