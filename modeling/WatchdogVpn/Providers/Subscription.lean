import WatchdogVpn.Backup.Archive

/-!
# The refresh of a subscription

A fetched node gets the identifier of the stored profile with its fingerprint, or else the first
free one among `provider:slug`, `provider:slug-2` and so on (`providers/subscription_provider.py`).
The transaction that publishes a refresh checks all providers and profiles. Fingerprints and the
checks of a node are left open.

* **`refreshed_ids_distinct`**: identifiers are distinct where no stored one looks like one that may
  be generated.
* **`unchanged_refresh_iff`**: a refresh without news loses the measured latencies and nothing else.
-/

namespace WatchdogVpn.Providers

open Backup (sameMembers validateOpenvpnProfile)
open Documents (Profile Provider Object normalizedProviderUrl)
open ShareLink (ProtocolType)
open List

structure Library where
  /-- `profile_fingerprint`. -/
  fingerprint : ProtocolType → Object → String
  /-- `text.lower()`. -/
  lower : PyText.Text → PyText.Text
  /-- The hexadecimal digest of a text. -/
  sha256 : String → String
  validateProfileEndpoint : ProtocolType → Object → Except String Unit
  validateProfileSemantics : (id name : String) → ProtocolType → Object → Except String Unit

variable {D : Type}

def candidateIds (base : String) (n : Nat) : List String :=
  (range n).map fun k => base ++ if k = 0 then "" else "-" ++ Nat.repr (k + 1)

/-- `_unique_node_id`. One of these candidates is free (`uniqueNodeId_spec`). -/
def uniqueNodeId (providerId base : String) (used : List String) : String :=
  ((candidateIds (providerId ++ ":" ++ base) (used.length + 1)).find? (· ∉ used)).getD ""

namespace Library

variable (L : Library) (provider : String) (existing : List (Profile D))

def profileFingerprint (p : Profile D) : String := L.fingerprint p.protocol p.config

/-- The identifier in `existing_by_fingerprint`, where of two profiles with one fingerprint the
later one is kept. -/
def existingId (profile : Profile D) : Option String :=
  (existing.reverse.find? fun p => L.profileFingerprint p = L.profileFingerprint profile).map (·.id)

def slug (value : String) : String :=
  let raw := L.lower (PyText.strip value.toList)
  let slug := PyText.stripOf ("-._".toList.contains ·)
    (PyText.hyphenate (fun c => Rules.isSlugChar c || c == '.') raw)
  if raw = [] then ""
  else if slug ≠ [] then String.ofList (slug.take 80)
  else "provider-" ++ String.ofList ((L.sha256 (String.ofList raw)).toList.take 12)

def baseNodeId (index : Nat) (profile : Profile D) : String :=
  let slug := L.slug (if profile.id = "" then profile.name else profile.id)
  if slug = "" then "node-" ++ Nat.repr index else slug

/-- The loop of `_normalize_profiles`. -/
def normalizeFrom : Nat → List String → List String → List (Profile D) → Except String (List (Profile D))
  | _, _, _, [] => .ok []
  | index, usedIds, usedFingerprints, profile :: profiles => do
    L.validateProfileEndpoint profile.protocol profile.config
    let fingerprint := L.profileFingerprint profile
    if fingerprint ∈ usedFingerprints then normalizeFrom (index + 1) usedIds usedFingerprints profiles
    else do
      let nodeId := (L.existingId existing profile).getD
        (uniqueNodeId provider (L.baseNodeId index profile) usedIds)
      L.validateProfileSemantics nodeId profile.name profile.protocol profile.config
      let normalized ← normalizeFrom (index + 1) (nodeId :: usedIds) (fingerprint :: usedFingerprints) profiles
      return { profile with
        id := nodeId, source := .subscription, providerId := .str provider,
          inRotationPool := true } :: normalized

def normalizeProfiles (fetched : List (Profile D)) : Except String (List (Profile D)) :=
  L.normalizeFrom provider existing 1 [] [] fetched

end Library

/-! ## Generated identifiers -/

theorem candidateIds_nodup (base : String) (n : Nat) : (candidateIds base n).Nodup := by
  refine nodup_range.map fun j k h => ?_
  have hsuf := (String.append_right_inj base).mp h
  match j, k with
  | 0, 0 => rfl
  | 0, k + 1 => simp at hsuf
  | j + 1, 0 => simp at hsuf
  | j + 1, k + 1 =>
    have hrepr : Nat.repr (j + 2) = Nat.repr (k + 2) := (String.append_right_inj "-").mp hsuf
    have hback := congrArg (fun text => Nat.ofDigitChars 10 text.toList 0) hrepr
    simpa [Nat.repr] using hback

theorem candidateIds_subset (base : String) {n m : Nat} (h : n ≤ m) :
    candidateIds base n ⊆ candidateIds base m :=
  map_subset _ (range_subset.mpr h)

theorem uniqueNodeId_spec (providerId base : String) (used : List String) :
    uniqueNodeId providerId base used ∈ candidateIds (providerId ++ ":" ++ base) (used.length + 1) ∧
      uniqueNodeId providerId base used ∉ used := by
  unfold uniqueNodeId
  cases hfind : (candidateIds (providerId ++ ":" ++ base) (used.length + 1)).find? (· ∉ used) with
  | some id => exact ⟨mem_of_find?_eq_some hfind, by simpa using find?_some hfind⟩
  | none =>
    -- there are more candidates than used identifiers
    have hused : candidateIds _ _ ⊆ used := fun id hid => by simpa using find?_eq_none.mp hfind id hid
    have hle := (subperm_of_subset (candidateIds_nodup _ _) hused).length_le
    rw [candidateIds, length_map, length_range] at hle
    omega

namespace Library

variable {L : Library} {provider : String} {existing fetched normalized : List (Profile D)} {index : Nat}
  {usedIds usedFingerprints : List String}

/-- A fetched node, with its place, becomes a profile: a new one gets a candidate for its
identifier. -/
def Becomes (L : Library) (provider : String) (existing : List (Profile D)) (bound : Nat)
    (node : Profile D × Nat) (p : Profile D) : Prop :=
  L.profileFingerprint p = L.profileFingerprint node.1 ∧ (L.existingId existing p = none →
    p.id ∈ candidateIds (provider ++ ":" ++ L.baseNodeId node.2 node.1) bound)

/-- A node with a known fingerprint has its identifier, any other one that was not used before;
every node that was not seen before is there. -/
theorem normalizeFrom_spec {bound : Nat} (hbound : usedIds.length + fetched.length ≤ bound)
    (h : L.normalizeFrom provider existing index usedIds usedFingerprints fetched = .ok normalized) :
    (∀ p ∈ normalized, L.profileFingerprint p ∉ usedFingerprints ∧
      (∀ id, L.existingId existing p = some id → p.id = id) ∧
      (L.existingId existing p = none → p.id ∉ usedIds)) ∧
    normalized.Pairwise (fun p q => L.profileFingerprint p ≠ L.profileFingerprint q ∧
      (L.existingId existing q = none → p.id ≠ q.id)) ∧
    (∀ n ∈ fetched, L.profileFingerprint n ∉ usedFingerprints →
      ∃ p ∈ normalized, L.profileFingerprint p = L.profileFingerprint n) ∧
    ∃ nodes, nodes <+ fetched.zipIdx index ∧
    List.Forall₂ (L.Becomes provider existing bound) nodes normalized := by
  induction fetched generalizing index usedIds usedFingerprints normalized with
  | nil =>
    cases h
    exact ⟨forall_mem_nil _, .nil, forall_mem_nil _, [], .slnil, .nil⟩
  | cons n fetched ih =>
    rw [length_cons] at hbound
    obtain ⟨-, -, h⟩ := Effect.except_bind_ok h
    dsimp only at h
    split at h
    · -- another node with this fingerprint came first
      rename_i hseen
      obtain ⟨hnodes, hpairs, hall, nodes, hsub, hfrom⟩ := ih (by omega) h
      exact ⟨hnodes, hpairs, forall_mem_cons.mpr ⟨fun hnew => absurd hseen hnew, hall⟩, nodes,
        hsub.cons _, hfrom⟩
    rename_i hnew
    obtain ⟨-, -, h⟩ := Effect.except_bind_ok h
    obtain ⟨rest, hrest, h⟩ := Effect.except_bind_ok h
    cases h
    obtain ⟨hnodes, hpairs, hall, nodes, hsub, hfrom⟩ := ih (by rw [length_cons]; omega) hrest
    have hfree : L.existingId existing n = none → (L.existingId existing n).getD (uniqueNodeId provider
        (L.baseNodeId index n) usedIds) =
          uniqueNodeId provider (L.baseNodeId index n) usedIds := fun hnone => by
      rw [hnone, Option.getD_none]
    refine ⟨forall_mem_cons.mpr ⟨⟨hnew, fun id hid => ?_, fun hnone => ?_⟩, fun p hp => ?_⟩,
      pairwise_cons.mpr ⟨fun q hq => ?_, hpairs⟩, ?_, (n, index) :: nodes, hsub.cons_cons _,
      .cons ⟨rfl, fun hnone => ?_⟩ hfrom⟩
    · exact congrArg (Option.getD · _) hid
    · rw [hfree hnone]
      exact (uniqueNodeId_spec _ _ _).2
    · obtain ⟨hfresh, hkept, hgen⟩ := hnodes p hp
      exact ⟨fun hin => hfresh (mem_cons_of_mem _ hin), hkept, fun hnone hin =>
        hgen hnone (mem_cons_of_mem _ hin)⟩
    · obtain ⟨hfresh, -, hgen⟩ := hnodes q hq
      exact ⟨fun heq => hfresh (heq ▸ mem_cons_self), fun hnone heq => hgen hnone (heq ▸ mem_cons_self)⟩
    · refine forall_mem_cons.mpr ⟨fun _ => ⟨_, mem_cons_self, rfl⟩, fun m hm hunseen => ?_⟩
      by_cases hsame : L.profileFingerprint m = L.profileFingerprint n
      · exact ⟨_, mem_cons_self, hsame.symm⟩
      · obtain ⟨p, hp, hfp⟩ := hall m hm (by simp [hsame, hunseen])
        exact ⟨p, mem_cons_of_mem _ hp, hfp⟩
    · rw [hfree hnone]
      exact candidateIds_subset _ (by omega) (uniqueNodeId_spec _ _ _).1

theorem normalizeProfiles_spec (h : L.normalizeProfiles provider existing fetched = .ok normalized) :
    (∀ p ∈ normalized, ∀ id, L.existingId existing p = some id → p.id = id) ∧
    normalized.Pairwise (fun p q => L.profileFingerprint p ≠ L.profileFingerprint q ∧
      (L.existingId existing q = none → p.id ≠ q.id)) ∧
    (∀ n ∈ fetched, ∃ p ∈ normalized, L.profileFingerprint p = L.profileFingerprint n) ∧
    ∃ nodes, nodes <+ fetched.zipIdx 1 ∧
      List.Forall₂ (L.Becomes provider existing fetched.length) nodes normalized := by
  obtain ⟨hnodes, hpairs, hall, hfrom⟩ := normalizeFrom_spec (by rw [length_nil, Nat.zero_add]) h
  exact ⟨fun p hp => (hnodes p hp).2.1, hpairs, fun n hn => hall n hn not_mem_nil, hfrom⟩

theorem exists_stored (h : L.normalizeProfiles provider existing fetched = .ok normalized) {p : Profile D}
    (hp : p ∈ normalized) (hknown : L.existingId existing p ≠ none) :
    ∃ p0 ∈ existing, L.profileFingerprint p0 = L.profileFingerprint p ∧ p0.id = p.id := by
  obtain ⟨id, hid⟩ := Option.ne_none_iff_exists'.mp hknown
  obtain ⟨p0, hp0, heq⟩ := Option.map_eq_some_iff.mp hid
  exact ⟨p0, mem_reverse.mp (mem_of_find?_eq_some hp0), by simpa using find?_some hp0,
    heq.trans ((normalizeProfiles_spec h).1 p hp id hid).symm⟩

theorem nodup_refreshed {others : List (Profile D)} (hids : ((others ++ existing).map (·.id)).Nodup)
    (h : L.normalizeProfiles provider existing fetched = .ok normalized)
    (hforeign : ∀ p ∈ normalized, L.existingId existing p = none → p.id ∉ others.map (·.id))
    (hlater : normalized.Pairwise fun p q =>
      L.existingId existing p = none → L.existingId existing q ≠ none → p.id ≠ q.id) :
    ((others ++ normalized).map (·.id)).Nodup := by
  rw [map_append, nodup_append] at hids ⊢
  obtain ⟨hothers, hown, hapart⟩ := hids
  refine ⟨hothers, pairwise_map.mpr (((normalizeProfiles_spec h).2.1.and hlater).imp_of_mem ?_), ?_⟩
  · intro p q hp hq ⟨⟨hfp, hnew⟩, hkept⟩ heq
    by_cases hq' : L.existingId existing q = none
    · exact hnew hq' heq
    by_cases hp' : L.existingId existing p = none
    · exact hkept hp' hq' heq
    -- both kept the identifier of a stored profile, which is the same one
    obtain ⟨p0, hp0, hfp0, hid0⟩ := exists_stored h hp hp'
    obtain ⟨q0, hq0, hfq0, hiq0⟩ := exists_stored h hq hq'
    have hsame := inj_on_of_nodup_map hown hp0 hq0 (hid0.trans (heq.trans hiq0.symm))
    exact hfp (hfp0.symm.trans ((congrArg _ hsame).trans hfq0))
  · intro a ha b hb
    obtain ⟨p, hp, rfl⟩ := mem_map.mp hb
    by_cases hp' : L.existingId existing p = none
    · exact fun heq => hforeign p hp hp' (heq ▸ ha)
    · obtain ⟨p0, hp0, -, hid0⟩ := exists_stored h hp hp'
      exact hid0 ▸ hapart a ha p0.id (mem_map_of_mem hp0)

/-- No identifier that a new node may be given is kept by a later node, or that of a profile the
provider does not own. -/
structure Apart (L : Library) (provider : String) (existing others fetched : List (Profile D)) : Prop where
  foreign : ∀ node ∈ fetched.zipIdx 1, L.existingId existing node.1 = none →
    ∀ id ∈ candidateIds (provider ++ ":" ++ L.baseNodeId node.2 node.1) fetched.length, id ∉ others.map (·.id)
  later : (fetched.zipIdx 1).Pairwise fun node next => L.existingId existing node.1 = none →
    ∀ id ∈ candidateIds (provider ++ ":" ++ L.baseNodeId node.2 node.1) fetched.length,
      L.existingId existing next.1 ≠ some id

/-- **Identifiers of a refresh.** For stored profiles with their own identifiers, the transaction
finds no identifier twice if those that may be generated are apart from the kept ones and from those
of other profiles. Every node with a stored fingerprint keeps the stored identifier. -/
theorem refreshed_ids_distinct (L : Library) (provider : String)
    (existing others fetched normalized : List (Profile D))
    (hids : ((others ++ existing).map (·.id)).Nodup)
    (h : L.normalizeProfiles provider existing fetched = .ok normalized) :
    (L.Apart provider existing others fetched → ((others ++ normalized).map (·.id)).Nodup) ∧
    ∀ n ∈ fetched, ∀ id, L.existingId existing n = some id →
      ∃ p ∈ normalized, L.profileFingerprint p = L.profileFingerprint n ∧ p.id = id := by
  obtain ⟨hkept, -, hall, nodes, hsub, hfrom⟩ := normalizeProfiles_spec h
  have hknown : ∀ {p q : Profile D}, L.profileFingerprint p = L.profileFingerprint q →
      L.existingId existing p = L.existingId existing q := fun heq => by rw [existingId, heq, existingId]
  refine ⟨fun hapart => nodup_refreshed hids h (fun p hp hnone => ?_) ?_, fun n hn id hid => ?_⟩
  · obtain ⟨node, hnode, hfp, hcand⟩ := Lists.mem_right hfrom hp
    exact hapart.foreign node (hsub.subset hnode) ((hknown hfp).symm.trans hnone) p.id (hcand hnone)
  · refine Lists.pairwise_of_forall₂ hfrom (hapart.later.sublist hsub) ?_
    rintro node next p q hq ⟨hfp, hcand⟩ ⟨hfq, -⟩ hlater hnone hsome heq
    obtain ⟨id, hid⟩ := Option.ne_none_iff_exists'.mp hsome
    refine hlater ((hknown hfp).symm.trans hnone) p.id (hcand hnone) ?_
    rw [← hknown hfq, hid, heq, hkept q hq id hid]
  · obtain ⟨p, hp, hfp⟩ := hall n hn
    exact ⟨p, hp, hfp, hkept p hp id ((hknown hfp).trans hid)⟩

/-- Nodes are told apart by their servers, and accepted as they are. -/
def plain : Library where
  fingerprint _ config := (config.getD "server" .null).toStr
  lower := map Char.toLower
  sha256 _ := ""
  validateProfileEndpoint _ _ := .ok ()
  validateProfileSemantics _ _ _ _ := .ok ()

def plainNode (id server : String) : Profile Unit :=
  { id, name := id, protocol := .vless, config := [("server", .str server)], source := .manual,
    createdAt := () }

theorem refreshed_ids_in_order : ∃ normalized,
    plain.normalizeProfiles "p" [plainNode "p:x" "a"] [plainNode "y" "a", plainNode "x" "b"] = .ok normalized ∧
      (([plainNode "mine" "c"] ++ normalized).map (·.id)).Nodup :=
  ⟨_, rfl, (refreshed_ids_distinct plain "p" [plainNode "p:x" "a"] [plainNode "mine" "c"]
    [plainNode "y" "a", plainNode "x" "b"] _ (by decide) rfl).1 ⟨by decide, by decide⟩⟩

/-- A new node that comes before the stored one gets the identifier that the stored one keeps. -/
theorem refreshed_ids_collide :
    (plain.normalizeProfiles "p" [plainNode "p:x" "a"] [plainNode "x" "b", plainNode "y" "a"]).map
      (·.map (·.id)) = .ok ["p:x", "p:x"] := rfl

end Library

/-! ## The merge with the stored profiles -/

def mergeExistingState (current incoming : Profile D) : Profile D :=
  { incoming with
    createdAt := current.createdAt, lastUsed := current.lastUsed, lastHealthCheck := current.lastHealthCheck,
    healthStatus := current.healthStatus, enabled := current.enabled, inRotationPool := current.inRotationPool }

/-- What `update` uses besides. -/
structure Refresh extends Library where
  /-- `a != b`. -/
  differs : Json → Json → Bool
  differs_str : ∀ value text, differs value (.str text) = false ↔ value = .str text
  openvpn : OpenVpn.Lowering

namespace Refresh

open Library (plainNode normalizeProfiles_spec nodup_refreshed)

variable (R : Refresh) (provider : String) (stored fetched : List (Profile D))

def profilePayloadChanged (current incoming : Profile D) : Bool :=
  current.name ≠ incoming.name || current.protocol ≠ incoming.protocol ||
    R.differs (.obj current.config) (.obj incoming.config) || current.source ≠ incoming.source ||
    R.differs current.providerId incoming.providerId || current.enabled ≠ incoming.enabled ||
    current.inRotationPool ≠ incoming.inRotationPool || current.healthStatus ≠ incoming.healthStatus

/-- The loop of `update`: the merged profiles, and how many of them changed. -/
def mergeProfiles (existing : PyDict String (Profile D)) : List (Profile D) → List (Profile D) × Nat
  | [] => ([], 0)
  | profile :: profiles =>
    let (merged, changes) := mergeProfiles existing profiles
    match existing.get profile.id with
    | none => (profile :: merged, changes + 1)
    | some current =>
      let updated := mergeExistingState current profile
      (updated :: merged, if R.profilePayloadChanged current updated then changes + 1 else changes)

def owned : List (Profile D) := stored.filter (!R.differs ·.providerId (.str provider))

def unowned : List (Profile D) := stored.filter (R.differs ·.providerId (.str provider))

variable (providers : List (Provider D))

/-- A turn of the loop of `_owned_profile_ids_by_provider`. -/
def checkOwner (p : Profile D) : Except String Unit :=
  if p.providerId.truthy then
    match p.providerId with
    | .str id => if id ∈ providers.map (·.id) then .ok () else .error "profile has no matching provider"
    | .arr _ => .error "unhashable type: 'list'"
    | .obj _ => .error "unhashable type: 'dict'"
    | _ => .error "profile has no matching provider"
  else if p.source = .subscription then .error "subscription profile has no matching provider"
  else .ok ()

variable (profiles : List (Profile D))

def ownedProfileIds (provider : String) : List String :=
  ((R.owned provider profiles).filter (·.providerId.truthy)).map (·.id)

def validateTransactionReplacement :
    Except String Unit := do
  if ¬ (providers.map (·.id)).Nodup then throw "provider transaction contains duplicate provider identifiers"
  if providers.length > 2 then throw "maximum 2 external providers allowed"
  if ¬ (providers.map (normalizedProviderUrl ·.url)).Nodup then
    throw "provider transaction contains duplicate subscription URLs"
  if ¬ (profiles.map (·.id)).Nodup then throw "provider transaction contains duplicate profile identifiers"
  profiles.forM (validateOpenvpnProfile R.openvpn)
  profiles.forM (checkOwner providers)
  if ¬ ∀ q ∈ providers, q.profiles.Nodup ∧ sameMembers q.profiles (R.ownedProfileIds profiles q.id) = true then
    throw "provider profile membership does not match owned profiles"

/-- The references of a provider are those of its profiles. -/
def republish (now : D) (metadata : Object) (q : Provider D) : Provider D :=
  if q.id = provider then
    { q with lastUpdated := some now, profiles := R.ownedProfileIds profiles provider, metadata }
  else q

/-- The transaction of `update`: the providers and profiles that replace the stored ones, and the
number of changes. -/
def update (now : D) (metadata : Object) (rejectedProfiles : Nat) :
    Except String (List (Provider D) × List (Profile D) × Nat) := do
  if provider ∉ providers.map (·.id) then throw ("provider not found: " ++ provider)
  let existing : PyDict String (Profile D) :=
    PyDict.update [] ((R.owned provider stored).map fun p => (p.id, p))
  if rejectedProfiles ≠ 0 then
    throw ("subscription update returned an incomplete profile set (" ++ Nat.repr rejectedProfiles ++
      " profile(s) rejected); existing provider profiles were preserved")
  let normalized ← R.normalizeProfiles provider (existing.map (·.2)) fetched
  let (merged, changes) := R.mergeProfiles existing normalized
  let removed := existing.filter fun entry => entry.1 ∉ normalized.map (·.id)
  let replacement := R.unowned provider stored ++ merged
  replacement.forM (checkOwner providers)
  -- two providers with this identifier are refused
  let providers := providers.map (R.republish provider replacement now metadata)
  R.validateTransactionReplacement providers replacement
  return (providers, replacement, changes + removed.length)

/-- A fetched node is a stored one again, accepted as before. Parsers give no latency. -/
structure Again (p n : Profile D) : Prop where
  fingerprint : R.profileFingerprint n = R.profileFingerprint p
  name : n.name = p.name
  protocol : n.protocol = p.protocol
  config : R.differs (.obj p.config) (.obj n.config) = false
  endpoint : R.validateProfileEndpoint n.protocol n.config = .ok ()
  semantics : R.validateProfileSemantics p.id n.name n.protocol n.config = .ok ()
  openvpn : validateOpenvpnProfile R.openvpn n = .ok ()
  latency : n.latencyMs = none ∧ n.lastLatencyCheck = none

/-- What `validateTransactionReplacement` asks for. -/
structure Valid : Prop where
  providerIds : (providers.map (·.id)).Nodup
  limit : providers.length ≤ 2
  urls : (providers.map (normalizedProviderUrl ·.url)).Nodup
  ids : (profiles.map (·.id)).Nodup
  openvpn : ∀ p ∈ profiles, validateOpenvpnProfile R.openvpn p = .ok ()
  owners : ∀ p ∈ profiles, checkOwner providers p = .ok ()
  members : ∀ q ∈ providers, q.profiles.Nodup ∧ sameMembers q.profiles (R.ownedProfileIds profiles q.id) = true

/-- The stored documents are as `add` or `update` left them, and the fetched nodes are those of the
provider. -/
structure Unchanged : Prop extends R.Valid providers stored where
  present : provider ∈ providers.map (·.id)
  fingerprints : ((R.owned provider stored).map R.profileFingerprint).Nodup
  source : ∀ p ∈ R.owned provider stored, p.source = .subscription
  known : ∀ n ∈ fetched, ∃ p ∈ R.owned provider stored, R.Again p n
  again : ∀ p ∈ R.owned provider stored, ∃ n ∈ fetched, R.Again p n

/-- What is recorded about a profile beside its node. -/
def recorded (p : Profile D) :=
  (p.id, p.createdAt, p.lastUsed, p.healthStatus, p.lastHealthCheck, p.latencyMs, p.lastLatencyCheck, p.enabled,
    p.inRotationPool)

/-- A stored profile and a fetched node, as one profile. -/
def renewed (pair : Profile D × Profile D) : Profile D :=
  { pair.2 with id := pair.1.id, source := .subscription, providerId := .str provider, inRotationPool := true }

def merged (pair : Profile D × Profile D) : Profile D := mergeExistingState pair.1 (renewed provider pair)

/-- The profiles after a refresh without news. -/
def refreshed (pairs : List (Profile D × Profile D)) : List (Profile D) :=
  R.unowned provider stored ++ pairs.map (merged provider)

variable {R provider stored fetched} {existing : List (Profile D)}
  {pairs : List (Profile D × Profile D)} {p n : Profile D}

theorem existingId_of_mem (hfps : (existing.map R.profileFingerprint).Nodup) (hp : p ∈ existing)
    (hfp : R.profileFingerprint n = R.profileFingerprint p) : R.existingId existing n = some p.id := by
  unfold Library.existingId
  cases hfind : existing.reverse.find? fun q => R.profileFingerprint q = R.profileFingerprint n with
  | none => simpa [hfp] using find?_eq_none.mp hfind p (mem_reverse.mpr hp)
  | some q =>
    have hq : R.profileFingerprint q = R.profileFingerprint n := by simpa using find?_some hfind
    rw [inj_on_of_nodup_map hfps (mem_reverse.mp (mem_of_find?_eq_some hfind)) hp (hq.trans hfp)]
    rfl

theorem normalizeFrom_again (hfps : (existing.map R.profileFingerprint).Nodup) {index : Nat}
    {usedIds usedFingerprints : List String} (h : ∀ n ∈ fetched, ∃ p ∈ existing, R.Again p n) : ∃ pairs,
      R.normalizeFrom provider existing index usedIds usedFingerprints fetched =
        .ok (map (renewed provider) pairs) ∧
      ∀ pair ∈ pairs, pair.1 ∈ existing ∧ R.Again pair.1 pair.2 := by
  induction fetched generalizing index usedIds usedFingerprints with
  | nil => exact ⟨[], rfl, forall_mem_nil _⟩
  | cons n fetched ih =>
    obtain ⟨⟨p, hp, ha⟩, h⟩ := forall_mem_cons.mp h
    rw [Library.normalizeFrom, ha.endpoint, existingId_of_mem hfps hp ha.fingerprint]
    dsimp only [Bind.bind, Except.bind, Option.getD_some]
    split
    · exact ih h
    · obtain ⟨pairs, hrest, hpairs⟩ := ih h
      rw [ha.semantics, hrest]
      exact ⟨(p, n) :: pairs, rfl, forall_mem_cons.mpr ⟨⟨hp, ha⟩, hpairs⟩⟩

theorem mergeProfiles_unchanged {existing : PyDict String (Profile D)} (h : ∀ pair ∈ pairs,
      existing.get pair.1.id = some pair.1 ∧ R.profilePayloadChanged pair.1 (merged provider pair) = false) :
    R.mergeProfiles existing (pairs.map (renewed provider)) = (pairs.map (merged provider), 0) := by
  induction pairs with
  | nil => rfl
  | cons pair pairs ih =>
    obtain ⟨⟨hget, hsame⟩, h⟩ := forall_mem_cons.mp h
    rw [map_cons, mergeProfiles, ih h, show existing.get (renewed provider pair).id = some pair.1 from hget]
    exact congrArg (Prod.mk _) (if_neg (ne_true_of_eq_false hsame))

theorem mem_owned : p ∈ R.owned provider stored ↔ p ∈ stored ∧
    R.differs p.providerId (.str provider) = false := by
  simp [owned]

theorem forM_ok {α : Type} {f : α → Except String Unit} {l : List α} (h : ∀ a ∈ l, f a = .ok ()) :
    l.forM f = .ok () := by
  induction l with
  | nil => rfl
  | cons a l ih =>
    change (f a >>= fun _ => l.forM f) = _
    rw [h a mem_cons_self]
    exact ih fun b hb => h b (mem_cons_of_mem _ hb)

theorem Valid.accepted {providers : List (Provider D)} {profiles : List (Profile D)}
    (hv : R.Valid providers profiles) :
    R.validateTransactionReplacement providers profiles = .ok () := by
  unfold validateTransactionReplacement
  simp only [if_neg (not_not_intro hv.providerIds), if_neg (not_lt.mpr hv.limit),
    if_neg (not_not_intro hv.urls),
    if_neg (not_not_intro hv.ids), forM_ok hv.openvpn, forM_ok hv.owners, if_neg (not_not_intro hv.members)]
  rfl

variable {providers : List (Provider D)} {now : D} {metadata : Object}

theorem republish_same {profiles : List (Profile D)} (q : Provider D) :
    (R.republish provider profiles now metadata q).id = q.id ∧
      (R.republish provider profiles now metadata q).url = q.url := by
  unfold republish
  split <;> exact ⟨rfl, rfl⟩

theorem differs_ne {a b : String} (hne : a ≠ b) : R.differs (.str a) (.str b) = true := by
  rw [← Bool.not_eq_false, R.differs_str]
  exact fun heq => hne (Json.str.inj heq)

/-- The profiles of the other providers stay where they are. -/
theorem ownedProfileIds_merged {other : String} (hne : other ≠ provider) :
    R.ownedProfileIds (R.refreshed provider stored pairs) other = R.ownedProfileIds stored other := by
  have hnone : R.owned other (map (merged provider) pairs) = [] :=
    filter_eq_nil_iff.mpr (forall_mem_map.mpr fun pair _ => by
      rw [show (merged provider pair).providerId = .str provider from rfl, differs_ne hne.symm]
      decide)
  have hkeep : R.owned other (R.unowned provider stored) = R.owned other stored := by
    unfold owned unowned
    rw [filter_filter]
    refine filter_congr fun p _ => ?_
    cases hown : R.differs p.providerId (.str other) with
    | true => rfl
    | false => rw [(R.differs_str _ _).mp hown, differs_ne hne, Bool.and_true]
  have happ : R.owned other (R.refreshed provider stored pairs) = R.owned other stored := by
    rw [← hkeep, refreshed, owned, filter_append, ← owned, ← owned, hnone, append_nil]
  rw [ownedProfileIds, happ, ownedProfileIds]

section

variable (hu : R.Unchanged provider stored fetched providers)
  (hpairs : ∀ pair ∈ pairs, pair.1 ∈ R.owned provider stored ∧ R.Again pair.1 pair.2)
include hu hpairs

theorem checkOwner_merged : ∀ p ∈ R.refreshed provider stored pairs,
    checkOwner providers p = .ok () := by
  refine forall_mem_append.mpr ⟨fun p hp => hu.owners p (mem_of_mem_filter hp), forall_mem_map.mpr
    fun pair hpair => ?_⟩
  obtain ⟨hp, hown⟩ := mem_owned.mp (hpairs pair hpair).1
  rw [← hu.owners pair.1 hp, checkOwner, checkOwner, (R.differs_str _ _).mp hown,
    hu.source _ (hpairs pair hpair).1]
  rfl

theorem valid_merged (now : D) (metadata : Object)
    (hids : ((R.refreshed provider stored pairs).map (·.id)).Nodup) :
    R.Valid (providers.map (R.republish provider (R.refreshed provider stored pairs) now metadata))
      (R.refreshed provider stored pairs) := by
  have hkeys : (providers.map (R.republish provider
      (R.refreshed provider stored pairs) now metadata)).map (·.id) = providers.map (·.id) := by
    rw [map_map]
    exact map_congr_left fun q _ => (republish_same q).1
  refine ⟨hkeys ▸ hu.providerIds, by rw [length_map]; exact hu.limit, ?_, hids, ?_, ?_,
    forall_mem_map.mpr fun q hq => ?_⟩
  · rw [map_map]
    exact (map_congr_left fun q _ => congrArg normalizedProviderUrl (republish_same q).2) ▸ hu.urls
  · exact forall_mem_append.mpr ⟨fun p hp => hu.openvpn p (mem_of_mem_filter hp),
      forall_mem_map.mpr fun pair hpair => (hpairs pair hpair).2.openvpn⟩
  · intro p hp
    have howner := checkOwner_merged hu hpairs p hp
    unfold checkOwner at howner ⊢
    rw [hkeys]
    exact howner
  · unfold republish
    split
    case isTrue heq =>
      rw [heq]
      refine ⟨((filter_sublist.trans filter_sublist).map _).nodup hids, ?_⟩
      rw [sameMembers, Bool.and_self, all_eq_true]
      exact fun id hid => contains_iff_mem.mpr hid
    case isFalse hne =>
      rw [ownedProfileIds_merged hne]
      exact hu.members q hq

end

theorem update_unchanged (hu : R.Unchanged provider stored fetched providers) : ∃ providers' pairs,
    R.update provider stored fetched providers now metadata 0 =
      .ok (providers', R.refreshed provider stored pairs, 0) ∧
      (∀ pair ∈ pairs, pair.1 ∈ R.owned provider stored ∧ R.Again pair.1 pair.2) ∧
      ∀ p ∈ R.owned provider stored, ∃ n, (p, n) ∈ pairs := by
  obtain ⟨pairs, hnorm, hpairs⟩ : ∃ pairs, R.normalizeProfiles provider (R.owned provider stored) fetched =
      .ok (map (renewed provider) pairs) ∧ _ := normalizeFrom_again hu.fingerprints hu.known
  -- a node that is fetched again finds its own profile, for no two have one fingerprint
  have hback : ∀ p ∈ R.owned provider stored, ∃ n, (p, n) ∈ pairs := by
    intro p hp
    obtain ⟨n, hn, ha⟩ := hu.again p hp
    obtain ⟨q, hq, hfp⟩ := (normalizeProfiles_spec hnorm).2.2.1 n hn
    obtain ⟨pair, hpair, rfl⟩ := mem_map.mp hq
    obtain ⟨hin, ha'⟩ := hpairs pair hpair
    cases inj_on_of_nodup_map hu.fingerprints hin hp (ha'.fingerprint.symm.trans (hfp.trans ha.fingerprint))
    exact ⟨pair.2, hpair⟩
  let existing : PyDict String (Profile D) := (R.owned provider stored).map fun p => (p.id, p)
  have hkeys : (existing.map (·.1)).Nodup := by
    rw [map_map]
    exact (filter_sublist.map _).nodup hu.ids
  have hmerge : R.mergeProfiles existing (pairs.map (renewed provider)) =
      _ := mergeProfiles_unchanged fun pair hpair => by
    obtain ⟨hp, ha⟩ := hpairs pair hpair
    refine ⟨PyDict.get_of_mem (mem_map_of_mem hp) hkeys, ?_⟩
    simp [profilePayloadChanged, merged, mergeExistingState, renewed, ha.name, ha.protocol,
      ha.config, hu.source _ hp, (mem_owned.mp hp).2]
  have hrem : existing.filter (fun entry => entry.1 ∉ (pairs.map (renewed provider)).map (·.id)) = [] := by
    refine filter_eq_nil_iff.mpr fun entry hent => ?_
    obtain ⟨p, hp, rfl⟩ := mem_map.mp hent
    obtain ⟨n, hn⟩ := hback p hp
    simpa using ⟨p, n, hn, rfl⟩
  have hids : ((R.refreshed provider stored pairs).map (·.id)).Nodup := by
    have hknown : ∀ q ∈ pairs.map (renewed provider), R.existingId (R.owned provider stored) q ≠ none := by
      refine forall_mem_map.mpr fun pair hpair hnone => ?_
      obtain ⟨hp, ha⟩ := hpairs pair hpair
      exact absurd (hnone.symm.trans (existingId_of_mem hu.fingerprints hp ha.fingerprint)) nofun
    have hnd := nodup_refreshed (((filter_append_perm _ _).map _).nodup_iff.mpr hu.ids) hnorm
      (fun q hq hnone => absurd hnone (hknown q hq))
      ((normalizeProfiles_spec hnorm).2.1.imp_of_mem fun hp _ _ hnone => absurd hnone (hknown _ hp))
    rw [refreshed, map_append, map_map] at *
    exact hnd
  have hdict : PyDict.update [] _ = existing := PyDict.update_of_nodup hkeys
  have hvals : existing.map (·.2) = R.owned provider stored := by
    rw [map_map]
    exact map_id _
  have hupdate : R.update provider stored fetched providers now metadata 0 =
      .ok (providers.map (R.republish provider
      (R.refreshed provider stored pairs) now metadata), R.refreshed provider stored pairs, 0) := by
    have howners := forM_ok (checkOwner_merged hu hpairs)
    have hvalid := (valid_merged hu hpairs now metadata hids).accepted
    unfold refreshed at howners hvalid ⊢
    simp only [update, if_neg (not_not_intro hu.present), hdict, hvals, hnorm, Effect.ok_bind,
      ne_eq, not_true_eq_false, if_false, hmerge, hrem, howners, hvalid]
    rfl
  exact ⟨_, pairs, hupdate, hpairs, hback⟩

theorem recorded_merged (h : R.Again p n) :
    recorded (merged provider (p, n)) = recorded p ↔ p.latencyMs = none ∧ p.lastLatencyCheck = none := by
  simp [recorded, merged, mergeExistingState, renewed, h.latency, eq_comm]

/-- **An unchanged subscription.** Where the fetched nodes are those stored, `update` returns 0, and
every profile keeps what is recorded about it exactly if no latency had been measured. -/
theorem unchanged_refresh_iff (R : Refresh) (provider : String) (stored fetched : List (Profile D))
    (providers : List (Provider D)) (now : D) (metadata : Object)
    (hu : R.Unchanged provider stored fetched providers) : ∃ providers' profiles,
      R.update provider stored fetched providers now metadata 0 = .ok (providers', profiles, 0) ∧
      ((∀ p ∈ stored, ∃ q ∈ profiles, recorded q = recorded p) ↔
        ∀ p ∈ R.owned provider stored, p.latencyMs = none ∧ p.lastLatencyCheck = none) := by
  obtain ⟨providers', pairs, hupdate, hpairs, hback⟩ := update_unchanged hu
  refine ⟨providers', _, hupdate, fun h p hp => ?_, fun h p hp => ?_⟩
  · have hin := mem_owned.mp hp
    obtain ⟨q, hq, heq⟩ := h p hin.1
    rcases mem_append.mp hq with hq | hq
    · -- another profile has another identifier
      obtain ⟨hq, hoth⟩ := mem_filter.mp hq
      cases inj_on_of_nodup_map hu.ids hq hin.1 (congrArg Prod.fst heq)
      exact absurd (hin.2.symm.trans hoth) nofun
    · obtain ⟨pair, hpair, rfl⟩ := mem_map.mp hq
      obtain ⟨hown, ha⟩ := hpairs pair hpair
      cases inj_on_of_nodup_map hu.ids (mem_owned.mp hown).1 hin.1 (congrArg Prod.fst heq)
      exact (recorded_merged ha).mp heq
  · by_cases hown : p ∈ R.owned provider stored
    · obtain ⟨n, hn⟩ := hback p hown
      exact ⟨_, mem_append_right _ (mem_map_of_mem hn), (recorded_merged (hpairs _ hn).2).mpr (h p hown)⟩
    · have hoth : R.differs p.providerId (.str provider) = true := by simpa [mem_owned, hp] using hown
      exact ⟨p, mem_append_left _ (mem_filter.mpr ⟨hp, hoth⟩), rfl⟩

/-- Values are told apart by their texts, and from a text. -/
def plain : Refresh where
  toLibrary := Library.plain
  differs
    | .str text, .str text' => text != text'
    | _, .str _ => true
    | value, value' => value.toStr != value'.toStr
  differs_str value text := by cases value <;> simp
  openvpn := ⟨map Char.toLower, OpenVpn.map_toLower_angle⟩

def storedNode (provider id server : String) : Profile Unit :=
  renewed provider (plainNode (provider ++ ":" ++ id) server, plainNode id server)

def labStored : List (Profile Unit) :=
  [storedNode "p" "x" "a", storedNode "p" "y" "b", storedNode "q" "z" "c", plainNode "mine" "d"]

def labProviders : List (Provider Unit) :=
  [{ id := "p", name := "p", url := "https://p.example", profiles := ["p:x", "p:y"] },
    { id := "q", name := "q", url := "https://q.example", profiles := ["q:z"] }]

/-- Two providers and a profile of the user's own. The nodes of the one come in another order. -/
theorem unchanged_refresh_unmeasured : ∃ providers profiles,
    plain.update "p" labStored [plainNode "y" "b", plainNode "x" "a"] labProviders () [] 0 =
      .ok (providers, profiles, 0) ∧ ∀ p ∈ labStored, ∃ q ∈ profiles, recorded q = recorded p := by
  have hagain : ∀ id server, plain.Again (storedNode "p" id server) (plainNode id server) := fun _ _ =>
    ⟨rfl, rfl, rfl, bne_self_eq_false _, rfl, rfl, rfl, rfl, rfl⟩
  have hown : plain.owned "p" labStored = [storedNode "p" "x" "a", storedNode "p" "y" "b"] := rfl
  have hvalid : plain.Valid labProviders labStored := by
    refine ⟨by decide, by decide, by decide +kernel, by decide, ?_, ?_, by decide⟩
    all_goals
      unfold labStored
      simp only [forall_mem_cons]
      exact ⟨rfl, rfl, rfl, rfl, forall_mem_nil _⟩
  have hu : plain.Unchanged "p" labStored [plainNode "y" "b", plainNode "x" "a"] labProviders := by
    refine ⟨hvalid, by decide, by rw [hown]; decide, ?_, ?_, ?_⟩ <;> rw [hown] <;>
      simp only [forall_mem_cons, exists_mem_cons_iff]
    · exact ⟨rfl, rfl, forall_mem_nil _⟩
    · exact ⟨.inr (.inl (hagain "y" "b")), .inl (hagain "x" "a"), forall_mem_nil _⟩
    · exact ⟨.inr (.inl (hagain "x" "a")), .inl (hagain "y" "b"), forall_mem_nil _⟩
  obtain ⟨providers, profiles, hupdate, hkept⟩ := unchanged_refresh_iff plain "p" labStored
    [plainNode "y" "b", plainNode "x" "a"] labProviders () [] hu
  refine ⟨providers, profiles, hupdate, hkept.mpr ?_⟩
  rw [hown]
  simp only [forall_mem_cons]
  exact ⟨⟨rfl, rfl⟩, ⟨rfl, rfl⟩, forall_mem_nil _⟩

/-- The latency is not merged. -/
theorem refresh_forgets_latency :
    (plain.update "p" [{ storedNode "p" "x" "a" with latencyMs := some "42.0" }] [plainNode "x" "a"]
      [{ id := "p", name := "p", url := "https://p.example", profiles := ["p:x"] }] () [] 0).map
      (fun r => (r.2.1.map (·.latencyMs), r.2.2)) = .ok ([none], 0) := by decide +kernel

end Refresh

end WatchdogVpn.Providers
