import Mathlib
import WatchdogVpn.Lib.Lists
import WatchdogVpn.Rules.Lifecycle

/-!
# What the declared files are

A refresh writes a file only after its bytes met the policy, and only under the name of its own rule
set. But the files stay where they are when the policy changes.

* `refreshAll_touched`: what a refresh can do to the cache.
* `refreshAll_outcome`: what it returns for each rule set.
* **`declared_files_meet_policy`**: a declared file meets the policy in force if no policy is added
  over a file that does not meet it; in general exactly if the call itself loaded it or it did so
  before.
-/

namespace WatchdogVpn.Rules

open List RuleSetLibrary

variable {lib : RuleSetLibrary} {s s' : RuleSetState} {cache cache' : Cache} {policy : RuleSetTrustPolicy}
  {policies : List RuleSetTrustPolicy} {registry : RuleSetTrustRegistry} {force : Bool}
  {answers : String → RefreshAnswers}

/-- The bytes were fetched from the source of the policy and have the digest that it pins. -/
def Meets (lib : RuleSetLibrary) (policy : RuleSetTrustPolicy) (file : CacheFile) : Prop :=
  file.source = policy.source ∧ ∀ pin, policy.expectedSha256 = some pin → lib.sha256 file.bytes = pin

def Pinned (lib : RuleSetLibrary) (s : RuleSetState) (d : RuleSetDeclaration) : Prop :=
  ∃ policy file, s.registry.policyFor d.ruleSetId = some policy ∧ s.cache d.path = some file ∧
    Meets lib policy file

/-! ## The cache -/

variable {ans : RefreshAnswers}

theorem accept_meets {payload : Bytes} (h : lib.accept policy ans = .ok payload) :
    Meets lib policy ⟨payload, policy.source⟩ := by
  refine ⟨rfl, fun pin hpin => ?_⟩
  unfold accept at h
  cases hp : ans.payload with
  | error e => rw [hp] at h; cases h
  | ok bytes =>
    rw [hp, hpin] at h
    by_cases hne : lib.sha256 bytes ≠ pin
    · simp [hne, bind, Except.bind] at h
    have hbytes : payload = bytes := by
      simp only [hne, bind, Except.bind, if_false] at h
      split at h
      · split at h
        · cases h
        cases hw : ans.write <;> rw [hw] at h <;> cases h
        rfl
      · cases hw : ans.write <;> rw [hw] at h <;> cases h
        rfl
    rw [hbytes]
    simpa using hne

/-- Every path is as it was, or holds a file that meets its policy. -/
def Touched (lib : RuleSetLibrary) (policies : List RuleSetTrustPolicy) (cache cache' : Cache) : Prop :=
  ∀ path, cache' path = cache path ∨
    ∃ policy ∈ policies, path = lib.cachePathFor policy ∧ ∃ file, cache' path = some file ∧
    Meets lib policy file

variable {previous : RuleSetStatus}

theorem refreshOne_touched : Touched lib [policy] cache (lib.refreshOne policy previous force ans cache).2 := by
  intro path
  unfold refreshOne
  split
  · exact .inl rfl
  cases hpay : lib.accept policy ans with
  | error e => exact .inl rfl
  | ok payload =>
    by_cases hpath : path = lib.cachePathFor policy
    · subst hpath
      exact .inr ⟨policy, mem_singleton_self _, rfl, _, Function.update_self .., accept_meets hpay⟩
    · exact .inl (Function.update_of_ne hpath ..)

theorem Touched.trans {cache'' : Cache} {more : List RuleSetTrustPolicy} (h : Touched lib policies cache cache')
    (h' : Touched lib more cache' cache'') : Touched lib (policies ++ more) cache cache'' := by
  intro path
  rcases h' path with hsame | ⟨policy, hmem, hpath, hfile⟩
  · rw [hsame]
    rcases h path with hsame' | ⟨policy, hmem, hpath, hfile⟩
    · exact .inl hsame'
    · exact .inr ⟨policy, mem_append_left _ hmem, hpath, hfile⟩
  · exact .inr ⟨policy, mem_append_right _ hmem, hpath, hfile⟩

/-- **What a refresh can do to the cache**, whether it returns or raises. -/
theorem refreshAll_touched : ∀ (policies : List RuleSetTrustPolicy) cache,
    Touched lib policies cache (lib.refreshAll registry force answers policies cache).2
  | [], _ => fun _ => .inl rfl
  | policy :: policies, cache => by
    have hone : Touched lib [policy] cache
        (lib.refreshOne policy (registry.statusFor policy.id) force (answers policy.id) cache).2 :=
          refreshOne_touched
    unfold refreshAll
    generalize lib.refreshOne policy (registry.statusFor policy.id) force
      (answers policy.id) cache = one at hone
    obtain ⟨r, cache1⟩ := one
    cases r with
    | error e =>
      intro path
      rcases hone path with hsame | ⟨p, hp, hrest⟩
      · exact .inl hsame
      · exact .inr ⟨p, by simpa using .inl (mem_singleton.mp hp), hrest⟩
    | ok out =>
      have hrest := refreshAll_touched policies cache1
      have hboth := hone.trans hrest
      dsimp only
      generalize lib.refreshAll registry force answers policies cache1 = all at hboth
      obtain ⟨r, cache2⟩ := all
      cases r <;> exact hboth

variable {id : String}

theorem Touched.other (h : Touched lib policies cache cache') (hid : ∀ p ∈ policies, p.id ≠ id)
    (ext : CacheExtension) : cache' (lib.path id ext) = cache (lib.path id ext) := by
  rcases h (lib.path id ext) with hsame | ⟨p, hp, hpath, -⟩
  · exact hsame
  · exact absurd (lib.path_owner _ _ _ _ hpath).symm (hid p hp)

/-! ## The statuses -/

/-- The path is one of the names of the rule set. -/
def Owns (lib : RuleSetLibrary) (id path : String) : Prop := ∃ ext, path = lib.path id ext

/-- What `_refresh_one` returned for a policy, with the cache before and after. -/
structure Outcome (lib : RuleSetLibrary) (cache cache' : Cache) (policy : RuleSetTrustPolicy)
    (out : RuleSetStatus × RuleSetRefreshResult) : Prop where
  statusId : out.1.id = policy.id
  resultId : out.2.id = policy.id
  owned : ∀ path, out.1.cachePath = some path → Owns lib policy.id path
  loaded : out.2.refreshed = true → ∀ path, out.1.cachePath = some path →
    ∃ file, cache' path = some file ∧ Meets lib policy file
  kept : out.2.refreshed = false → ∀ ext, cache' (lib.path policy.id ext) = cache (lib.path policy.id ext)
  there : out.2.refreshed = false → out.1.usable = true → ∀ path, out.1.cachePath = some path →
    (cache path).isSome = true

theorem existingCachePath_some {path : String}
    (howned : ∀ path, previous.cachePath = some path → Owns lib policy.id path)
    (h : lib.existingCachePath cache policy previous = some path) :
    Owns lib policy.id path ∧ (cache path).isSome = true := by
  refine ⟨?_, by simpa using find?_some h⟩
  have hmem := mem_of_find?_eq_some h
  rw [mem_append] at hmem
  rcases hmem with hprev | hown
  · exact howned path (by simpa using hprev)
  · exact ⟨_, mem_singleton.mp hown⟩

theorem refreshDue_false {now : Time} {path : String}
    (h : refreshDue cache policy previous now = false) (hpath : previous.cachePath = some path) :
    (cache path).isSome = true := by
  unfold refreshDue at h
  split at h
  · cases h
  split at h
  · cases h
  rename_i hany
  rw [Bool.not_eq_false, hpath] at hany
  exact hany

variable {out : RuleSetStatus × RuleSetRefreshResult}

theorem refreshOne_outcome (hid : previous.id = policy.id)
    (howned : ∀ path, previous.cachePath = some path → Owns lib policy.id path)
    (h : lib.refreshOne policy previous force ans cache = (.ok out, cache')) :
    Outcome lib cache cache' policy out := by
  unfold refreshOne at h
  split at h
  · rename_i hcond
    cases h
    exact ⟨hid, rfl, howned, fun hr => (by cases hr), fun _ _ => rfl, fun _ _ _ hpath =>
      refreshDue_false hcond.2.1 hpath⟩
  · cases hpay : lib.accept policy ans with
    | ok payload =>
      rw [hpay] at h
      cases h
      refine ⟨rfl, rfl, ?_, fun _ path hpath => ?_, fun hr => (by cases hr), fun hr => (by cases hr)⟩
      · rintro path hpath
        cases hpath
        exact ⟨_, rfl⟩
      · cases hpath
        exact ⟨_, Function.update_self .., accept_meets hpay⟩
    | error e =>
      rw [hpay] at h
      simp only [fallbackStatus] at h
      split at h
      · cases h
      cases h
      refine ⟨rfl, rfl, fun path hpath => ?_, fun hr => (by cases hr), fun _ _ => rfl,
        fun _ husable path hpath => ?_⟩
      · cases hex : lib.existingCachePath cache policy previous with
        | none => rw [hex] at hpath; exact howned path hpath
        | some p =>
          rw [hex] at hpath
          cases hpath
          exact (existingCachePath_some howned hex).1
      · cases hex : lib.existingCachePath cache policy previous with
        | none => simp [hex, RuleSetStatus.usable] at husable
        | some p =>
          simp only [hex, Option.some_or, Option.some.injEq] at hpath
          subst hpath
          exact (existingCachePath_some howned hex).2

/-- An outcome does not depend on what happens to other rule sets before or after. -/
theorem Outcome.frame {c c' : Cache}
    (h : Outcome lib cache cache' policy out)
    (hc : ∀ ext, c (lib.path policy.id ext) = cache (lib.path policy.id ext))
    (hc' : ∀ ext, c' (lib.path policy.id ext) = cache' (lib.path policy.id ext)) :
    Outcome lib c c' policy out where
  statusId := h.statusId
  resultId := h.resultId
  owned := h.owned
  loaded hr path hpath := by
    obtain ⟨ext, rfl⟩ := h.owned path hpath
    rw [hc' ext]
    exact h.loaded hr _ hpath
  kept hr ext := by rw [hc' ext, hc ext, h.kept hr ext]
  there hr husable path hpath := by
    obtain ⟨ext, rfl⟩ := h.owned path hpath
    rw [hc ext]
    exact h.there hr husable _ hpath

/-- The registry is what the checks of its constructor and the names of the cache make it. -/
structure Consistent (lib : RuleSetLibrary) (registry : RuleSetTrustRegistry) : Prop where
  policyIds : ∀ id policy, registry.policyFor id = some policy → policy.id = id
  statusIds : ∀ id, (registry.statusFor id).id = id
  owned : ∀ id path, (registry.statusFor id).cachePath = some path → Owns lib id path

/-- **What a refresh returns** for each rule set. -/
theorem refreshAll_outcome (hreg : Consistent lib registry) : ∀ (policies : List RuleSetTrustPolicy) cache
    {outs : List (RuleSetStatus × RuleSetRefreshResult)} {cache' : Cache}, (policies.map (·.id)).Nodup →
    lib.refreshAll registry force answers policies cache = (.ok outs, cache') →
    List.Forall₂ (Outcome lib cache cache') policies outs
  | [], cache, outs, cache', _, h => by
    cases h
    exact .nil
  | policy :: policies, cache, outs, cache', hnd, h => by
    obtain ⟨hne, hnd⟩ := nodup_cons.mp hnd
    have hne : ∀ p ∈ policies, p.id ≠ policy.id := fun p hp heq => hne (mem_map.mpr ⟨p, hp, heq⟩)
    unfold refreshAll at h
    have htouch : Touched lib [policy] cache
        (lib.refreshOne policy (registry.statusFor policy.id) force (answers policy.id) cache).2 :=
          refreshOne_touched
    generalize hone : lib.refreshOne policy (registry.statusFor policy.id) force (answers policy.id) cache = one
      at h htouch
    obtain ⟨r, cache1⟩ := one
    cases r with
    | error e => cases h
    | ok out =>
      dsimp only at h
      have hrest : Touched lib policies cache1 (lib.refreshAll registry force answers policies cache1).2 :=
        refreshAll_touched policies cache1
      generalize hall : lib.refreshAll registry force answers policies cache1 = all at h hrest
      obtain ⟨r, cache2⟩ := all
      cases r with
      | error e => cases h
      | ok outs =>
        cases h
        have hout := refreshOne_outcome (hreg.statusIds _) (hreg.owned _) hone
        refine .cons (hout.frame (fun _ => rfl) fun ext => hrest.other hne ext) ?_
        have houts := refreshAll_outcome hreg policies cache1 hnd hall
        refine ((forall₂_and_left _ _).mpr ⟨hne, houts⟩).imp fun p out ⟨hp, ho⟩ =>
          ho.frame (fun ext => ?_) fun _ => rfl
        exact (htouch.other (by simpa using hp.symm) ext).symm

/-! ## The registry -/

theorem get_foldl_set_other : ∀ (statuses : List RuleSetStatus) (d : PyDict String RuleSetStatus),
    id ∉ statuses.map (·.id) → (statuses.foldl (fun d status => d.set status.id status) d).get id = d.get id
  | [], _, _ => rfl
  | status :: statuses, d, hid => by
    obtain ⟨hne, hid⟩ := not_or.mp (fun h => hid (mem_cons.mpr h))
    rw [foldl_cons, get_foldl_set_other statuses _ hid, PyDict.get_set_ne hne]

theorem get_foldl_set_mem {status : RuleSetStatus} : ∀ (statuses : List RuleSetStatus)
    (d : PyDict String RuleSetStatus), (statuses.map (·.id)).Nodup → status ∈ statuses →
    (statuses.foldl (fun d status => d.set status.id status) d).get status.id = some status
  | first :: statuses, d, hnd, hmem => by
    obtain ⟨hnot, hnd⟩ := nodup_cons.mp hnd
    rcases mem_cons.mp hmem with rfl | hmem
    · rw [foldl_cons, get_foldl_set_other statuses _ hnot, PyDict.get_set_self]
    · rw [foldl_cons, get_foldl_set_mem statuses _ hnd hmem]

theorem statusFor_update_other {statuses : List RuleSetStatus} (hid : id ∉ statuses.map (·.id)) :
    (registry.updateStatuses statuses).statusFor id = registry.statusFor id := by
  unfold RuleSetTrustRegistry.statusFor RuleSetTrustRegistry.updateStatuses
  rw [get_foldl_set_other statuses _ hid]

theorem statusFor_update_mem {statuses : List RuleSetStatus} {status : RuleSetStatus}
    (hnd : (statuses.map (·.id)).Nodup) (hmem : status ∈ statuses) :
    (registry.updateStatuses statuses).statusFor status.id = status := by
  unfold RuleSetTrustRegistry.statusFor RuleSetTrustRegistry.updateStatuses
  rw [get_foldl_set_mem statuses _ hnd hmem]
  rfl

theorem evict_status {id path : String} (hpol : (registry.policyFor id).isSome = true)
    (hpath : (registry.statusFor id).cachePath = some path) : lib.evict registry cache path = cache path := by
  have hget : ∃ status, registry.statuses.get id = some status ∧ status.cachePath = some path := by
    unfold RuleSetTrustRegistry.statusFor at hpath
    cases hst : registry.statuses.get id with
    | none => rw [hst] at hpath; cases hpath
    | some status => rw [hst] at hpath; exact ⟨status, rfl, hpath⟩
  obtain ⟨status, hget, hpath⟩ := hget
  refine if_pos (.inr (mem_filterMap.mpr ⟨(id, status), mem_filter.mpr ⟨PyDict.mem_of_get hget, ?_⟩, hpath⟩))
  exact hpol

theorem evict_cases (lib : RuleSetLibrary) (registry : RuleSetTrustRegistry) (cache : Cache) (path : String) :
    lib.evict registry cache path = cache path ∨ lib.evict registry cache path = none := by
  unfold evict
  split
  · exact .inl rfl
  · exact .inr rfl

/-! ## One refresh -/

/-- What a refresh that returns has done. -/
structure Refreshed (lib : RuleSetLibrary) (s : RuleSetState) (selected : List String) (evict : Bool)
    (results : List RuleSetRefreshResult) (s' : RuleSetState) (policies : List RuleSetTrustPolicy)
    (outs : List (RuleSetStatus × RuleSetRefreshResult)) (cache' : Cache) : Prop where
  known : policies.map (·.id) = selected
  inForce : ∀ policy ∈ policies, s.registry.policyFor policy.id = some policy
  touched : Touched lib policies s.cache cache'
  outcomes : List.Forall₂ (Outcome lib s.cache cache') policies outs
  results : results = outs.map (·.2)
  registry : s'.registry = s.registry.updateStatuses (outs.map (·.1))
  cache : s'.cache = if evict then lib.evict s'.registry cache' else cache'

theorem selected_policies (hreg : Consistent lib s.registry) {selected : List String}
    (hmiss : (selected.filter fun id => (s.registry.policyFor id).isNone) = []) :
    (selected.filterMap s.registry.policyFor).map (·.id) = selected := by
  rw [filter_eq_nil_iff] at hmiss
  induction selected with
  | nil => rfl
  | cons id ids ih =>
    obtain ⟨hid, hids⟩ := forall_mem_cons.mp hmiss
    cases hp : s.registry.policyFor id with
    | none => simp [hp] at hid
    | some policy =>
      rw [filterMap_cons_some hp, map_cons, ih hids, hreg.policyIds id policy hp]

theorem nodup_sorted (ids : List String) : (ids.dedup.insertionSort (· ≤ ·)).Nodup :=
  (perm_insertionSort _ _).nodup_iff.mpr (nodup_dedup _)

theorem mem_sorted {ids : List String} : id ∈ ids.dedup.insertionSort (· ≤ ·) ↔ id ∈ ids :=
  (perm_insertionSort _ _).mem_iff.trans mem_dedup

theorem selected_inForce (hreg : Consistent lib s.registry) {selected : List String}
    {policy : RuleSetTrustPolicy} (hmem : policy ∈ selected.filterMap s.registry.policyFor) :
    s.registry.policyFor policy.id = some policy := by
  obtain ⟨id, -, hid⟩ := mem_filterMap.mp hmem
  rw [hreg.policyIds id policy hid, hid]

/-- What any call leaves of the policies and of the files. -/
structure Effect (lib : RuleSetLibrary) (s s' : RuleSetState) : Prop where
  policies : s'.registry.policies = s.registry.policies
  files : ∀ path, s'.cache path = none ∨ s'.cache path = s.cache path ∨
    ∃ policy file, s.registry.policyFor policy.id = some policy ∧ path = lib.cachePathFor policy ∧
      s'.cache path = some file ∧ Meets lib policy file

theorem Effect.refl (lib : RuleSetLibrary) (s : RuleSetState) : Effect lib s s :=
  ⟨rfl, fun _ => .inr (.inl rfl)⟩

theorem refresh_effect (hreg : Consistent lib s.registry) (ids : Option (List String)) (force evict : Bool)
    (answers : String → RefreshAnswers) : Effect lib s (lib.refresh s ids force evict answers).2 := by
  unfold refresh
  extract_lets selected missing
  split
  · exact Effect.refl lib s
  have htouch : Touched lib (selected.filterMap s.registry.policyFor) s.cache
      (lib.refreshAll s.registry force answers (selected.filterMap s.registry.policyFor) s.cache).2 :=
    refreshAll_touched _ _
  generalize lib.refreshAll s.registry force answers
    (selected.filterMap s.registry.policyFor) s.cache = all at htouch
  obtain ⟨r, cache1⟩ := all
  have hsrc : ∀ path, cache1 path = s.cache path ∨ ∃ policy file, s.registry.policyFor policy.id = some policy ∧
      path = lib.cachePathFor policy ∧ cache1 path = some file ∧ Meets lib policy file := by
    intro path
    rcases htouch path with hsame | ⟨policy, hmem, hpath, file, hfile, hmeets⟩
    · exact .inl hsame
    · exact .inr ⟨policy, file, selected_inForce hreg hmem, hpath, hfile, hmeets⟩
  cases r with
  | error e => exact ⟨rfl, fun path => .inr (hsrc path)⟩
  | ok outs =>
    refine ⟨rfl, fun path => ?_⟩
    dsimp only
    split
    · rcases evict_cases lib (s.registry.updateStatuses (outs.map (·.1))) cache1 path with hkeep | hgone
      · rw [hkeep]
        exact .inr (hsrc path)
      · exact .inl hgone
    · exact .inr (hsrc path)

theorem refresh_ok (hreg : Consistent lib s.registry) {ids : Option (List String)} {evict : Bool}
    {results : List RuleSetRefreshResult} (h : lib.refresh s ids force evict answers = (.ok results, s')) :
    ∃ policies outs cache', Refreshed lib s
      (((ids.getD (s.registry.policies.map (·.1))).dedup).insertionSort (· ≤ ·)) evict results s'
        policies outs cache' := by
  unfold refresh at h
  extract_lets selected missing at h
  split at h
  · cases h
  rename_i hmiss
  have hknown := selected_policies hreg (not_not.mp hmiss)
  have hnd : ((selected.filterMap s.registry.policyFor).map (·.id)).Nodup := by
    rw [hknown]
    exact nodup_sorted _
  have htouch : Touched lib (selected.filterMap s.registry.policyFor) s.cache
      (lib.refreshAll s.registry force answers (selected.filterMap s.registry.policyFor) s.cache).2 :=
    refreshAll_touched _ _
  generalize hall : lib.refreshAll s.registry force answers
    (selected.filterMap s.registry.policyFor) s.cache = all
    at h htouch
  obtain ⟨r, cache1⟩ := all
  cases r with
  | error e => cases h
  | ok outs =>
    cases h
    exact ⟨_, outs, cache1, hknown, fun policy hmem => selected_inForce hreg hmem, htouch,
      refreshAll_outcome hreg _ _ hnd hall, rfl, rfl, rfl⟩

section Refreshed

variable {selected : List String} {evict : Bool} {results : List RuleSetRefreshResult}
  {outs : List (RuleSetStatus × RuleSetRefreshResult)} {id path : String}

section

variable (h : Refreshed lib s selected evict results s' policies outs cache')
include h

theorem Refreshed.statusIds : (outs.map (·.1)).map (·.id) = selected := by
  rw [← h.known, map_map]
  have houts := h.outcomes
  clear h
  induction houts with
  | nil => rfl
  | cons ho _ ih => rw [map_cons, map_cons, ih, ← ho.statusId]; rfl

theorem Refreshed.statusFor (hsel : selected.Nodup) (hout : out ∈ outs) :
    s'.registry.statusFor out.1.id = out.1 := by
  rw [h.registry]
  exact statusFor_update_mem (by rw [h.statusIds]; exact hsel) (mem_map_of_mem hout)

theorem Refreshed.other (hid : id ∉ selected) : s'.registry.statusFor id = s.registry.statusFor id ∧
      ∀ ext, cache' (lib.path id ext) = s.cache (lib.path id ext) := by
  constructor
  · rw [h.registry]
    exact statusFor_update_other (by rw [h.statusIds]; exact hid)
  · intro ext
    refine h.touched.other (fun p hp heq => hid ?_) ext
    rw [← h.known, ← heq]
    exact mem_map_of_mem hp

theorem Refreshed.cache_status
    (hpol : (s.registry.policyFor id).isSome = true)
    (hpath : (s'.registry.statusFor id).cachePath = some path) : s'.cache path = cache' path := by
  rw [h.cache]
  split
  · refine evict_status ?_ hpath
    rw [h.registry]
    exact hpol
  · rfl

end

end Refreshed

/-! ## One plan -/

theorem declare_some {d : RuleSetDeclaration} (h : lib.declare registry id = some d) :
    d.ruleSetId = id ∧ (registry.policyFor id).isSome = true ∧ (registry.statusFor id).usable = true ∧
      (registry.statusFor id).cachePath = some d.path := by
  unfold declare at h
  split at h
  · rename_i policy path hpol hpath
    split at h
    · rename_i husable
      cases h
      exact ⟨rfl, by rw [hpol]; rfl, husable, hpath⟩
    · cases h
  · cases h

theorem planOf_declared {ids : List String} {results : List RuleSetRefreshResult} {plan : RuleSetRuntimePlan}
    (h : lib.planOf registry ids results = .ok plan) : plan.results = results ∧
      ∀ d ∈ plan.declarations, d.ruleSetId ∈ ids ∧ (registry.policyFor d.ruleSetId).isSome = true ∧
        (registry.statusFor d.ruleSetId).usable = true ∧
        (registry.statusFor d.ruleSetId).cachePath = some d.path := by
  unfold planOf at h
  extract_lets declarations failures at h
  split at h
  · cases h
  cases h
  refine ⟨rfl, fun d hd => ?_⟩
  obtain ⟨id, hid, hsome⟩ := mem_filterMap.mp hd
  obtain ⟨rfl, hrest⟩ := declare_some hsome
  exact ⟨hid, hrest⟩

/-- The call loaded the rule set itself. -/
def LoadedBy (plan : RuleSetRuntimePlan) (id : String) : Prop :=
  ∃ r ∈ plan.results, r.id = id ∧ r.refreshed = true

/-- What a plan says of one declared file. -/
structure PlanEntry (lib : RuleSetLibrary) (s s' : RuleSetState) (refreshDue : Bool) (plan : RuleSetRuntimePlan)
    (d : RuleSetDeclaration) : Prop where
  policy : s'.registry.policyFor d.ruleSetId = s.registry.policyFor d.ruleSetId
  known : (s.registry.policyFor d.ruleSetId).isSome = true
  loaded : LoadedBy plan d.ruleSetId → Pinned lib s' d
  kept : ¬LoadedBy plan d.ruleSetId → s'.cache d.path = s.cache d.path
  there : ¬LoadedBy plan d.ruleSetId → refreshDue = true → (s.cache d.path).isSome = true ∧
    Owns lib d.ruleSetId d.path

theorem runtimePlan_entry (hreg : Consistent lib s.registry) {groups : List RuleGroup} {refreshDue : Bool}
    {dueAt : String → Time} {plan : RuleSetRuntimePlan}
    (h : lib.runtimePlan s groups refreshDue dueAt answers = (.ok plan, s')) :
    ∀ d ∈ plan.declarations, PlanEntry lib s s' refreshDue plan d := by
  unfold runtimePlan at h
  extract_lets ids missing due at h
  split at h
  · cases h
    nofun
  split at h
  · cases h
  split at h
  · -- some are due: what is declared comes from the refresh or was left alone by it
    generalize hrun : lib.refresh s (some due) false true answers = all at h
    obtain ⟨r, s1⟩ := all
    cases r with
    | error e => cases h
    | ok results =>
      obtain ⟨hplan, rfl⟩ := Prod.mk.inj h
      obtain ⟨policies, outs, cache', href⟩ := refresh_ok hreg hrun
      obtain ⟨hress, hdecl⟩ := planOf_declared hplan
      intro d hd
      obtain ⟨hid, hpol, husable, hpath⟩ := hdecl d hd
      have hpols : s1.registry.policyFor d.ruleSetId = s.registry.policyFor d.ruleSetId := by
        rw [href.registry]; rfl
      rw [hpols] at hpol
      have hcache := href.cache_status hpol hpath
      have hload : LoadedBy plan d.ruleSetId → Pinned lib s1 d := by
        rintro ⟨r, hr, hrid, hrefr⟩
        rw [hress, href.results] at hr
        obtain ⟨out, hout, rfl⟩ := mem_map.mp hr
        obtain ⟨policy, hp, ho⟩ := Lists.mem_right href.outcomes hout
        have hstat := href.statusFor (nodup_sorted _) hout
        rw [ho.statusId, ← ho.resultId, hrid] at hstat
        rw [hstat] at hpath
        obtain ⟨file, hfile, hmeets⟩ := ho.loaded hrefr d.path hpath
        refine ⟨policy, file, ?_, by rw [hcache, hfile], hmeets⟩
        rw [hpols, ← hrid, ho.resultId, href.inForce policy hp]
      -- the declared set has just been refreshed, or it was not due
      by_cases hin : d.ruleSetId ∈ due
      · have hmem : d.ruleSetId ∈ policies.map (·.id) := by
          rw [href.known]
          exact mem_sorted.mpr hin
        obtain ⟨policy, hp, hpid⟩ := mem_map.mp hmem
        obtain ⟨out, hout, ho⟩ := Lists.mem_left href.outcomes hp
        have hstat := href.statusFor (nodup_sorted _) hout
        rw [ho.statusId, hpid] at hstat
        rw [hstat] at hpath husable
        have hnot : ¬LoadedBy plan d.ruleSetId → out.2.refreshed = false := by
          intro hno
          rw [← Bool.not_eq_true]
          intro hyes
          refine hno ⟨out.2, ?_, by rw [ho.resultId, hpid], hyes⟩
          rw [hress, href.results]
          exact mem_map_of_mem hout
        have howns := ho.owned d.path hpath
        refine ⟨hpols, hpol, hload, fun hno => ?_, fun hno _ =>
          ⟨ho.there (hnot hno) husable d.path hpath, hpid ▸ howns⟩⟩
        obtain ⟨ext, hext⟩ := howns
        rw [hcache, hext, ho.kept (hnot hno) ext]
      · obtain ⟨hstat, hfiles⟩ := href.other (mem_sorted.not.mpr hin)
        rw [hstat] at hpath
        obtain ⟨ext, hext⟩ := hreg.owned _ _ hpath
        obtain ⟨policy, hp⟩ := Option.isSome_iff_exists.mp hpol
        have hfresh : Rules.refreshDue s.cache policy (s.registry.statusFor d.ruleSetId)
            (dueAt d.ruleSetId) = false := by
          rw [← Bool.not_eq_true]
          exact fun hyes => hin (mem_filter.mpr ⟨hid, by rw [hp]; exact hyes⟩)
        exact ⟨hpols, hpol, hload, fun _ => by rw [hcache, hext, hfiles ext],
          fun _ _ => ⟨refreshDue_false hfresh hpath, ext, hext⟩⟩
  · -- nothing is refreshed
    rename_i hqt
    obtain ⟨hplan, rfl⟩ := Prod.mk.inj h
    obtain ⟨hress, hdecl⟩ := planOf_declared hplan
    intro d hd
    obtain ⟨hid, hpol, husable, hpath⟩ := hdecl d hd
    have hno : ¬LoadedBy plan d.ruleSetId := by
      rintro ⟨r, hr, -⟩
      rw [hress] at hr
      cases hr
    obtain ⟨policy, hp⟩ := Option.isSome_iff_exists.mp hpol
    refine ⟨rfl, hpol, fun hl => absurd hl hno, fun _ => rfl, fun _ hrd => ⟨?_, hreg.owned _ _ hpath⟩⟩
    have hfresh : Rules.refreshDue s.cache policy (s.registry.statusFor d.ruleSetId)
        (dueAt d.ruleSetId) = false := by
      rw [← Bool.not_eq_true]
      intro hyes
      refine hqt ⟨hrd, ne_nil_of_mem (mem_filter.mpr ⟨hid, ?_⟩)⟩
      rw [hp]
      exact hyes
    exact refreshDue_false hfresh hpath

/-! ## Runs -/

theorem runtimePlan_state (groups : List RuleGroup) (refreshDue : Bool) (dueAt : String → Time) :
    (lib.runtimePlan s groups refreshDue dueAt answers).2 = s ∨
      ∃ due, (lib.runtimePlan s groups refreshDue dueAt answers).2 =
        (lib.refresh s (some due) false true answers).2 := by
  unfold runtimePlan
  extract_lets ids missing due
  split
  · exact .inl rfl
  split
  · exact .inl rfl
  split
  · refine .inr ⟨due, ?_⟩
    generalize lib.refresh s (some due) false true answers = all
    obtain ⟨r, s1⟩ := all
    cases r <;> rfl
  · exact .inl rfl

theorem runtimePlan_effect (hreg : Consistent lib s.registry) (groups : List RuleGroup) (refreshDue : Bool)
    (dueAt : String → Time) (answers : String → RefreshAnswers) :
    Effect lib s (lib.runtimePlan s groups refreshDue dueAt answers).2 := by
  rcases runtimePlan_state groups refreshDue dueAt with hsame | ⟨due, hsame⟩
  · rw [hsame]
    exact Effect.refl lib s
  · rw [hsame]
    exact refresh_effect hreg (some due) false true answers

theorem refresh_consistent (hreg : Consistent lib s.registry) (ids : Option (List String)) (force evict : Bool)
    (answers : String → RefreshAnswers) :
    Consistent lib (lib.refresh s ids force evict answers).2.registry := by
  cases hrun : lib.refresh s ids force evict answers with
  | mk r s1 =>
    cases r with
    | error e =>
      have hsame : s1.registry = s.registry := by
        unfold refresh at hrun
        extract_lets selected missing at hrun
        split at hrun
        · cases hrun; rfl
        split at hrun <;> cases hrun
        rfl
      rw [hsame]
      exact hreg
    | ok results =>
      obtain ⟨policies, outs, cache', href⟩ := refresh_ok hreg hrun
      -- a status is the one that came out of the refresh, or the old one
      have hcases : ∀ id, s1.registry.statusFor id = s.registry.statusFor id ∨
          ∃ policy out, policy.id = id ∧ Outcome lib s.cache cache' policy out ∧
          s1.registry.statusFor id = out.1 := by
        intro id
        by_cases hid : id ∈ policies.map (·.id)
        · obtain ⟨policy, hp, hpid⟩ := mem_map.mp hid
          obtain ⟨out, hout, ho⟩ := Lists.mem_left href.outcomes hp
          have hstat := href.statusFor (nodup_sorted _) hout
          rw [ho.statusId, hpid] at hstat
          exact .inr ⟨policy, out, hpid, ho, hstat⟩
        · rw [href.known] at hid
          exact .inl (href.other hid).1
      refine ⟨fun id policy hp => ?_, fun id => ?_, fun id path hpath => ?_⟩
      · have hp' : s1.registry.policyFor id = some policy := hp
        rw [href.registry] at hp'
        exact hreg.policyIds id policy hp'
      · rcases hcases id with hold | ⟨policy, out, hpid, ho, hstat⟩
        · exact hold ▸ hreg.statusIds id
        · exact hstat ▸ (ho.statusId.trans hpid)
      · rcases hcases id with hold | ⟨policy, out, hpid, ho, hstat⟩
        · exact hreg.owned id path (hold ▸ hpath)
        · exact hpid ▸ ho.owned path (hstat ▸ hpath)

theorem step_consistent (hreg : Consistent lib s.registry) (op : RuleSetOp) :
    Consistent lib (lib.step s op).registry := by
  cases op with
  | add policy =>
    refine ⟨fun id p hp => ?_, hreg.statusIds, hreg.owned⟩
    change (s.registry.policies.set policy.id policy).get id = some p at hp
    rw [PyDict.get_set] at hp
    split at hp
    · rename_i hid
      cases hp
      exact hid.symm
    · exact hreg.policyIds id p hp
  | remove id0 =>
    refine ⟨fun id p hp => ?_, hreg.statusIds, hreg.owned⟩
    change PyDict.get id (s.registry.policies.filter fun entry => entry.1 ≠ id0) = some p at hp
    rw [PyDict.get_filter_ne] at hp
    split at hp
    · cases hp
    · exact hreg.policyIds id p hp
  | refresh ids force evict answers => exact refresh_consistent hreg ids force evict answers
  | runtimePlan groups refreshDue dueAt answers =>
    change Consistent lib (lib.runtimePlan s groups refreshDue dueAt answers).2.registry
    rcases runtimePlan_state groups refreshDue dueAt with hsame | ⟨due, hsame⟩
    · rw [hsame]
      exact hreg
    · rw [hsame]
      exact refresh_consistent hreg (some due) false true answers

theorem run_consistent (lib : RuleSetLibrary) (ops : List RuleSetOp) :
    Consistent lib (lib.run ops).registry := by
  have hall : ∀ (ops : List RuleSetOp) s, Consistent lib s.registry →
      Consistent lib (ops.foldl lib.step s).registry := by
    intro ops
    induction ops with
    | nil => exact fun _ h => h
    | cons op ops ih => exact fun s h => ih _ (step_consistent h op)
  refine hall ops {} ⟨fun id p hp => ?_, fun id => rfl, fun id path hpath => ?_⟩
  · cases hp
  · cases hpath

/-- Every file of a rule set with a policy meets it. -/
def Settled (lib : RuleSetLibrary) (s : RuleSetState) : Prop :=
  ∀ id policy, s.registry.policyFor id = some policy → ∀ ext file, s.cache (lib.path id ext) = some file →
    Meets lib policy file

/-- A policy is added only over files that meet it. -/
def Steady (lib : RuleSetLibrary) (s : RuleSetState) : RuleSetOp → Prop
  | .add policy => ∀ ext file, s.cache (lib.path policy.id ext) = some file → Meets lib policy file
  | _ => True

/-- Every call of the run is steady, in the state it is made in. -/
def SteadyRun (lib : RuleSetLibrary) : RuleSetState → List RuleSetOp → Prop
  | _, [] => True
  | s, op :: ops => Steady lib s op ∧ SteadyRun lib (lib.step s op) ops

theorem Effect.settled (heffect : Effect lib s s') (hset : Settled lib s) : Settled lib s' := by
  intro id policy hp ext file hfile
  have hp : s.registry.policyFor id = some policy := by
    unfold RuleSetTrustRegistry.policyFor at hp ⊢
    rwa [heffect.policies] at hp
  rcases heffect.files (lib.path id ext) with hnone | hsame | ⟨policy', file', hp', hpath, hfile', hmeets⟩
  · rw [hnone] at hfile
    cases hfile
  · rw [hsame] at hfile
    exact hset id policy hp ext file hfile
  · have hid := lib.path_owner _ _ _ _ hpath
    rw [← hid, hp] at hp'
    rw [hfile'] at hfile
    cases hp'
    cases hfile
    exact hmeets

theorem step_settled (hreg : Consistent lib s.registry) (hset : Settled lib s) {op : RuleSetOp}
    (hstd : Steady lib s op) : Settled lib (lib.step s op) := by
  cases op with
  | add policy0 =>
    intro id policy hp ext file hfile
    change (s.registry.policies.set policy0.id policy0).get id = some policy at hp
    rw [PyDict.get_set] at hp
    split at hp
    · rename_i hid
      cases hp
      subst hid
      exact hstd ext file hfile
    · exact hset id policy hp ext file hfile
  | remove id0 =>
    intro id policy hp ext file hfile
    change PyDict.get id (s.registry.policies.filter fun entry => entry.1 ≠ id0) = some policy at hp
    rw [PyDict.get_filter_ne] at hp
    split at hp
    · cases hp
    · exact hset id policy hp ext file hfile
  | refresh ids force evict answers => exact (refresh_effect hreg ids force evict answers).settled hset
  | runtimePlan groups refreshDue dueAt answers =>
    exact (runtimePlan_effect hreg groups refreshDue dueAt answers).settled hset

theorem run_settled (lib : RuleSetLibrary) {ops : List RuleSetOp} (hstd : SteadyRun lib {} ops) :
    Settled lib (lib.run ops) := by
  have hall : ∀ (ops : List RuleSetOp) s, Consistent lib s.registry → Settled lib s →
      SteadyRun lib s ops → Settled lib (ops.foldl lib.step s) := by
    intro ops
    induction ops with
    | nil => exact fun _ _ h _ => h
    | cons op ops ih => exact fun s hreg h hs => ih _ (step_consistent hreg op) (step_settled hreg h hs.1) hs.2
  refine hall ops {} (run_consistent lib []) (fun id policy hp => ?_) hstd
  cases hp

/-- **A declared file meets the policy in force**, in every plan with `refresh_due` of a run that
adds no policy over a file that does not meet it. In any run it does so exactly if the call that
made the plan loaded it, or it met that policy before the call. -/
theorem declared_files_meet_policy (lib : RuleSetLibrary) (ops : List RuleSetOp) (groups : List RuleGroup)
    (refreshDue : Bool) (dueAt : String → Time) (answers : String → RefreshAnswers) (plan : RuleSetRuntimePlan)
    (s' : RuleSetState) (h : lib.runtimePlan (lib.run ops) groups refreshDue dueAt answers = (.ok plan, s')) :
    (SteadyRun lib {} ops → refreshDue = true → ∀ d ∈ plan.declarations, Pinned lib s' d) ∧
    ((∀ d ∈ plan.declarations, Pinned lib s' d) ↔
      ∀ d ∈ plan.declarations, LoadedBy plan d.ruleSetId ∨ Pinned lib (lib.run ops) d) := by
  have hent := runtimePlan_entry (run_consistent lib ops) h
  have hiff : (∀ d ∈ plan.declarations, Pinned lib s' d) ↔
      ∀ d ∈ plan.declarations, LoadedBy plan d.ruleSetId ∨ Pinned lib (lib.run ops) d := by
    refine forall₂_congr fun d hd => ?_
    have he := hent d hd
    by_cases hl : LoadedBy plan d.ruleSetId
    · exact ⟨fun _ => .inl hl, fun _ => he.loaded hl⟩
    have hsame : Pinned lib s' d ↔ Pinned lib (lib.run ops) d := by
      unfold Pinned
      rw [he.policy, he.kept hl]
    rw [hsame]
    exact ⟨.inr, fun hor => hor.resolve_left hl⟩
  refine ⟨fun hstd hrd => hiff.mpr fun d hd => ?_, hiff⟩
  by_cases hl : LoadedBy plan d.ruleSetId
  · exact .inl hl
  obtain ⟨hthere, ext, hext⟩ := (hent d hd).there hl hrd
  obtain ⟨file, hfile⟩ := Option.isSome_iff_exists.mp hthere
  obtain ⟨policy, hp⟩ := Option.isSome_iff_exists.mp (hent d hd).known
  exact .inr ⟨policy, file, hp, hfile, run_settled lib hstd _ policy hp ext file (hext ▸ hfile)⟩

/-! ## Two runs -/

/-- A library for examples: a digest is the text of the bytes, and a file has the name of its rule
set. -/
def RuleSetLibrary.plain : RuleSetLibrary where
  sha256 bytes := String.ofList (bytes.map fun b => Char.ofNat b.toNat)
  extension _ := .srs
  path id _ := id
  tag id := id
  malformed _ := none
  path_owner _ _ _ _ h := h

def advertsPolicy (source pin : String) : RuleSetTrustPolicy where
  id := "adverts"
  kind := .remote
  source := source
  critical := true
  expectedSha256 := some pin
  updateIntervalSeconds := 86400
  maxStaleSeconds := 604800
  failureBehavior := .failClosed
  idNonempty := by decide
  intervalPositive := by decide
  staleAtLeastInterval := by decide
  remotePinned _ := rfl

/-- A group with one rule, about the rule set. -/
def rulesetGroup : RuleGroup where
  name := ⟨"custom", by decide⟩
  rules := [{ id := "custom-1", action := .simple .block, conditions := [(.rulesetRemote, ["adverts".toList])],
              idNonempty := by decide, valid := by decide }]
  ids := by decide

/-- The policy is added and the rule set loaded. -/
def loadedRun : List RuleSetOp :=
  [.add (advertsPolicy "a" "x"), .refresh none false true fun _ => { payload := .ok [120] }]

/-- The plan then declares the file that was loaded, and it meets the policy. -/
theorem declared_files_meet_policy_loaded : ∃ plan s',
    RuleSetLibrary.plain.runtimePlan (RuleSetLibrary.plain.run loadedRun) [rulesetGroup] true (fun _ => 0)
      (fun _ => { payload := .error "offline" }) = (.ok plan, s') ∧
    plan.declarations.map (·.path) = ["adverts"] ∧ ∀ d ∈ plan.declarations, Pinned .plain s' d := by
  refine ⟨_, _, rfl, rfl, ?_⟩
  refine (declared_files_meet_policy .plain loadedRun [rulesetGroup] true (fun _ => 0)
    (fun _ => { payload := .error "offline" }) _ _ rfl).1 ⟨?_, trivial, trivial⟩ rfl
  nofun

/-- **Counterexample**: the policy is added again, with another source and another digest. The plan
still declares the file that was loaded under the old one. -/
theorem repinned_file_declared : ∃ plan s' d file,
    RuleSetLibrary.plain.runtimePlan (RuleSetLibrary.plain.run (loadedRun ++ [.add (advertsPolicy "b" "y")]))
      [rulesetGroup] true (fun _ => 0) (fun _ => { payload := .error "offline" }) = (.ok plan, s') ∧
    plan.declarations = [d] ∧ s'.cache d.path = some file ∧
    s'.registry.policyFor d.ruleSetId = some (advertsPolicy "b" "y") ∧
    file.source = "a" ∧ RuleSetLibrary.plain.sha256 file.bytes = "x" := by
  exact ⟨_, _, _, _, rfl, rfl, rfl, rfl, rfl, rfl⟩

end WatchdogVpn.Rules
