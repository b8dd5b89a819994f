import WatchdogVpn.Rules.Engine
import WatchdogVpn.Rules.Trust

/-!
# The rule explainer

`RuleExplainer.explain` is an evaluator of its own, with three values of a condition: it matches, it
does not, or the traffic does not say. It walks the tiers as the engine does, but keeps going
through the conditions of a rule after a mismatch, and records every step.

* `explainRuleConditions_spec`: what one rule comes to.
* **`explanation_truthful`**: the reported match is the engine's, and a definitive one is the
  engine's for every completion of the traffic.
-/

namespace WatchdogVpn.Rules

open List
open PyText (Text)

/-! ## What is reported -/

inductive RuleExplanationConfidence
  | definitive
  | partly
  | runtimeRequired
  | unknown
  deriving DecidableEq

inductive RuleExplanationPathResult
  | matched
  | noMatch
  | skipped
  | runtimeRequired
  deriving DecidableEq

inductive RuleExplanationSkipReason
  | disabledGroup
  | disabledRule
  | missingInput
  | unevaluatedRuleSet
  deriving DecidableEq

structure RuleExplanationMatch where
  action : Action
  groupName : Option String := none
  ruleId : Option String := none
  source : String := "rule"

structure RuleExplanationSkippedCondition where
  condition : Condition
  values : List Text
  reason : RuleExplanationSkipReason
  groupName : String
  ruleId : String
  tier : Tier

structure RuleExplanationUnevaluatedRuleSet where
  kind : String
  values : List Text
  groupName : String
  ruleId : String
  tier : Tier
  state : String := "not-evaluated"
  failureBehavior : Option String := none
  critical : Option Bool := none
  error : Option String := none

structure RuleExplanationPathEntry where
  tier : Tier
  groupName : String
  ruleId : Option String
  result : RuleExplanationPathResult
  action : Option Action := none
  reason : Option RuleExplanationSkipReason := none

structure RuleExplanation where
  inputTraffic : TrafficInfo
  confidence : RuleExplanationConfidence
  matched : RuleExplanationMatch
  priorityPath : List RuleExplanationPathEntry
  skippedConditions : List RuleExplanationSkippedCondition
  unevaluatedRuleSets : List RuleExplanationUnevaluatedRuleSet

/-! ## One rule -/

def TrafficInfo.hasInput (t : TrafficInfo) : Bool :=
  t.domain.isSome || t.ip.isSome || t.port.isSome || t.protocol.isSome || t.network.isSome ||
    t.processName.isSome || t.processPath.isSome

variable (lib : Library)

def missingInput (t : TrafficInfo) (c : Condition) : Bool :=
  !c.unevaluable && (c.matcher lib t).isNone

def rulesetKind : Condition → String
  | .rulesetRemote => "remote"
  | .rulesetBuiltin => "built-in"
  | c => c.key

def confidence (t : TrafficInfo) (runtimeRequired partly : Bool) : RuleExplanationConfidence :=
  if runtimeRequired then .runtimeRequired
  else if t.hasInput = false then .unknown
  else if partly then .partly
  else .definitive

structure RulePlace where
  tier : Tier
  groupName : String
  ruleId : String

variable (registry : Option RuleSetTrustRegistry)

def rulesetExplanation (place : RulePlace) (c : Condition) (id : Text) : RuleExplanationUnevaluatedRuleSet :=
  match registry with
  | none =>
    { kind := rulesetKind c, values := [id], groupName := place.groupName, ruleId := place.ruleId,
      tier := place.tier }
  | some registry =>
    let policy := registry.policyFor (String.ofList id)
    let status := registry.statusFor (String.ofList id)
    { kind := (policy.map (·.kind.value)).getD (rulesetKind c), values := [id], groupName := place.groupName,
      ruleId := place.ruleId, tier := place.tier, state := status.state.value,
      failureBehavior := policy.map (·.failureBehavior.value), critical := policy.map (·.critical),
      error := status.error }

/-- What the loop of `_explain_rule_conditions` has found so far, and what it returns. -/
structure RuleFindings where
  runtimeRequired : Bool := false
  missingInput : Bool := false
  localMismatch : Bool := false
  skipped : List RuleExplanationSkippedCondition := []
  unevaluated : List RuleExplanationUnevaluatedRuleSet := []

/-- One iteration of `_explain_rule_conditions`. -/
def explainCondition (t : TrafficInfo) (place : RulePlace)
    (found : RuleFindings) (c : Condition × List Text) : RuleFindings :=
  let skip reason : RuleExplanationSkippedCondition :=
    { condition := c.1, values := c.2, reason, groupName := place.groupName, ruleId := place.ruleId,
      tier := place.tier }
  if c.1.unevaluable then
    { found with
      runtimeRequired := true
      skipped := found.skipped ++ [skip .unevaluatedRuleSet]
      unevaluated := found.unevaluated ++ c.2.map (rulesetExplanation registry place c.1) }
  else if missingInput lib t c.1 then
    { found with missingInput := true, skipped := found.skipped ++ [skip .missingInput] }
  else if conditionMatches lib t c.1 c.2 = false then { found with localMismatch := true }
  else found

/-- The five values that `_explain_rule_conditions` returns. -/
structure RuleExplained where
  matched : Bool
  runtimeRequired : Bool
  missingInput : Bool
  skipped : List RuleExplanationSkippedCondition
  unevaluated : List RuleExplanationUnevaluatedRuleSet

def explainRuleConditions (t : TrafficInfo) (place : RulePlace) (rule : Rule) : RuleExplained :=
  let found := rule.conditions.foldl (explainCondition lib registry t place) {}
  if found.localMismatch then ⟨false, false, false, [], []⟩
  else ⟨!found.runtimeRequired && !found.missingInput, found.runtimeRequired, found.missingInput, found.skipped,
    found.unevaluated⟩

/-! ## The walk -/

/-- The local variables of `explain`. -/
structure Walk where
  path : List RuleExplanationPathEntry := []
  skipped : List RuleExplanationSkippedCondition := []
  unevaluated : List RuleExplanationUnevaluatedRuleSet := []
  runtimeRequired : Bool := false
  partly : Bool := false

/-- The explanation of a match, from what the walk has come to. -/
def Walk.report (walk : Walk) (t : TrafficInfo) (matched : RuleExplanationMatch) : RuleExplanation :=
  { inputTraffic := t, confidence := confidence t walk.runtimeRequired walk.partly, matched,
    priorityPath := walk.path, skippedConditions := walk.skipped, unevaluatedRuleSets := walk.unevaluated }

/-- One rule of the walk. An error is the `return` of the explanation. -/
def explainRule (t : TrafficInfo) (tier : Tier)
    (group : RuleGroup) (walk : Walk) (rule : Rule) : Except RuleExplanation Walk :=
  let entry result action
      reason : RuleExplanationPathEntry :=
    { tier, groupName := group.name.1, ruleId := some rule.id, result, action,
      reason := reason }
  if rule.enabled = false then .ok { walk with path := walk.path ++ [entry .skipped none (some .disabledRule)] }
  else
    let explained := explainRuleConditions lib registry t ⟨tier, group.name.1, rule.id⟩ rule
    let walk := { walk with
      skipped := walk.skipped ++ explained.skipped
      unevaluated := walk.unevaluated ++ explained.unevaluated
      runtimeRequired := walk.runtimeRequired || explained.runtimeRequired
      partly := walk.partly || explained.missingInput }
    if explained.runtimeRequired then
      .ok { walk with path := walk.path ++
        [entry .runtimeRequired (some rule.action) (some .unevaluatedRuleSet)] }
    else if explained.missingInput then
      .ok { walk with path := walk.path ++ [entry .skipped (some rule.action) (some .missingInput)] }
    else if explained.matched then
      .error ({ walk with path := walk.path ++ [entry .matched (some rule.action) none] }.report t
        { action := rule.action, groupName := some group.name.1, ruleId := some rule.id })
    else .ok { walk with path := walk.path ++ [entry .noMatch (some rule.action) none] }

def explainGroup (t : TrafficInfo) (tier : Tier) (walk : Walk) (group : RuleGroup) :
    Except RuleExplanation Walk :=
  if group.enabled = false then
    .ok { walk with path := walk.path ++ [
      { tier, groupName := group.name.1, ruleId := none, result := .skipped,
        reason := some .disabledGroup }] }
  else group.rules.foldlM (explainRule lib registry t tier group) walk

def explainTier (t : TrafficInfo) (groups : List RuleGroup)
    (walk : Walk) (tier : Tier) : Except RuleExplanation Walk :=
  (groupByTier groups tier).foldlM (explainGroup lib registry t tier) walk

def explain (finalPolicy : SimpleAction) (registry : Option RuleSetTrustRegistry) (t : TrafficInfo)
    (groups : List RuleGroup) : RuleExplanation :=
  match priorityTierOrder.foldlM (explainTier lib registry t groups) {} with
  | .error explanation => explanation
  | .ok walk => walk.report t { action := .simple finalPolicy, source := "final" }

/-! ## Completions -/

/-- A field that is known stays as it is. -/
def Fills {α : Type} (known filled : Option α) : Prop := known = none ∨ filled = known

/-- The traffic `t'` has values for fields that `t` does not know. -/
structure Completes (t t' : TrafficInfo) : Prop where
  domain : Fills t.domain t'.domain
  ip : Fills t.ip t'.ip
  port : Fills t.port t'.port
  protocol : Fills t.protocol t'.protocol
  network : Fills t.network t'.network
  processName : Fills t.processName t'.processName
  processPath : Fills t.processPath t'.processPath

theorem Fills.map {α β : Type} {known filled : Option α} {f : α → β} {b : β} (hf : Fills known filled)
    (hb : known.map f = some b) : filled.map f = some b := by
  rcases hf with rfl | rfl
  · cases hb
  · exact hb

section Truth

variable {lib : Library} {finalPolicy : SimpleAction} {registry : Option RuleSetTrustRegistry}
  {t t' : TrafficInfo}
  {groups : List RuleGroup} {c : Condition} {rule : Rule} {place : RulePlace}

theorem Completes.matcher (hc : Completes t t') {m : Text → Bool} (hm : c.matcher lib t = some m) :
    c.matcher lib t' = some m := by
  cases c with
  | domain | domainSuffix | domainKeyword | domainRegex => exact hc.domain.map hm
  | ipCidr => exact hc.ip.map hm
  | port | portRange => exact hc.port.map hm
  | protocol => exact hc.protocol.map hm
  | network => exact hc.network.map hm
  | processName => exact hc.processName.map hm
  | processPath => exact hc.processPath.map hm
  | rulesetRemote | rulesetBuiltin => cases hm

/-- The traffic says what it takes to test the condition. -/
def Condition.Known (lib : Library) (t : TrafficInfo) (c : Condition) : Prop :=
  c.unevaluable = false ∧ missingInput lib t c = false

theorem Condition.Known.matcher (hk : c.Known lib t) : ∃ m, c.matcher lib t = some m := by
  obtain ⟨heval, hmiss⟩ := hk
  unfold missingInput at hmiss
  rw [heval] at hmiss
  exact Option.isSome_iff_exists.mp (by simpa using hmiss)

theorem Completes.conditionMatches (hc : Completes t t') (hk : c.Known lib t) (values : List Text) :
    conditionMatches lib t' c values = conditionMatches lib t c values := by
  obtain ⟨m, hm⟩ := hk.matcher
  unfold Rules.conditionMatches
  rw [hm, hc.matcher hm]

theorem known_of_matches {values : List Text} (hm : conditionMatches lib t c values = true) :
    c.Known lib t := by
  unfold conditionMatches at hm
  split at hm
  · cases hm
  rename_i heval
  split at hm
  · cases hm
  rename_i m hsome
  exact ⟨by simpa using heval, by simp [missingInput, hsome]⟩

/-- Some condition of the rule is known not to match. -/
def Refuted (lib : Library) (t : TrafficInfo) (rule : Rule) : Prop :=
  ∃ c ∈ rule.conditions, c.1.Known lib t ∧ conditionMatches lib t c.1 c.2 = false

theorem ruleMatches_iff : ruleMatches lib rule t = true ↔
    ∀ c ∈ rule.conditions, conditionMatches lib t c.1 c.2 = true := by
  simp [ruleMatches, rule.valid.nonempty]

theorem Refuted.completed (hr : Refuted lib t rule) (hc : Completes t t') :
    ruleMatches lib rule t' = false := by
  obtain ⟨c, hmem, hk, hno⟩ := hr
  rw [← Bool.not_eq_true, ruleMatches_iff]
  intro hall
  have := hall c hmem
  rw [hc.conditionMatches hk, hno] at this
  cases this

theorem ruleMatches_completed (hc : Completes t t') (hm : ruleMatches lib rule t = true) :
    ruleMatches lib rule t' = true := by
  rw [ruleMatches_iff] at hm ⊢
  intro c hmem
  rw [hc.conditionMatches (known_of_matches (hm c hmem))]
  exact hm c hmem

/-! ## What one rule comes to -/

theorem explainConditions_found (lib : Library) (registry : Option RuleSetTrustRegistry) (t : TrafficInfo)
    (place : RulePlace) (conditions : Conditions) : ∀ found : RuleFindings,
    let end' := conditions.foldl (explainCondition lib registry t place) found
    (end'.runtimeRequired = true ↔ found.runtimeRequired = true ∨ ∃ c ∈ conditions, c.1.unevaluable = true) ∧
    (end'.missingInput = true ↔ found.missingInput = true ∨ ∃ c ∈ conditions, missingInput lib t c.1 = true) ∧
    (end'.localMismatch = true ↔ found.localMismatch = true ∨
      ∃ c ∈ conditions, c.1.Known lib t ∧ conditionMatches lib t c.1 c.2 = false) := by
  induction conditions with
  | nil => intro found; simp
  | cons c conditions ih =>
    intro found
    obtain ⟨hr, hm, hl⟩ := ih (explainCondition lib registry t place found c)
    simp only [foldl_cons, exists_mem_cons_iff]
    rw [hr, hm, hl]
    have hstep : ((explainCondition lib registry t place found c).runtimeRequired = true ↔
          found.runtimeRequired = true ∨ c.1.unevaluable = true) ∧
        ((explainCondition lib registry t place found c).missingInput = true ↔
          found.missingInput = true ∨ missingInput lib t c.1 = true) ∧
        ((explainCondition lib registry t place found c).localMismatch = true ↔ found.localMismatch = true ∨
          c.1.Known lib t ∧ conditionMatches lib t c.1 c.2 = false) := by
      unfold explainCondition Condition.Known
      cases heval : c.1.unevaluable with
      | true => simp [missingInput, heval]
      | false =>
        cases hmiss : missingInput lib t c.1 with
        | true => simp
        | false => cases hmatch : conditionMatches lib t c.1 c.2 <;> simp
    rw [hstep.1, hstep.2.1, hstep.2.2, or_assoc, or_assoc, or_assoc]
    exact ⟨Iff.rfl, Iff.rfl, Iff.rfl⟩

/-- **What the explainer makes of a rule**: a match is the engine's, and a rule that it passes over
without asking for more is refuted. -/
theorem explainRuleConditions_spec (lib : Library) (registry : Option RuleSetTrustRegistry) (t : TrafficInfo)
    (place : RulePlace) (rule : Rule) :
    let explained := explainRuleConditions lib registry t place rule
    (explained.runtimeRequired = false → explained.missingInput = false →
      explained.matched = ruleMatches lib rule t ∧ (explained.matched = false → Refuted lib t rule)) ∧
    (explained.runtimeRequired = true ∨ explained.missingInput = true → ruleMatches lib rule t = false) := by
  obtain ⟨hr, hm, hl⟩ := explainConditions_found lib registry t place rule.conditions {}
  unfold explainRuleConditions
  simp only [Bool.false_eq_true, false_or] at hr hm hl ⊢
  split
  · rename_i hloc
    have href : Refuted lib t rule := hl.mp hloc
    have hself : Completes t t := ⟨.inr rfl, .inr rfl, .inr rfl, .inr rfl, .inr rfl, .inr rfl, .inr rfl⟩
    simp [href.completed hself, href]
  · rename_i hloc
    rw [hl] at hloc
    constructor
    · intro hnr hnm
      have hall : ruleMatches lib rule t = true := by
        rw [ruleMatches_iff]
        intro c hc
        have hk : c.1.Known lib t := by
          refine ⟨Bool.eq_false_iff.mpr fun h => ?_, Bool.eq_false_iff.mpr fun h => ?_⟩
          · simp [hr.mpr ⟨c, hc, h⟩] at hnr
          · simp [hm.mpr ⟨c, hc, h⟩] at hnm
        rw [← Bool.not_eq_false]
        exact fun h => hloc ⟨c, hc, hk, h⟩
      simp only at hnr hnm
      simp [hall, hnr, hnm]
    · intro hmore
      rw [← Bool.not_eq_true, ruleMatches_iff]
      intro hall
      rcases hmore with h | h
      · obtain ⟨c, hc, hu⟩ := hr.mp h
        exact Bool.eq_false_iff.mp (known_of_matches (hall c hc)).1 hu
      · obtain ⟨c, hc, hu⟩ := hm.mp h
        exact Bool.eq_false_iff.mp (known_of_matches (hall c hc)).2 hu

/-! ## What a walk comes to -/

/-- Nothing was left open so far. -/
def Walk.Settled (walk : Walk) : Prop := walk.runtimeRequired = false ∧ walk.partly = false

/-- What a part of the walk over the given rules says about them. -/
def Walked (lib : Library) (t : TrafficInfo) (entries : List (RuleGroup × Rule)) (walk : Walk) :
    Except RuleExplanation Walk → Prop
  | .ok walk' => (∀ e ∈ entries, ruleMatches lib e.2 t = false) ∧
      (walk'.Settled → walk.Settled ∧ ∀ e ∈ entries, Refuted lib t e.2)
  | .error x => ∃ passed e rest, entries = passed ++ e :: rest ∧ (∀ p ∈ passed, ruleMatches lib p.2 t = false) ∧
      ruleMatches lib e.2 t = true ∧
      x.matched = { action := e.2.action, groupName := some e.1.name.1, ruleId := some e.2.id } ∧
      (x.confidence = .definitive → walk.Settled ∧ ∀ p ∈ passed, Refuted lib t p.2)

theorem Walked.bind {entries entries' : List (RuleGroup × Rule)} {walk : Walk} {r : Except RuleExplanation Walk}
    {f : Walk → Except RuleExplanation Walk} (hr : Walked lib t entries walk r)
    (hf : ∀ walk', Walked lib t entries' walk' (f walk')) :
    Walked lib t (entries ++ entries') walk (r >>= f) := by
  cases r with
  | error x =>
    obtain ⟨passed, e, rest, rfl, hrest⟩ := hr
    exact ⟨passed, e, rest ++ entries', by simp, hrest⟩
  | ok walk' =>
    obtain ⟨hno, hset⟩ := hr
    have hf := hf walk'
    change Walked lib t (entries ++ entries') walk (f walk')
    cases hfw : f walk' with
    | ok walk'' =>
      rw [hfw] at hf
      obtain ⟨hno', hset'⟩ := hf
      refine ⟨forall_mem_append.mpr ⟨hno, hno'⟩, fun hs => ?_⟩
      obtain ⟨hs', href'⟩ := hset' hs
      obtain ⟨hs'', href⟩ := hset hs'
      exact ⟨hs'', forall_mem_append.mpr ⟨href, href'⟩⟩
    | error x =>
      rw [hfw] at hf
      obtain ⟨passed, e, rest, rfl, hpass, hmatch, hx, hconf⟩ := hf
      refine ⟨entries ++ passed, e, rest, by simp, forall_mem_append.mpr ⟨hno, hpass⟩, hmatch, hx, fun hd => ?_⟩
      obtain ⟨hs, href⟩ := hconf hd
      obtain ⟨hs', href'⟩ := hset hs
      exact ⟨hs', forall_mem_append.mpr ⟨href', href⟩⟩

theorem walked_foldlM {β : Type} {f : Walk → β → Except RuleExplanation Walk}
    {part : β → List (RuleGroup × Rule)}
    (hf : ∀ walk b, Walked lib t (part b) walk (f walk b)) (l : List β) :
    ∀ walk, Walked lib t (l.flatMap part) walk (l.foldlM f walk) := by
  induction l with
  | nil => exact fun walk => ⟨by simp, fun hs => ⟨hs, by simp⟩⟩
  | cons b l ih =>
    intro walk
    exact (hf walk b).bind ih

theorem confidence_definitive {runtimeRequired partly : Bool}
    (hd : confidence t runtimeRequired partly = .definitive) :
    runtimeRequired = false ∧ partly = false := by
  unfold confidence at hd
  cases runtimeRequired with
  | true => cases hd
  | false =>
    cases hin : t.hasInput <;> cases partly <;> simp [hin] at hd ⊢

theorem explainRule_walked {tier : Tier} {group : RuleGroup} (walk : Walk) :
    Walked lib t (if rule.enabled then [(group, rule)] else []) walk
      (explainRule lib registry t tier group walk rule) := by
  unfold explainRule
  cases hen : rule.enabled with
  | false => exact ⟨by simp, fun hs => ⟨hs, by simp⟩⟩
  | true =>
    obtain ⟨hqt, hopen⟩ := explainRuleConditions_spec lib registry t ⟨tier, group.name.1, rule.id⟩ rule
    simp only [Bool.true_eq_false, if_true]
    cases hr : (explainRuleConditions lib registry t ⟨tier, group.name.1, rule.id⟩ rule).runtimeRequired with
    | true =>
      refine ⟨by simpa using hopen (.inl hr), fun hs => ?_⟩
      simp [Walk.Settled] at hs
    | false =>
      cases hm : (explainRuleConditions lib registry t ⟨tier, group.name.1, rule.id⟩ rule).missingInput with
      | true =>
        refine ⟨by simpa using hopen (.inr hm), fun hs => ?_⟩
        simp [Walk.Settled] at hs
      | false =>
        obtain ⟨hmatc, href⟩ := hqt hr hm
        cases hmat : (explainRuleConditions lib registry t ⟨tier, group.name.1, rule.id⟩ rule).matched with
        | false =>
          refine ⟨by simpa [hmat] using hmatc.symm, fun hs => ⟨by simpa [Walk.Settled] using hs, ?_⟩⟩
          simpa using href hmat
        | true =>
          refine ⟨[], (group, rule), [], rfl, by simp, by rw [← hmatc, hmat], rfl, fun hd => ⟨?_, by simp⟩⟩
          -- a definitive report has nothing open behind it
          simpa [Walk.Settled, hm] using confidence_definitive hd

theorem consulted_eq_flatMap {group : RuleGroup} (hg : group.enabled = true) :
    group.consulted = group.rules.flatMap fun rule => if rule.enabled then [(group, rule)] else [] := by
  unfold RuleGroup.consulted
  rw [if_pos hg]
  induction group.rules with
  | nil => rfl
  | cons rule rules ih =>
    cases hr : rule.enabled with
    | false => rw [filter_cons_of_neg (by simp [hr]), flatMap_cons, ih]; simp [hr]
    | true => rw [filter_cons_of_pos hr, flatMap_cons, map_cons, ih]; simp [hr]

theorem explainGroup_walked {tier : Tier} (walk : Walk) (group : RuleGroup) :
    Walked lib t group.consulted walk (explainGroup lib registry t tier walk group) := by
  unfold explainGroup
  cases hg : group.enabled with
  | false =>
    have hnone : group.consulted = [] := by simp [RuleGroup.consulted, hg]
    rw [hnone]
    exact ⟨by simp, fun hs => ⟨hs, by simp⟩⟩
  | true =>
    rw [consulted_eq_flatMap hg]
    exact walked_foldlM (fun walk rule => explainRule_walked walk) group.rules walk

theorem explainTiers_walked (lib : Library) (registry : Option RuleSetTrustRegistry) (t : TrafficInfo)
    (groups : List RuleGroup) : Walked lib t (consulted groups) {}
      (priorityTierOrder.foldlM (explainTier lib registry t groups) {}) :=
  walked_foldlM (fun walk _ => walked_foldlM explainGroup_walked _ walk) priorityTierOrder {}

end Truth

/-- **The explainer tells the truth**: it reports the match of the engine, and where it is
definitive every completion of the traffic gets the same decision. -/
theorem explanation_truthful (lib : Library) (finalPolicy : SimpleAction)
    (registry : Option RuleSetTrustRegistry) (t : TrafficInfo) (groups : List RuleGroup) :
    let reported := (explain lib finalPolicy registry t groups).matched
    let decision := evaluate lib finalPolicy t groups
    reported.action = decision.action ∧ reported.groupName = decision.groupName ∧
      reported.ruleId = decision.ruleId ∧
      ((explain lib finalPolicy registry t groups).confidence = .definitive →
        ∀ t', Completes t t' → evaluate lib finalPolicy t' groups = decision) := by
  have hwalk := explainTiers_walked lib registry t groups
  unfold explain
  cases hres : priorityTierOrder.foldlM (explainTier lib registry t groups) {} with
  | error x =>
    rw [hres] at hwalk
    obtain ⟨passed, e, rest, hsplit, hpass, hmatch, hx, hconf⟩ := hwalk
    have heval : evaluate lib finalPolicy t groups = matchOf e := evaluate_of_split hsplit hpass hmatch
    simp only [hx, heval]
    refine ⟨rfl, rfl, rfl, fun hd t' hc => ?_⟩
    exact evaluate_of_split hsplit (fun p hp => ((hconf hd).2 p hp).completed hc)
      (ruleMatches_completed hc hmatch)
  | ok walk =>
    rw [hres] at hwalk
    obtain ⟨hnone, hset⟩ := hwalk
    have heval : evaluate lib finalPolicy t groups = _ := evaluate_of_none hnone
    simp only [heval]
    refine ⟨rfl, rfl, rfl, fun hd t' hc => ?_⟩
    exact evaluate_of_none fun p hp => ((hset (confidence_definitive hd)).2 p hp).completed hc

theorem adverts_nonempty : "adverts" ≠ "" := by decide

def advertsGroup : RuleGroup where
  name := ⟨"block", by decide⟩
  rules := [{ id := "adverts", action := .simple .block, conditions := [(.domain, ["ads.example".toList])],
              idNonempty := adverts_nonempty, valid := by decide }]
  ids := by decide

/-- The report on a known domain is definitive, so the port makes no difference. -/
theorem explanation_truthful_adverts :
    (explain .ascii .direct none { domain := some "news.example".toList }
      [advertsGroup]).confidence = .definitive ∧
      evaluate .ascii .direct { domain := some "news.example".toList, port := some 443 } [advertsGroup] =
        evaluate .ascii .direct { domain := some "news.example".toList } [advertsGroup] := by
  have hdef : (explain .ascii .direct none { domain := some "news.example".toList } [advertsGroup]).confidence =
      .definitive := by decide +kernel
  refine ⟨hdef, ?_⟩
  refine (explanation_truthful .ascii .direct none { domain := some "news.example".toList }
    [advertsGroup]).2.2.2 hdef _ ?_
  exact ⟨.inr rfl, .inl rfl, .inl rfl, .inl rfl, .inl rfl, .inl rfl, .inl rfl⟩

end WatchdogVpn.Rules
