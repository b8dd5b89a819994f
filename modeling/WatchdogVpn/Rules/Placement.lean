import WatchdogVpn.Rules.Reading

/-!
# Where the policy for applications stands

The rules of the policy are put between the tiers `custom` and `app`. A whitelist, and a blacklist
with a default other than the current profile, end in a rule for everything.

* `applies_ruleToSingboxRule`, `applies_appPolicyRule`: the translation of a rule applies to the
  connections that the rule matches by its own conditions (`matchesRule`, `matchesAppRule`).
* `decision_filterMap_first`, `decision_filterMap_none`: a part of the list that was translated rule
  by rule.
* **`app_policy_placement`**: what decides about a connection when a policy is enabled.
-/

namespace WatchdogVpn.Rules

open List

/-- The enabled rules of the enabled groups of a tier, in their order. -/
def tierConsulted (groups : List RuleGroup) (tier : Tier) : List Rule :=
  ((groupByTier groups tier).flatMap RuleGroup.consulted).map (·.2)

/-! ## What a rule matches -/

section Matching

variable {γ : Type} (native : Native γ) (ctx : RouteContext) (conn : γ)

/-- An enabled rule matches if its conditions hold by the default logic, all rule sets that it names
have a tag and, if there are any, one of them holds the connection. -/
def Native.matchesRule (rule : Rule) : Bool :=
  let tagged (name : PyText.Text) := ctx.ruleSetTags.get (String.ofList name)
  rule.enabled && (ruleSetNames rule.conditions).all (fun name => (tagged name).isSome) &&
  (defaultLogic (fun c => .condition c.1) (fun c => native.field (.condition c.1) (.texts c.2) conn)
      (plainConditions rule.conditions) &&
    alternatives (fun name => (tagged name).any (native.ruleSet · conn)) (ruleSetNames rule.conditions))

/-- The connection comes from such a process or user. -/
def Native.comesFrom : AppMatcher → Bool
  | .processName values => native.field (.condition .processName) (.texts values) conn
  | .processPath values => native.field (.condition .processPath) (.texts values) conn
  | .processPathRegex values => native.field .processPathRegex (.texts values) conn
  | .user values => native.field .user (.texts values) conn
  | .userId values => native.field .userId (.numbers values) conn

/-- An enabled rule of the policy matches if all its matchers do. -/
def Native.matchesAppRule (rule : AppPolicyRule) : Bool :=
  rule.enabled && rule.matchers.all (native.comesFrom conn)

variable {native ctx conn}

theorem alternatives_ruleSetsOf {names : List PyText.Text} {tags : List String}
    (h : ctx.ruleSetsOf names = some tags) (holds : String → Bool) : alternatives holds tags =
      alternatives (fun name => (ctx.ruleSetTags.get (String.ofList name)).any holds) names := by
  have hmap : names.map (fun name => ctx.ruleSetTags.get (String.ofList name)) = tags.map some := by
    unfold RouteContext.ruleSetsOf at h
    induction names generalizing tags with
    | nil => cases h; rfl
    | cons name names ih =>
      rw [mapM_cons] at h
      obtain ⟨tag, htag, h⟩ := Option.bind_eq_some_iff.mp h
      obtain ⟨rest, hrest, h⟩ := Option.bind_eq_some_iff.mp h
      cases h
      rw [map_cons, map_cons, htag, ih hrest]
  have hlen := congrArg List.isEmpty hmap
  have hany := congrArg (fun l => l.any fun tag : Option String => tag.any holds) hmap
  simp only [isEmpty_map, any_map, Function.comp_def, Option.any_some] at hlen hany
  rw [alternatives, alternatives, hlen, hany]

/-- **The translation of a rule applies to what the rule matches.** -/
theorem applies_ruleToSingboxRule (rule : Rule) :
    (ctx.ruleToSingboxRule rule).any (native.applies · conn) = native.matchesRule ctx conn rule := by
  simp only [RouteContext.ruleToSingboxRule, Native.matchesRule, conditionFields_eq]
  cases rule.enabled with
  | false => rfl
  | true =>
    cases hsets : ctx.ruleSetsOf (ruleSetNames rule.conditions) with
    | none =>
      have hnot : ((ruleSetNames rule.conditions).all fun name =>
          (ctx.ruleSetTags.get (String.ofList name)).isSome) = false := by
        rw [Bool.eq_false_iff, Ne, all_eq_true, ← ruleSetsOf_isSome, hsets]
        decide
      rw [hnot]
      rfl
    | some tags =>
      have hall : ((ruleSetNames rule.conditions).all fun name =>
          (ctx.ruleSetTags.get (String.ofList name)).isSome) = true := by
        rw [all_eq_true, ← ruleSetsOf_isSome, hsets]
        rfl
      rw [hall, ← alternatives_ruleSetsOf hsets]
      change native.applies _ conn = _
      rw [Native.applies, defaultLogic_map]
      rfl

/-- **The translation of a rule of the policy applies to what that matches**: no matcher is an
alternative. -/
theorem applies_appPolicyRule (rule : AppPolicyRule) :
    (ctx.appPolicyRuleToSingboxRule rule).any (native.applies · conn) = native.matchesAppRule conn rule := by
  unfold RouteContext.appPolicyRuleToSingboxRule Native.matchesAppRule
  cases rule.enabled with
  | false => rfl
  | true =>
    change native.applies _ conn = rule.matchers.all (native.comesFrom conn)
    have hkind : ∀ m : AppMatcher, (RouteContext.matcherField m).1.isAddress = false ∧
        (RouteContext.matcherField m).1.isPort = false := by
      intro m
      cases m <;> exact ⟨rfl, rfl⟩
    have hown : ∀ m : AppMatcher, native.field (RouteContext.matcherField m).1
        (RouteContext.matcherField m).2 conn = native.comesFrom conn m := by
      intro m
      cases m <;> rfl
    rw [Native.applies, defaultLogic_map]
    simp [defaultLogic, alternatives, hkind, hown]

end Matching

section Placement

variable {γ σ : Type} {native : Native γ} {ctx : RouteContext} {groups : List RuleGroup} {conn : γ}
  {translate : σ → Option RouteRule} {matched : σ → Bool} {l : List σ} {tail : List RouteRule}

theorem decision_filterMap_first (hm : ∀ x, (translate x).any (native.applies · conn) = matched x) {x : σ}
    (h : l.find? matched = some x) :
    ∃ r, translate x = some r ∧ native.decision (l.filterMap translate ++ tail) conn = some r.action := by
  obtain ⟨hx, passed, rest, rfl, hpass⟩ := find?_eq_some_iff_append.mp h
  obtain ⟨r, hr, happ⟩ : ∃ r, translate x = some r ∧ native.applies r conn = true := by
    simpa [← hm, Option.any_eq_true] using hx
  refine ⟨r, hr, ?_⟩
  rw [filterMap_append, filterMap_cons_some hr, append_assoc]
  refine FirstMatch.decide_of_split (fun p hp => ?_) happ
  obtain ⟨y, hy, hp⟩ := mem_filterMap.mp hp
  have hskip := hpass y hy
  rw [← hm, hp] at hskip
  simpa using hskip

/-- If none applies, what stands behind decides. -/
theorem decision_filterMap_none (hm : ∀ x, (translate x).any (native.applies · conn) = matched x)
    (h : l.find? matched = none) :
    native.decision (l.filterMap translate ++ tail) conn = native.decision tail conn := by
  have hskip : ∀ r ∈ l.filterMap translate, native.applies r conn = false := by
    intro r hr
    obtain ⟨x, hx, hr⟩ := mem_filterMap.mp hr
    have hno := find?_eq_none.mp h x hx
    rw [← hm, hr] at hno
    simpa using hno
  unfold Native.decision
  rw [FirstMatch.decide_append, FirstMatch.decide_of_none hskip]

theorem tierRules_eq (tier : Tier) :
    ctx.tierRules groups tier = (tierConsulted groups tier).filterMap ctx.ruleToSingboxRule := by
  unfold RouteContext.tierRules tierConsulted
  rw [map_flatMap, filterMap_flatMap]
  refine flatMap_congr fun group _ => ?_
  unfold RuleGroup.consulted
  cases group.enabled with
  | false => rfl
  | true =>
    simp only [if_true, filterMap_map, filterMap_filter]
    refine filterMap_congr fun rule _ => ?_
    cases hr : rule.enabled with
    | false => simp [RouteContext.ruleToSingboxRule, hr]
    | true => rfl

/-- The list in four parts: the first two tiers, the policy, the other tiers and the final rule. -/
theorem routeRules_parts (appPolicy : Option AppPolicy) (finalPolicy : Action) :
    ctx.buildSingboxRouteRules groups appPolicy finalPolicy =
      (tierConsulted groups .block ++ tierConsulted groups .custom).filterMap ctx.ruleToSingboxRule ++
        (ctx.appPolicyRules appPolicy ++ (ctx.tierRules groups .app ++ ctx.tierRules groups .imported ++
          ctx.tierRules groups .recommended ++ [ctx.finalRule finalPolicy])) := by
  rw [filterMap_append, ← tierRules_eq, ← tierRules_eq]
  simp [RouteContext.buildSingboxRouteRules, priorityTierOrder]

theorem action_of_ruleToSingboxRule {rule : Rule} {r : RouteRule} (h : ctx.ruleToSingboxRule rule = some r) :
    r.action = ctx.routeAction rule.action := by
  unfold RouteContext.ruleToSingboxRule at h
  split at h
  · cases h
  obtain ⟨fields, -, h⟩ := Option.bind_eq_some_iff.mp h
  cases h
  rfl

theorem action_of_appPolicyRule {rule : AppPolicyRule} {r : RouteRule}
    (h : ctx.appPolicyRuleToSingboxRule rule = some r) :
    r.action = ctx.routeAction (appPolicyAction rule.action) := by
  unfold RouteContext.appPolicyRuleToSingboxRule at h
  split at h
  · cases h
  cases h
  rfl

end Placement

/-- **The place of the policy for applications.** The first matching rule of the tiers `block` and
`custom` decides; failing that, the first matching rule of the policy; failing that, the default of
the policy, if it is a whitelist's or not the current profile; and otherwise the list decides as it
would without the policy. -/
theorem app_policy_placement {γ : Type} (native : Native γ) (ctx : RouteContext) (groups : List RuleGroup)
    (policy : AppPolicy) (finalPolicy : Action) (conn : γ) (hen : policy.enabled = true) :
    let decision := native.decision (ctx.buildSingboxRouteRules groups (some policy) finalPolicy) conn
    let foremost := (tierConsulted groups .block ++ tierConsulted groups .custom).find?
      (native.matchesRule ctx conn)
    let own := policy.rules.find? (native.matchesAppRule conn)
    (∀ rule, foremost = some rule → decision = some (ctx.routeAction rule.action)) ∧
    (∀ rule, foremost = none → own = some rule →
      decision = some (ctx.routeAction (appPolicyAction rule.action))) ∧
    (foremost = none → own = none → policy.mode = .whitelist ∨ policy.defaultAction ≠ .current →
      decision = some (ctx.routeAction (appPolicyAction policy.defaultAction))) ∧
    (foremost = none → own = none → policy.mode = .blacklist → policy.defaultAction = .current →
      decision = native.decision (ctx.buildSingboxRouteRules groups none finalPolicy) conn) := by
  intro decision foremost own
  -- behind the first two tiers the rules of the policy come first, with the default if there is one
  have hrules : ∃ ending, ctx.appPolicyRules (some policy) =
      policy.rules.filterMap ctx.appPolicyRuleToSingboxRule ++ ending ∧
      (policy.mode = .whitelist ∨ policy.defaultAction ≠ .current →
        ending = [ctx.finalRule (appPolicyAction policy.defaultAction)]) ∧
      (¬ (policy.mode = .whitelist ∨ policy.defaultAction ≠ .current) → ending = []) := by
    unfold RouteContext.appPolicyRules
    simp only [hen, Bool.true_eq_false, if_false]
    split
    · rename_i hends
      exact ⟨_, rfl, fun _ => rfl, fun h => absurd hends h⟩
    · rename_i hopen
      exact ⟨[], (append_nil _).symm, fun h => absurd h hopen, fun _ => rfl⟩
  obtain ⟨ending, hrules, hends, hopen⟩ := hrules
  have hpart : ctx.buildSingboxRouteRules groups (some policy) finalPolicy = _ :=
    routeRules_parts (some policy) finalPolicy
  rw [hrules, append_assoc] at hpart
  have hbehind : foremost = none → own = none →
      decision = native.decision (ending ++ (ctx.tierRules groups .app ++
      ctx.tierRules groups .imported ++ ctx.tierRules groups .recommended ++
      [ctx.finalRule finalPolicy])) conn := by
    intro hfore hown
    change native.decision (ctx.buildSingboxRouteRules groups (some policy) finalPolicy) conn = _
    rw [hpart, decision_filterMap_none applies_ruleToSingboxRule hfore,
      decision_filterMap_none applies_appPolicyRule hown]
  refine ⟨fun rule hrule => ?_, fun rule hfore hrule => ?_, fun hfore hown hdef => ?_,
    fun hfore hown hmode hcurr => ?_⟩
  · obtain ⟨r, hr, hdcs⟩ := decision_filterMap_first applies_ruleToSingboxRule hrule
    change native.decision (ctx.buildSingboxRouteRules groups (some policy) finalPolicy) conn = _
    rw [hpart, hdcs, action_of_ruleToSingboxRule hr]
  · obtain ⟨r, hr, hdcs⟩ := decision_filterMap_first applies_appPolicyRule hrule
    change native.decision (ctx.buildSingboxRouteRules groups (some policy) finalPolicy) conn = _
    rw [hpart, decision_filterMap_none applies_ruleToSingboxRule hfore, hdcs, action_of_appPolicyRule hr]
  · rw [hbehind hfore hown, hends hdef, singleton_append]
    unfold Native.decision
    rw [FirstMatch.decide_cons, RouteContext.finalRule, if_pos (native.applies_bare _ conn)]
  · rw [hbehind hfore hown, hopen (by simp [hmode, hcurr]), nil_append, routeRules_parts,
      decision_filterMap_none applies_ruleToSingboxRule hfore]
    rfl

/-- A whitelist that sends one process past the tunnel and blocks all others. -/
def labPolicy (process : String) : AppPolicy where
  enabled := true
  mode := .whitelist
  defaultAction := .block
  rules := [{ id := "process", action := .direct, matchers := [.processName [process.toList]]
              matchersNonempty := cons_ne_nil _ _ }]

/-- The group blocks one domain. -/
def labBlocking (domain : String) (valid : ValidConditions [(.domain, [domain.toList])]) : RuleGroup :=
  customGroup [(.domain, [domain.toList])] valid

/-- A rule of the tier `custom` that matches decides in front of the policy; failing that the
policy's rule for the process does, and for another process its default. -/
theorem app_policy_placement_lab :
    let decision (group : RuleGroup) (process : String) := (Native.engine .ascii).decision
      (({ currentOutboundTag := "node" } : RouteContext).buildSingboxRouteRules [group]
        (some (labPolicy process))
        (.simple .currentProfile)) knownTraffic
    decision (labBlocking "a.example" (by decide)) "curl" = some .reject ∧
      decision (labBlocking "b.example" (by decide)) "curl" = some (.route "direct") ∧
      decision (labBlocking "b.example" (by decide)) "wget" = some .reject := by
  intro decision
  have hplaced := fun group process =>
    app_policy_placement (.engine .ascii) { currentOutboundTag := "node" } [group]
    (labPolicy process) (.simple .currentProfile) knownTraffic rfl
  have hfore := (hplaced (labBlocking "a.example" (by decide)) "curl").1 _ rfl
  have hown := (hplaced (labBlocking "b.example" (by decide)) "curl").2.1 _ rfl rfl
  have hdefault := (hplaced (labBlocking "b.example" (by decide)) "wget").2.2.1 rfl rfl (.inl rfl)
  exact ⟨hfore, hown, hdefault⟩

end WatchdogVpn.Rules
