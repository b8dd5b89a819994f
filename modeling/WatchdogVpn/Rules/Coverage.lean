import WatchdogVpn.Rules.Explanation
import WatchdogVpn.Rules.Importer
import WatchdogVpn.Rules.SingBox

/-!
# Rules that are passed over

A group whose name belongs to no tier passes every check of the store, but no evaluation goes
through it. The importer takes the name of a group from the file.

* `mem_consulted`: which rules an evaluation goes through.
* `conditionFields_eq`: the translation of a rule's conditions for sing-box.
* **`stored_rules_take_part`**: every rule takes part exactly if every group has a tier and every
  rule set a tag; and an imported group is heeded exactly if the name that its file gives has a
  tier.
* `groups_order_free`: the order of the groups makes no difference.
-/

namespace WatchdogVpn.Rules

open PyText (Text)
open List

section Coverage

variable {lib : Library} {ctx : RouteContext} {groups : List RuleGroup} {appPolicy : Option AppPolicy}
  {finalPolicy : Action} {group : RuleGroup} {rule : Rule} {tier : Tier} {t : TrafficInfo}

theorem mem_groupByTier : group ∈ groupByTier groups tier ↔ group ∈ groups ∧
    tierOf group.name.1 = some tier := by
  unfold groupByTier
  by_cases himp : tier = .imported
  · simp only [if_pos himp, (perm_insertionSort _ _).mem_iff, mem_filter, decide_eq_true_eq]
  · simp only [if_neg himp, mem_filter, decide_eq_true_eq]

theorem mem_priorityTierOrder (tier : Tier) : tier ∈ priorityTierOrder := by cases tier <;> decide

theorem exists_unique_tier (hg : group ∈ groups) :
    (∃! tier, group ∈ groupByTier groups tier) ↔ (tierOf group.name.1).isSome = true := by
  constructor
  · rintro ⟨tier, hmem, -⟩
    rw [(mem_groupByTier.mp hmem).2]
    rfl
  · intro hsome
    obtain ⟨tier, htier⟩ := Option.isSome_iff_exists.mp hsome
    refine ⟨tier, mem_groupByTier.mpr ⟨hg, htier⟩, fun tier' hmem => ?_⟩
    have htier' := (mem_groupByTier.mp hmem).2
    rw [htier] at htier'
    exact (Option.some.inj htier').symm

theorem mem_group_consulted : (group, rule) ∈ group.consulted ↔
    group.enabled = true ∧ rule ∈ group.rules ∧ rule.enabled = true := by
  unfold RuleGroup.consulted
  cases group.enabled <;> simp

theorem mem_consulted : (group, rule) ∈ consulted groups ↔
    group ∈ groups ∧ (tierOf group.name.1).isSome = true ∧ group.enabled = true ∧ rule ∈ group.rules ∧
      rule.enabled = true := by
  have hown : ∀ g : RuleGroup, (group, rule) ∈ g.consulted → g = group := by
    intro g hmem
    unfold RuleGroup.consulted at hmem
    split at hmem
    · obtain ⟨r, -, hr⟩ := mem_map.mp hmem
      exact congrArg Prod.fst hr
    · cases hmem
  unfold consulted
  simp only [mem_flatMap]
  constructor
  · rintro ⟨tier, -, g, hg, hmem⟩
    cases hown g hmem
    obtain ⟨hgrps, htier⟩ := mem_groupByTier.mp hg
    exact ⟨hgrps, by rw [htier]; rfl, mem_group_consulted.mp hmem⟩
  · rintro ⟨hgrps, hsome, hrest⟩
    obtain ⟨tier, htier⟩ := Option.isSome_iff_exists.mp hsome
    exact ⟨tier, mem_priorityTierOrder tier, group, mem_groupByTier.mpr ⟨hgrps, htier⟩,
      mem_group_consulted.mpr hrest⟩

/-! ## Translations -/

/-- Every rule set that the conditions name has a tag. -/
def RuleSetsTagged (ctx : RouteContext) (conditions : Conditions) : Prop :=
  ∀ c ∈ conditions, c.1.unevaluable = true →
    ∀ value ∈ c.2, (ctx.ruleSetTags.get (String.ofList value)).isSome = true

theorem ruleSetsOf_isSome (values : List Text) : (ctx.ruleSetsOf values).isSome = true ↔
    ∀ value ∈ values, (ctx.ruleSetTags.get (String.ofList value)).isSome = true := by
  unfold RouteContext.ruleSetsOf
  induction values with
  | nil => simp
  | cons value values ih =>
    rw [mapM_cons, forall_mem_cons, ← ih]
    cases ctx.ruleSetTags.get (String.ofList value) with
    | none => simp
    | some tag =>
      cases values.mapM fun value => ctx.ruleSetTags.get (String.ofList value) <;> simp

/-- The conditions that sing-box evaluates itself. -/
def plainConditions (conditions : Conditions) : Conditions := conditions.filter fun c => !c.1.unevaluable

/-- The rule sets that the conditions name. -/
def ruleSetNames (conditions : Conditions) : List Text := (conditions.filter (·.1.unevaluable)).flatMap (·.2)

theorem conditionFields_eq (conditions : Conditions) : ctx.conditionFields conditions =
    (ctx.ruleSetsOf (ruleSetNames conditions)).map fun tags =>
      ((plainConditions conditions).map fun c => (.condition c.1, .texts c.2), tags) := by
  induction conditions with
  | nil => rfl
  | cons c conditions ih =>
    obtain ⟨c, values⟩ := c
    rw [RouteContext.conditionFields, ih]
    cases hc : c.unevaluable with
    | false =>
      have hnames : ruleSetNames ((c, values) :: conditions) = ruleSetNames conditions := by
        simp [ruleSetNames, hc]
      have hown : plainConditions ((c, values) :: conditions) = (c, values) :: plainConditions conditions := by
        simp [plainConditions, hc]
      rw [hnames, hown]
      cases ctx.ruleSetsOf (ruleSetNames conditions) <;> rfl
    | true =>
      have hnames : ruleSetNames ((c, values) :: conditions) = values ++ ruleSetNames conditions := by
        simp [ruleSetNames, hc]
      have hown : plainConditions ((c, values) :: conditions) = plainConditions conditions := by
        simp [plainConditions, hc]
      have hsets : ctx.ruleSetsOf (values ++ ruleSetNames conditions) =
          do return (← ctx.ruleSetsOf values) ++ (← ctx.ruleSetsOf (ruleSetNames conditions)) := mapM_append
      rw [hnames, hown, hsets]
      cases ctx.ruleSetsOf values <;> cases ctx.ruleSetsOf (ruleSetNames conditions) <;> rfl

theorem ruleToSingboxRule_isSome (hen : rule.enabled = true) :
    (ctx.ruleToSingboxRule rule).isSome = true ↔ RuleSetsTagged ctx rule.conditions := by
  have hsome : (ctx.conditionFields rule.conditions).isSome = true ↔ RuleSetsTagged ctx rule.conditions := by
    rw [conditionFields_eq, Option.isSome_map, ruleSetsOf_isSome]
    simp only [ruleSetNames, mem_flatMap, mem_filter]
    constructor
    · intro h c hc hset value hv
      exact h value ⟨c, ⟨hc, hset⟩, hv⟩
    · rintro h value ⟨c, ⟨hc, hset⟩, hv⟩
      exact h c hc hset value hv
  rw [← hsome, RouteContext.ruleToSingboxRule, hen]
  cases ctx.conditionFields rule.conditions <;> simp

theorem mem_buildSingboxRouteRules {r : RouteRule} (hc : (group, rule) ∈ consulted groups)
    (hr : ctx.ruleToSingboxRule rule = some r) :
    r ∈ ctx.buildSingboxRouteRules groups appPolicy finalPolicy := by
  obtain ⟨hgrps, hsome, hen, hrule, -⟩ := mem_consulted.mp hc
  obtain ⟨tier, htier⟩ := Option.isSome_iff_exists.mp hsome
  have hmem : r ∈ ctx.tierRules groups tier := by
    refine mem_flatMap.mpr ⟨group, mem_groupByTier.mpr ⟨hgrps, htier⟩, ?_⟩
    rw [hen]
    exact mem_filterMap.mpr ⟨rule, hrule, hr⟩
  refine mem_append_left _ (mem_flatMap.mpr ⟨tier, mem_priorityTierOrder tier, ?_⟩)
  exact mem_append_right _ hmem

/-! ## One group alone -/

/-- The rule is the first enabled one of the group that matches. -/
def FirstToMatch (lib : Library) (group : RuleGroup) (t : TrafficInfo) (rule : Rule) : Prop :=
  (group.rules.filter (·.enabled)).find? (fun r => ruleMatches lib r t) = some rule

theorem consulted_single (hen : group.enabled = true) (hsome : (tierOf group.name.1).isSome = true) :
    consulted [group] = (group.rules.filter (·.enabled)).map (group, ·) := by
  obtain ⟨tier, htier⟩ := Option.isSome_iff_exists.mp hsome
  have hby : ∀ tier', groupByTier [group] tier' = if tier' = tier then [group] else [] := by
    intro tier'
    by_cases h : tier = tier' <;> simp [groupByTier, htier, h, eq_comm]
  have hown : group.consulted = (group.rules.filter (·.enabled)).map (group, ·) := by
    unfold RuleGroup.consulted
    rw [if_pos hen]
  rw [← hown]
  unfold consulted priorityTierOrder
  simp only [hby]
  cases tier <;> simp

theorem evaluate_single {final : SimpleAction} (hen : group.enabled = true)
    (hsome : (tierOf group.name.1).isSome = true) (hfst : FirstToMatch lib group t rule) :
    (evaluate lib final t [group]).action = rule.action := by
  obtain ⟨hmatch, passed, rest, hsplit, hpass⟩ := find?_eq_some_iff_append.mp hfst
  have hcons : consulted [group] = passed.map (group, ·) ++ (group, rule) :: rest.map (group, ·) := by
    rw [consulted_single hen hsome, hsplit, map_append, map_cons]
  rw [evaluate_of_split hcons ?_ hmatch]
  · rfl
  rintro p hp
  obtain ⟨r, hr, rfl⟩ := mem_map.mp hp
  simpa using hpass r hr

theorem evaluate_untiered {final : SimpleAction} (hnone : (tierOf group.name.1).isSome = false) :
    (evaluate lib final t [group]).action = .simple final := by
  rw [evaluate_of_none]
  rintro ⟨g, r⟩ hmem
  obtain ⟨hg, hsome, -⟩ := mem_consulted.mp hmem
  cases mem_singleton.mp hg
  rw [hnone] at hsome
  cases hsome

/-- An enabled group alone is heeded, whatever the final policy, exactly if its name has a tier or
none of its rules ever matches. -/
theorem heeded_iff (hen : group.enabled = true) : (∀ final t rule, FirstToMatch lib group (lib.traffic t) rule →
      (evaluate lib final (lib.traffic t) [group]).action = rule.action) ↔
    (tierOf group.name.1).isSome = true ∨
      ∀ t, ∀ rule ∈ group.rules, rule.enabled = true → ruleMatches lib rule (lib.traffic t) = false := by
  constructor
  · intro hall
    by_contra hno
    push Not at hno
    obtain ⟨hnone, t, rule, hrule, hon, hmatch⟩ := hno
    have hfnd : ((group.rules.filter (·.enabled)).find? fun r =>
        ruleMatches lib r (lib.traffic t)).isSome = true := by
      rw [find?_isSome]
      exact ⟨rule, mem_filter.mpr ⟨hrule, hon⟩, by simpa using hmatch⟩
    obtain ⟨first, hfst⟩ := Option.isSome_iff_exists.mp hfnd
    -- two final policies cannot both be what the rule says
    have hdir := hall .direct t first hfst
    have hblk := hall .block t first hfst
    rw [evaluate_untiered (by simpa using hnone)] at hdir hblk
    rw [← hdir] at hblk
    cases hblk
  · rintro (hsome | hqt) final t rule hfst
    · exact evaluate_single hen hsome hfst
    · obtain ⟨hmem, hon⟩ := mem_filter.mp (mem_of_find?_eq_some hfst)
      exact absurd (find?_some hfst) (Bool.eq_false_iff.mp (hqt t rule hmem hon))

end Coverage

/-- **Stored rules take part exactly if their groups have a tier**, and their rule sets tags; a
group that comes from a file is heeded on the same condition. -/
theorem stored_rules_take_part (lib : ImportLibrary) : (∀ (ctx : RouteContext) groups appPolicy finalPolicy,
      ((∀ group ∈ groups, ∃! tier, group ∈ groupByTier groups tier) ∧
        (∀ group ∈ groups, group.enabled = true → ∀ rule ∈ group.rules, rule.enabled = true →
          (group, rule) ∈ consulted groups ∧ ∃ r, ctx.ruleToSingboxRule rule = some r ∧
            r ∈ ctx.buildSingboxRouteRules groups appPolicy finalPolicy)) ↔
      (∀ group ∈ groups, (tierOf group.name.1).isSome = true) ∧
        ∀ group ∈ groups, group.enabled = true → ∀ rule ∈ group.rules, rule.enabled = true →
          RuleSetsTagged ctx rule.conditions) ∧
    ∀ (path stem : String) text defaultAction allowPartial plan,
      lib.buildRuleImportPlan path stem text none defaultAction allowPartial = .ok plan →
      plan.group.enabled = true →
      ((∀ final t rule, FirstToMatch lib.toLibrary plan.group (lib.traffic t) rule →
        (evaluate lib.toLibrary final (lib.traffic t) [plan.group]).action = rule.action) ↔
      (tierOf (lib.fileGroupName stem text)).isSome = true ∨
      ∀ t, ∀ rule ∈ plan.group.rules, rule.enabled = true →
          ruleMatches lib.toLibrary rule (lib.traffic t) = false) := by
  refine ⟨fun ctx groups appPolicy finalPolicy => ⟨?_, ?_⟩, fun _ stem text _ _ plan hplan hen => ?_⟩
  · rintro ⟨htiers, hpart⟩
    refine ⟨fun group hg => (exists_unique_tier hg).mp (htiers group hg), fun group hg hen rule hrule hon => ?_⟩
    obtain ⟨-, r, hr, -⟩ := hpart group hg hen rule hrule hon
    exact (ruleToSingboxRule_isSome hon).mp (by rw [hr]; rfl)
  · rintro ⟨htiers, htags⟩
    refine ⟨fun group hg => (exists_unique_tier hg).mpr (htiers group hg),
      fun group hg hen rule hrule hon => ?_⟩
    have hcons : (group, rule) ∈ consulted groups := mem_consulted.mpr ⟨hg, htiers group hg, hen, hrule, hon⟩
    have hsome : (ctx.ruleToSingboxRule rule).isSome = true :=
      (ruleToSingboxRule_isSome hon).mpr (htags group hg hen rule hrule hon)
    obtain ⟨r, hr⟩ := Option.isSome_iff_exists.mp hsome
    exact ⟨hcons, r, hr, mem_buildSingboxRouteRules hcons hr⟩
  · rw [← ImportLibrary.buildRuleImportPlan_name hplan]
    exact heeded_iff hen

/-- A library for examples that knows neither networks nor JSON. -/
def ImportLibrary.ascii : ImportLibrary :=
  { Library.ascii with upper := map Char.toUpper, network := fun _ => none, loads := fun _ => .error "not JSON" }

/-- A list of one domain, imported under the name `imported-ads`, is heeded. -/
theorem stored_rules_take_part_ads : ∃ plan,
    ImportLibrary.ascii.buildRuleImportPlan "imported-ads.txt" "imported-ads" "ads.example\n".toList
      none "block" false = .ok plan ∧
    ∀ final t rule, FirstToMatch Library.ascii plan.group (Library.ascii.traffic t) rule →
      (evaluate Library.ascii final (Library.ascii.traffic t) [plan.group]).action = rule.action := by
  have hfacts : (match ImportLibrary.ascii.buildRuleImportPlan "imported-ads.txt" "imported-ads"
      "ads.example\n".toList none "block" false with
      | .ok plan => plan.group.enabled | .error _ => false) = true := by decide +kernel
  split at hfacts
  case h_2 => cases hfacts
  case h_1 plan hplan =>
    exact ⟨plan, hplan, ((stored_rules_take_part .ascii).2 _ _ _ _ _ plan hplan hfacts).mpr
      (.inl (by decide +kernel))⟩

/-- **Counterexample**: the same list in a file `streaming.txt` is accepted with one rule, to block,
and the traffic of the rule passes. -/
theorem imported_rule_ignored : ∃ plan rule,
    ImportLibrary.ascii.buildRuleImportPlan "streaming.txt" "streaming" "ads.example\n".toList none
      "block" false = .ok plan ∧ plan.group.enabled = true ∧
    FirstToMatch Library.ascii plan.group (Library.ascii.traffic { domain := some "ads.example".toList }) rule ∧
    rule.action = .simple .block ∧
    (evaluate Library.ascii .direct (Library.ascii.traffic { domain := some "ads.example".toList })
      [plan.group]).action = .simple .direct ∧ ∀ tier, groupByTier [plan.group] tier = [] := by
  have hrun : (match ImportLibrary.ascii.buildRuleImportPlan "streaming.txt" "streaming"
      "ads.example\n".toList none
      "block" false with
      | .ok plan => plan.group.enabled && (tierOf plan.group.name.1).isNone &&
          (match (plan.group.rules.filter (·.enabled)).find? fun r =>
            ruleMatches .ascii r (Library.ascii.traffic { domain := some "ads.example".toList }) with
          | some rule => rule.action == .simple .block
          | none => false)
      | .error _ => false) = true := by decide +kernel
  split at hrun
  case h_2 => cases hrun
  case h_1 plan hplan =>
    simp only [Bool.and_eq_true, Option.isNone_iff_eq_none] at hrun
    obtain ⟨⟨hen, hnone⟩, hfst⟩ := hrun
    split at hfst
    case h_2 => cases hfst
    case h_1 rule hrule =>
      refine ⟨plan, rule, hplan, hen, hrule, by simpa using hfst,
        evaluate_untiered (by rw [hnone]; rfl), fun tier => ?_⟩
      rw [eq_nil_iff_forall_not_mem]
      intro g hg
      obtain ⟨hmem, htier⟩ := mem_groupByTier.mp hg
      cases mem_singleton.mp hmem
      rw [hnone] at htier
      cases htier

/-! ## The order of the groups -/

variable {groups groups' : List RuleGroup}

theorem before_iff {a b : RuleGroup} : a.before b ↔
    toLex (a.priority, a.name.1) ≤ toLex (b.priority, b.name.1) :=
  Iff.symm (Prod.Lex.toLex_le_toLex (x := (_, _)) (y := (_, _)))

instance : Std.Total RuleGroup.before := ⟨fun _ _ => (le_total _ _).imp before_iff.mpr before_iff.mpr⟩

instance : IsTrans RuleGroup RuleGroup.before :=
  ⟨fun _ _ _ h h' => before_iff.mpr ((before_iff.mp h).trans (before_iff.mp h'))⟩

theorem name_of_tierOf {name : String} {tier : Tier} (h : tierOf name = some tier) (himp : tier ≠ .imported) :
    tier.name = name := by
  unfold tierOf at h
  split at h
  · cases h
    contradiction
  · simpa using find?_some h

/-- The imported groups are put in order, and each of the other tiers has one group at most. -/
theorem groupByTier_perm (hperm : groups.Perm groups') (hnames : (groups.map (·.name.1)).Nodup) (tier : Tier) :
    groupByTier groups tier = groupByTier groups' tier := by
  have hown := hperm.filter fun g => tierOf g.name.1 = some tier
  have hsame : ∀ a b, a ∈ groupByTier groups tier → b ∈ groupByTier groups' tier →
      a.name.1 = b.name.1 → a = b :=
    fun a b ha hb => inj_on_of_nodup_map hnames (mem_groupByTier.mp ha).1
      (hperm.mem_iff.mpr (mem_groupByTier.mp hb).1)
  by_cases himp : tier = .imported
  · simp only [groupByTier, if_pos himp] at hsame ⊢
    refine Perm.eq_of_pairwise (fun a b ha hb hab hba => hsame a b ha hb ?_) (pairwise_insertionSort _ _)
      (pairwise_insertionSort _ _) (((perm_insertionSort _ _).trans hown).trans (perm_insertionSort _ _).symm)
    exact congrArg (·.2) (le_antisymm (before_iff.mp hab) (before_iff.mp hba))
  · -- any two groups are the same, so every relation is an order
    have hone : ∀ a b, a ∈ groupByTier groups tier → b ∈ groupByTier groups' tier → True → True → a = b :=
      fun a b ha hb _ _ => hsame a b ha hb ((name_of_tierOf (mem_groupByTier.mp ha).2 himp).symm.trans
        (name_of_tierOf (mem_groupByTier.mp hb).2 himp))
    simp only [groupByTier, if_neg himp] at hone ⊢
    exact Perm.eq_of_pairwise hone (pairwise_of_forall fun _ _ => trivial)
      (pairwise_of_forall fun _ _ => trivial) hown

/-- **The order of the groups makes no difference**, as long as their names differ: to what the
engine decides, to how that is explained, and to what sing-box is told. -/
theorem groups_order_free (hperm : groups.Perm groups') (hnames : (groups.map (·.name.1)).Nodup) :
    (∀ lib final t, evaluate lib final t groups = evaluate lib final t groups') ∧
    (∀ lib final registry t, explain lib final registry t groups = explain lib final registry t groups') ∧
    ∀ (ctx : RouteContext) policy final,
      ctx.buildSingboxRouteRules groups policy final = ctx.buildSingboxRouteRules groups' policy final := by
  have htiers := funext (groupByTier_perm hperm hnames)
  refine ⟨fun lib final t => ?_, fun lib final registry t => ?_, fun ctx policy final => ?_⟩
  · rw [evaluate_eq, evaluate_eq, consulted, htiers, consulted]
  · have h : explainTier lib registry t groups = explainTier lib registry t groups' := by
      unfold explainTier
      rw [htiers]
    rw [explain, h, explain]
  · have h : ctx.tierRules groups = ctx.tierRules groups' := by
      unfold RouteContext.tierRules
      rw [htiers]
    rw [RouteContext.buildSingboxRouteRules, h, RouteContext.buildSingboxRouteRules]

theorem groups_order_free_two : ∃ other : RuleGroup, other.name.1 = "imported" ∧
    ∀ lib final t, evaluate lib final t [advertsGroup, other] = evaluate lib final t [other, advertsGroup] :=
  ⟨{ advertsGroup with name := ⟨"imported", by decide⟩ }, rfl, (groups_order_free (.swap _ _ []) (by decide)).1⟩

end WatchdogVpn.Rules
