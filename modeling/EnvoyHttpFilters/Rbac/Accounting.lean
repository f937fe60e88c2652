import EnvoyHttpFilters.Rbac.Verdict

/-!
# Counter accounting over runs of the RBAC filter

Every call of `decodeHeaders` in a run may see its own filter-level and route-specific
config and its own engine verdicts; all calls increment the same counters. The
aggregate counters count the calls with an engine, `denied_` counts the local
replies, and each per-policy counter moves together with the aggregate counter of
its outcome. Each fact is proved for one call and summed over the run.
-/

namespace Rbac

open EnvoyHttpFilters

universe u

variable {Request : Type u}

namespace RoleBasedAccessControlFilter

variable (keys : DynamicMetadataKeys) (responseDetail : String → String)

/-- The effects of a run of `decodeHeaders` calls, each with its own filter and request. -/
def runLog : List (RoleBasedAccessControlFilter Request × Request) → List Effect
  | [] => []
  | (f, headers) :: calls => (f.decodeHeaders keys responseDetail headers).2 ++ runLog calls

/-- In the effects `E` of one call, the per-policy counter `policy id` is incremented exactly
when the aggregate counter of its outcome is, the engine reported `id`, `id` is not
empty, and per-rule stats are enabled. -/
def PolicyCounterFollows (E : List Effect) (aggregate : Counter) (policy : String → Counter)
    (reported : Option String) (perRuleStatsEnabled : Bool) : Prop :=
  ∀ id, counterValue (policy id) E =
    if counterValue aggregate E = 1 ∧ reported = some id ∧ id ≠ "" ∧ perRuleStatsEnabled then 1
    else 0

/-- The aggregate counters one call increments: once for each engine that ran, by its
verdict; a denial is also the one `Forbidden` local reply. -/
lemma decodeHeaders_aggregates (f : RoleBasedAccessControlFilter Request) (headers : Request) :
    let E := (f.decodeHeaders keys responseDetail headers).2
    counterValue .allowed E =
      (if (f.verdict .Enforced headers).map (·.1) = some true then 1 else 0) ∧
    counterValue .denied E =
      (if (f.verdict .Enforced headers).map (·.1) = some false then 1 else 0) ∧
    counterValue .shadowAllowed E =
      (if (f.verdict .Shadow headers).map (·.1) = some true then 1 else 0) ∧
    counterValue .shadowDenied E =
      (if (f.verdict .Shadow headers).map (·.1) = some false then 1 else 0) ∧
    counterValue .denied E = (localReplies E).countP (·.code == Forbidden) := by
  simp only [decodeHeaders_effects, evaluateShadowEngine_eq, evaluateEnforcedEngine_eq]
  rcases f.verdict .Shadow headers with _ | ⟨_ | _, _⟩ <;>
    rcases f.verdict .Enforced headers with _ | ⟨_ | _, _⟩ <;> simp [Forbidden]

lemma ite_reported_id (reported id : String) (p : Prop) [Decidable p] :
    (if reported = id ∧ ¬reported = "" ∧ p then 1 else 0) =
      if reported = id ∧ ¬id = "" ∧ p then 1 else 0 := by
  by_cases h : reported = id <;> simp [h]

/-- The per-policy counters of `id` one call increments: the one of the verdict of an engine
that reported `id`, when `id` is not empty and per-rule stats are enabled. -/
lemma decodeHeaders_policies (f : RoleBasedAccessControlFilter Request) (headers : Request)
    (id : String) :
    let E := (f.decodeHeaders keys responseDetail headers).2
    counterValue (.policyAllowed id) E = (if f.verdict .Enforced headers = some (true, id) ∧
      id ≠ "" ∧ f.config.perRuleStatsEnabled f.routeLocal then 1 else 0) ∧
    counterValue (.policyDenied id) E = (if f.verdict .Enforced headers = some (false, id) ∧
      id ≠ "" ∧ f.config.perRuleStatsEnabled f.routeLocal then 1 else 0) ∧
    counterValue (.policyShadowAllowed id) E = (if f.verdict .Shadow headers = some (true, id) ∧
      id ≠ "" ∧ f.config.perRuleStatsEnabled f.routeLocal then 1 else 0) ∧
    counterValue (.policyShadowDenied id) E = (if f.verdict .Shadow headers = some (false, id) ∧
      id ≠ "" ∧ f.config.perRuleStatsEnabled f.routeLocal then 1 else 0) := by
  simp only [decodeHeaders_effects, evaluateShadowEngine_eq, evaluateEnforcedEngine_eq]
  rcases f.verdict .Shadow headers with _ | ⟨_ | _, _⟩ <;>
    rcases f.verdict .Enforced headers with _ | ⟨_ | _, _⟩ <;> simp [ite_reported_id]

/-- `perRuleStatsEnabled(callbacks)`: the route-specific `track_per_rule_stats` whenever a
route-specific config exists, else the filter-level one. -/
lemma perRuleStatsEnabled_eq (f : RoleBasedAccessControlFilter Request) :
    f.config.perRuleStatsEnabled f.routeLocal =
      match f.routeLocal with
      | some route => route.perRuleStatsEnabled
      | none => f.config.perRuleStats := by
  obtain ⟨_, _ | _⟩ := f <;> rfl

/-- An engine that ran gave one verdict or the other. -/
lemma verdict_tally (v : Option (Bool × String)) :
    ((if v.map (·.1) = some true then 1 else 0) + if v.map (·.1) = some false then 1 else 0) =
      if v.isSome then 1 else 0 := by
  rcases v with _ | ⟨_ | _, _⟩ <;> rfl

/-- A per-policy counter follows its aggregate one when it moves exactly for the outcome that
moves the aggregate and the policy id the engine reported. -/
lemma policyCounterFollows_of {E : List Effect} {aggregate : Counter}
    {policy : String → Counter} {v : Option (Bool × String)} {allowed perRule : Bool}
    (hagg : counterValue aggregate E = if v.map (·.1) = some allowed then 1 else 0)
    (hpol : ∀ id, counterValue (policy id) E =
      if v = some (allowed, id) ∧ id ≠ "" ∧ perRule then 1 else 0) :
    PolicyCounterFollows E aggregate policy (v.map (·.2)) perRule := fun id => by
  rw [hpol, hagg]
  rcases v with _ | ⟨_ | _, _⟩ <;> cases allowed <;> simp [eq_comm]

/-- The accounting over a run. The resolved engines are the code's own
`engine(callbacks, mode)`; the per-rule switch of a call is spelled out: the route-specific
`track_per_rule_stats` whenever a route-specific config exists, else the filter-level one. -/
theorem runLog_counters (calls : List (RoleBasedAccessControlFilter Request × Request)) :
    let log := runLog keys responseDetail calls
    counterValue .allowed log + counterValue .denied log =
      calls.countP (fun c => (c.1.config.engine c.1.routeLocal .Enforced).isSome) ∧
    counterValue .denied log = (localReplies log).countP (·.code == Forbidden) ∧
    counterValue .shadowAllowed log + counterValue .shadowDenied log =
      calls.countP (fun c => (c.1.config.engine c.1.routeLocal .Shadow).isSome) ∧
    ∀ c ∈ calls,
      let E := (c.1.decodeHeaders keys responseDetail c.2).2
      let perRule := match c.1.routeLocal with
        | some route => route.perRuleStatsEnabled
        | none => c.1.config.perRuleStats
      let enforcedId := (c.1.verdict .Enforced c.2).map (·.2)
      let shadowId := (c.1.verdict .Shadow c.2).map (·.2)
      PolicyCounterFollows E .allowed .policyAllowed enforcedId perRule ∧
      PolicyCounterFollows E .denied .policyDenied enforcedId perRule ∧
      PolicyCounterFollows E .shadowAllowed .policyShadowAllowed shadowId perRule ∧
      PolicyCounterFollows E .shadowDenied .policyShadowDenied shadowId perRule := by
  induction calls with
  | nil => simp [runLog]
  | cons c calls ih =>
    obtain ⟨f, headers⟩ := c
    obtain ⟨a₁, d₁, a₂, d₂, r⟩ := decodeHeaders_aggregates keys responseDetail f headers
    have p := decodeHeaders_policies keys responseDetail f headers
    simp only [perRuleStatsEnabled_eq] at p
    obtain ⟨ih₁, ih₂, ih₃, ih₄⟩ := ih
    have he := verdict_tally (f.verdict .Enforced headers)
    have hs := verdict_tally (f.verdict .Shadow headers)
    simp only [isSome_verdict] at he hs
    simp only [runLog, counterValue_append, localReplies_append, List.countP_append,
      List.countP_cons, List.mem_cons, forall_eq_or_imp]
    exact ⟨by omega, by omega, by omega,
      ⟨policyCounterFollows_of a₁ fun id => (p id).1,
        policyCounterFollows_of d₁ fun id => (p id).2.1,
        policyCounterFollows_of a₂ fun id => (p id).2.2.1,
        policyCounterFollows_of d₂ fun id => (p id).2.2.2⟩, ih₄⟩

/-- The four aggregate counters tally the verdicts exactly: over a run, each counts the
calls whose resolved engine of its mode ran and returned its outcome. -/
theorem runLog_counts_verdicts (calls : List (RoleBasedAccessControlFilter Request × Request)) :
    let log := runLog keys responseDetail calls
    counterValue .allowed log =
      calls.countP (fun c => (c.1.verdict .Enforced c.2).map (·.1) = some true) ∧
    counterValue .denied log =
      calls.countP (fun c => (c.1.verdict .Enforced c.2).map (·.1) = some false) ∧
    counterValue .shadowAllowed log =
      calls.countP (fun c => (c.1.verdict .Shadow c.2).map (·.1) = some true) ∧
    counterValue .shadowDenied log =
      calls.countP (fun c => (c.1.verdict .Shadow c.2).map (·.1) = some false) := by
  induction calls with
  | nil => simp [runLog]
  | cons c calls ih =>
    obtain ⟨f, headers⟩ := c
    obtain ⟨a₁, d₁, a₂, d₂, -⟩ := decodeHeaders_aggregates keys responseDetail f headers
    simp only [runLog, counterValue_append, List.countP_cons, decide_eq_true_eq]
    omega

/-- Over a run, each per-policy counter of `id` counts the calls whose resolved engine of its
mode returned that outcome reporting `id`, with `id` non-empty and per-rule stats enabled for
the call: by the route-specific `track_per_rule_stats` whenever a route-specific config
exists, else by the filter-level one. -/
theorem runLog_counts_policies (calls : List (RoleBasedAccessControlFilter Request × Request))
    (id : String) :
    let log := runLog keys responseDetail calls
    counterValue (.policyAllowed id) log = calls.countP (fun c =>
      c.1.verdict .Enforced c.2 = some (true, id) ∧ id ≠ "" ∧
        (match c.1.routeLocal with
          | some route => route.perRuleStatsEnabled
          | none => c.1.config.perRuleStats : Bool) = true) ∧
    counterValue (.policyDenied id) log = calls.countP (fun c =>
      c.1.verdict .Enforced c.2 = some (false, id) ∧ id ≠ "" ∧
        (match c.1.routeLocal with
          | some route => route.perRuleStatsEnabled
          | none => c.1.config.perRuleStats : Bool) = true) ∧
    counterValue (.policyShadowAllowed id) log = calls.countP (fun c =>
      c.1.verdict .Shadow c.2 = some (true, id) ∧ id ≠ "" ∧
        (match c.1.routeLocal with
          | some route => route.perRuleStatsEnabled
          | none => c.1.config.perRuleStats : Bool) = true) ∧
    counterValue (.policyShadowDenied id) log = calls.countP (fun c =>
      c.1.verdict .Shadow c.2 = some (false, id) ∧ id ≠ "" ∧
        (match c.1.routeLocal with
          | some route => route.perRuleStatsEnabled
          | none => c.1.config.perRuleStats : Bool) = true) := by
  induction calls with
  | nil => simp [runLog]
  | cons c calls ih =>
    obtain ⟨f, headers⟩ := c
    obtain ⟨p₁, p₂, p₃, p₄⟩ := decodeHeaders_policies keys responseDetail f headers id
    simp only [perRuleStatsEnabled_eq] at p₁ p₂ p₃ p₄
    simp only [runLog, counterValue_append, List.countP_cons, decide_eq_true_eq, p₁, p₂, p₃, p₄]
    omega

end RoleBasedAccessControlFilter

end Rbac
