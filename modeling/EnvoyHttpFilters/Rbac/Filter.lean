import EnvoyHttpFilters.Rbac.Config

/-!
# The RBAC decoder filter

`RoleBasedAccessControlFilter::decodeHeaders` with its two evaluation helpers
(rbac_filter.cc). The filter's observable behaviour is the ordered list of what
it does to the outside: local replies and dynamic metadata through `callbacks_`,
and counter increments on `config_->stats()`. Each helper is split where the
source calls `handleAction`: what follows the call depends only on the verdict
and the effective policy id it returned. Debug logging is not modelled.
-/

namespace Rbac

open EnvoyHttpFilters

universe u

variable {Request : Type u}

/-- The counters of `RoleBasedAccessControlFilterStats` the filter increments; the
per-policy ones are named by the effective policy id. -/
inductive Counter
  | allowed
  | denied
  | shadowAllowed
  | shadowDenied
  | policyAllowed (id : String)
  | policyDenied (id : String)
  | policyShadowAllowed (id : String)
  | policyShadowDenied (id : String)
  deriving DecidableEq, Repr

/-- `Http::Code::Forbidden`. -/
def Forbidden : Nat := 403

structure LocalReply where
  code : Nat
  body : String
  details : String
  deriving DecidableEq, Repr

inductive Effect
  | sendLocalReply (reply : LocalReply)
  | setDynamicMetadata (name : String) (metadata : Struct)
  | inc (counter : Counter)
  deriving DecidableEq, Repr

@[simp] def Effect.localReply? : Effect → Option LocalReply
  | .sendLocalReply r => some r
  | _ => none

@[simp] def Effect.metadata? : Effect → Option (String × Struct)
  | .setDynamicMetadata n m => some (n, m)
  | _ => none

/-- Every local reply sent, in order. -/
def localReplies (log : List Effect) : List LocalReply := log.filterMap Effect.localReply?

/-- Every `setDynamicMetadata` call, in order. -/
def metadataSets (log : List Effect) : List (String × Struct) := log.filterMap Effect.metadata?

/-- The value of a counter after the increments of `log`. -/
def counterValue (c : Counter) (log : List Effect) : Nat := log.count (.inc c)

@[simp] lemma localReplies_nil : localReplies [] = [] := rfl
@[simp] lemma localReplies_append (l₁ l₂ : List Effect) :
    localReplies (l₁ ++ l₂) = localReplies l₁ ++ localReplies l₂ := List.filterMap_append _ _ _
@[simp] lemma localReplies_cons (e : Effect) (l : List Effect) :
    localReplies (e :: l) = (e.localReply?).toList ++ localReplies l := by
  cases e <;> simp [localReplies, Effect.localReply?]
@[simp] lemma metadataSets_nil : metadataSets [] = [] := rfl
@[simp] lemma metadataSets_append (l₁ l₂ : List Effect) :
    metadataSets (l₁ ++ l₂) = metadataSets l₁ ++ metadataSets l₂ := List.filterMap_append _ _ _
@[simp] lemma metadataSets_cons (e : Effect) (l : List Effect) :
    metadataSets (e :: l) = (e.metadata?).toList ++ metadataSets l := by
  cases e <;> simp [metadataSets, Effect.metadata?]
@[simp] lemma counterValue_nil (c : Counter) : counterValue c [] = 0 := rfl
@[simp] lemma counterValue_append (c : Counter) (l₁ l₂ : List Effect) :
    counterValue c (l₁ ++ l₂) = counterValue c l₁ + counterValue c l₂ := List.count_append _ _ _
@[simp] lemma counterValue_cons (c : Counter) (e : Effect) (l : List Effect) :
    counterValue c (e :: l) = (if e = .inc c then 1 else 0) + counterValue c l := by
  by_cases h : e = .inc c <;> simp [counterValue, List.count_cons, h, Nat.add_comm]

/-- `RoleBasedAccessControlFilter`: its `config_`, and the route-specific config that
`callbacks_` resolves to for the stream. -/
structure RoleBasedAccessControlFilter (Request : Type u) where
  config : RoleBasedAccessControlFilterConfig Request
  routeLocal : RouteLocal Request

/-- What an evaluation helper gives back: its return value, the `metrics` struct it
wrote into, and its effects. -/
structure Evaluation (α : Type) where
  result : α
  metrics : Struct
  effects : List Effect

/-- `if (!effective_policy_id.empty() && per_rule_stats_enabled) incPolicy…(effective_policy_id)`. -/
def incPolicy (perRuleStatsEnabled : Bool) (effectivePolicyId : String)
    (counter : String → Counter) : List Effect :=
  if effectivePolicyId != "" && perRuleStatsEnabled then [.inc (counter effectivePolicyId)] else []

@[simp] lemma counterValue_incPolicy (c : Counter) (b : Bool) (id : String)
    (policy : String → Counter) :
    counterValue c (incPolicy b id policy) =
      if policy id = c ∧ id ≠ "" ∧ b = true then 1 else 0 := by
  unfold incPolicy
  by_cases hid : id = "" <;> cases b <;> simp [hid]

namespace RoleBasedAccessControlFilter

variable (keys : DynamicMetadataKeys) (responseDetail : String → String)
  (f : RoleBasedAccessControlFilter Request)

/-- `evaluateShadowEngine` after `handleAction` returned its verdict and policy id. -/
def shadowVerdict (metrics : Struct) : Bool × String → Evaluation Bool
  | (allowed, effectivePolicyId) =>
    let perRuleStatsEnabled := f.config.perRuleStatsEnabled f.routeLocal
    let (stats, shadowResponseCode) :=
      if allowed then
        (.inc .shadowAllowed :: incPolicy perRuleStatsEnabled effectivePolicyId .policyShadowAllowed,
          keys.EngineResultAllowed)
      else
        (.inc .shadowDenied :: incPolicy perRuleStatsEnabled effectivePolicyId .policyShadowDenied,
          keys.EngineResultDenied)
    let metrics := if effectivePolicyId != "" then
        metrics.set (f.config.shadowEffectivePolicyIdField keys f.routeLocal) effectivePolicyId
      else metrics
    ⟨true, metrics.set (f.config.shadowEngineResultField keys f.routeLocal) shadowResponseCode, stats⟩

def evaluateShadowEngine (headers : Request) (metrics : Struct) : Evaluation Bool :=
  match f.config.engine f.routeLocal .Shadow with
  | none => ⟨false, metrics, []⟩
  | some shadowEngine => f.shadowVerdict keys metrics (shadowEngine.handleAction headers)

/-- `evaluateEnforcedEngine` after `handleAction` returned its verdict and policy id. -/
def enforcedVerdict (metrics : Struct) : Bool × String → Evaluation FilterHeadersStatus
  | (allowed, effectivePolicyId) =>
    let perRuleStatsEnabled := f.config.perRuleStatsEnabled f.routeLocal
    let logPolicyId := if effectivePolicyId != "" then effectivePolicyId else "none"
    let metrics := if effectivePolicyId != "" then
        metrics.set (f.config.enforcedEffectivePolicyIdField keys f.routeLocal) effectivePolicyId
      else metrics
    if allowed then
      ⟨.Continue,
        metrics.set (f.config.enforcedEngineResultField keys f.routeLocal) keys.EngineResultAllowed,
        .inc .allowed :: incPolicy perRuleStatsEnabled effectivePolicyId .policyAllowed⟩
    else
      ⟨.StopIteration,
        metrics.set (f.config.enforcedEngineResultField keys f.routeLocal) keys.EngineResultDenied,
        .sendLocalReply ⟨Forbidden, "RBAC: access denied", responseDetail logPolicyId⟩ ::
          .inc .denied :: incPolicy perRuleStatsEnabled effectivePolicyId .policyDenied⟩

def evaluateEnforcedEngine (headers : Request) (metrics : Struct) : Evaluation FilterHeadersStatus :=
  match f.config.engine f.routeLocal .Enforced with
  | none => ⟨.Continue, metrics, []⟩
  | some engine => f.enforcedVerdict keys responseDetail metrics (engine.handleAction headers)

def decodeHeaders (headers : Request) : FilterHeadersStatus × List Effect :=
  let shadow := f.evaluateShadowEngine keys headers Struct.empty
  let enforced := f.evaluateEnforcedEngine keys responseDetail headers shadow.metrics
  let enforcedEngineEvaluated :=
    enforced.result == .StopIteration || (f.config.engine f.routeLocal .Enforced).isSome
  let metadata := if shadow.result || enforcedEngineEvaluated then
      [.setDynamicMetadata "envoy.filters.http.rbac" enforced.metrics]
    else []
  (if enforced.result = .StopIteration then enforced.result else .Continue,
    shadow.effects ++ enforced.effects ++ metadata)

/-- What `handleAction` of the engine resolved for `mode` returns, if there is one. -/
def verdict (mode : EnforcementMode) (headers : Request) : Option (Bool × String) :=
  (f.config.engine f.routeLocal mode).map (·.handleAction headers)

@[simp] lemma incPolicy_localReplies (b : Bool) (id : String) (c : String → Counter) :
    localReplies (incPolicy b id c) = [] := by
  unfold incPolicy; split <;> rfl

@[simp] lemma incPolicy_metadataSets (b : Bool) (id : String) (c : String → Counter) :
    metadataSets (incPolicy b id c) = [] := by
  unfold incPolicy; split <;> rfl

@[simp] lemma isSome_verdict (mode : EnforcementMode) (headers : Request) :
    (f.verdict mode headers).isSome = (f.config.engine f.routeLocal mode).isSome := by
  simp [verdict]

lemma evaluateShadowEngine_eq (headers : Request) (metrics : Struct) :
    f.evaluateShadowEngine keys headers metrics =
      match f.verdict .Shadow headers with
      | none => ⟨false, metrics, []⟩
      | some v => f.shadowVerdict keys metrics v := by
  unfold evaluateShadowEngine verdict
  cases f.config.engine f.routeLocal .Shadow <;> rfl

lemma evaluateEnforcedEngine_eq (headers : Request) (metrics : Struct) :
    f.evaluateEnforcedEngine keys responseDetail headers metrics =
      match f.verdict .Enforced headers with
      | none => ⟨.Continue, metrics, []⟩
      | some v => f.enforcedVerdict keys responseDetail metrics v := by
  unfold evaluateEnforcedEngine verdict
  cases f.config.engine f.routeLocal .Enforced <;> rfl

section verdicts

variable (metrics : Struct) (allowed : Bool) (id : String)

@[simp] lemma shadowVerdict_localReplies :
    localReplies (f.shadowVerdict keys metrics (allowed, id)).effects = [] := by
  cases allowed <;> simp [shadowVerdict]

@[simp] lemma shadowVerdict_metadataSets :
    metadataSets (f.shadowVerdict keys metrics (allowed, id)).effects = [] := by
  cases allowed <;> simp [shadowVerdict]

@[simp] lemma enforcedVerdict_localReplies :
    localReplies (f.enforcedVerdict keys responseDetail metrics (allowed, id)).effects =
      if allowed then [] else
        [⟨Forbidden, "RBAC: access denied", responseDetail (if id != "" then id else "none")⟩] := by
  cases allowed <;> simp [enforcedVerdict]

@[simp] lemma enforcedVerdict_metadataSets :
    metadataSets (f.enforcedVerdict keys responseDetail metrics (allowed, id)).effects = [] := by
  cases allowed <;> simp [enforcedVerdict]

/-- A shadow evaluation increments the aggregate counter of its verdict, and the per-policy one
when `incPolicy` lets it. -/
@[simp] lemma counterValue_shadowVerdict (c : Counter) :
    counterValue c (f.shadowVerdict keys metrics (allowed, id)).effects =
      (if (if allowed then .shadowAllowed else .shadowDenied) = c then 1 else 0) +
        counterValue c (incPolicy (f.config.perRuleStatsEnabled f.routeLocal) id
          (if allowed then .policyShadowAllowed else .policyShadowDenied)) := by
  cases allowed <;> simp [shadowVerdict]

@[simp] lemma counterValue_enforcedVerdict (c : Counter) :
    counterValue c (f.enforcedVerdict keys responseDetail metrics (allowed, id)).effects =
      (if (if allowed then .allowed else .denied) = c then 1 else 0) +
        counterValue c (incPolicy (f.config.perRuleStatsEnabled f.routeLocal) id
          (if allowed then .policyAllowed else .policyDenied)) := by
  cases allowed <;> simp [enforcedVerdict]

lemma shadowVerdict_lookup (k : String) :
    (f.shadowVerdict keys metrics (allowed, id)).metrics.lookup k =
      if k = f.config.shadowEngineResultField keys f.routeLocal then
        some (if allowed then keys.EngineResultAllowed else keys.EngineResultDenied)
      else if k = f.config.shadowEffectivePolicyIdField keys f.routeLocal ∧ id ≠ "" then some id
      else metrics.lookup k := by
  by_cases hid : id = "" <;> cases allowed <;> simp [shadowVerdict, hid]

lemma enforcedVerdict_lookup (k : String) :
    (f.enforcedVerdict keys responseDetail metrics (allowed, id)).metrics.lookup k =
      if k = f.config.enforcedEngineResultField keys f.routeLocal then
        some (if allowed then keys.EngineResultAllowed else keys.EngineResultDenied)
      else if k = f.config.enforcedEffectivePolicyIdField keys f.routeLocal ∧ id ≠ "" then some id
      else metrics.lookup k := by
  by_cases hid : id = "" <;> cases allowed <;> simp [enforcedVerdict, hid]

end verdicts

@[simp] lemma evaluateShadowEngine_localReplies (headers : Request) (metrics : Struct) :
    localReplies (f.evaluateShadowEngine keys headers metrics).effects = [] := by
  rw [evaluateShadowEngine_eq]
  rcases f.verdict .Shadow headers with _ | ⟨_, _⟩ <;> simp

@[simp] lemma evaluateShadowEngine_metadataSets (headers : Request) (metrics : Struct) :
    metadataSets (f.evaluateShadowEngine keys headers metrics).effects = [] := by
  rw [evaluateShadowEngine_eq]
  rcases f.verdict .Shadow headers with _ | ⟨_, _⟩ <;> simp

/-- The status is the enforced evaluation's: `decodeHeaders` only narrows it to two values
it already has. -/
lemma decodeHeaders_status (headers : Request) :
    (f.decodeHeaders keys responseDetail headers).1 =
      match f.verdict .Enforced headers with
      | some (false, _) => .StopIteration
      | _ => .Continue := by
  simp only [decodeHeaders, evaluateEnforcedEngine_eq]
  rcases f.verdict .Enforced headers with _ | ⟨_ | _, _⟩ <;> rfl

/-- The effects in the order they happen: shadow counters, then the enforced engine's
local reply and counters, then at most one `setDynamicMetadata`. -/
lemma decodeHeaders_effects (headers : Request) :
    (f.decodeHeaders keys responseDetail headers).2 =
      let shadow := f.evaluateShadowEngine keys headers Struct.empty
      let enforced := f.evaluateEnforcedEngine keys responseDetail headers shadow.metrics
      shadow.effects ++ enforced.effects ++
        if (f.verdict .Shadow headers).isSome || (f.verdict .Enforced headers).isSome then
          [.setDynamicMetadata "envoy.filters.http.rbac" enforced.metrics]
        else [] := by
  have hs : (f.evaluateShadowEngine keys headers Struct.empty).result =
      (f.config.engine f.routeLocal .Shadow).isSome := by
    unfold evaluateShadowEngine
    cases f.config.engine f.routeLocal .Shadow with
    | none => rfl
    | some e => obtain ⟨_, _⟩ := e.handleAction headers; rfl
  have he : ∀ m, ((f.evaluateEnforcedEngine keys responseDetail headers m).result ==
      .StopIteration || (f.config.engine f.routeLocal .Enforced).isSome) =
      (f.config.engine f.routeLocal .Enforced).isSome := by
    intro m
    unfold evaluateEnforcedEngine
    cases f.config.engine f.routeLocal .Enforced <;> simp
  simp only [decodeHeaders, hs, he, isSome_verdict]

end RoleBasedAccessControlFilter

end Rbac
