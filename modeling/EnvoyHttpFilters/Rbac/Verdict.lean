import EnvoyHttpFilters.Rbac.Filter

/-!
# What the RBAC filter decides, and what it records

The request is stopped with one `Forbidden` local reply exactly when the resolved
enforced engine exists and denies; the shadow engine never changes that outcome.
The metadata the filter records agrees with the status it returns, although
`decodeHeaders` re-resolves the enforced engine for the purpose. The metadata
is set only after the local reply has been sent.
-/

namespace Rbac

open EnvoyHttpFilters

universe u

variable {Request : Type u}

namespace RoleBasedAccessControlFilter

variable (keys : DynamicMetadataKeys) (responseDetail : String → String)

/-- The local reply `evaluateEnforcedEngine` sends for an engine that denied with `id`. -/
def forbiddenReply (id : String) : LocalReply :=
  ⟨Forbidden, "RBAC: access denied", responseDetail (if id != "" then id else "none")⟩

/-- Status and local replies depend on the enforced verdict alone. -/
lemma decodeHeaders_outcome (f : RoleBasedAccessControlFilter Request) (headers : Request) :
    ((f.decodeHeaders keys responseDetail headers).1,
        localReplies (f.decodeHeaders keys responseDetail headers).2) =
      match f.verdict .Enforced headers with
      | some (false, id) => (.StopIteration, [forbiddenReply responseDetail id])
      | _ => (.Continue, []) := by
  simp only [decodeHeaders_status, decodeHeaders_effects, evaluateShadowEngine_eq,
    evaluateEnforcedEngine_eq]
  rcases f.verdict .Shadow headers with _ | ⟨_, _⟩ <;>
    rcases f.verdict .Enforced headers with _ | ⟨_ | _, _⟩ <;> simp [forbiddenReply]

lemma verdict_enforced (f : RoleBasedAccessControlFilter Request) (headers : Request) :
    f.verdict .Enforced headers =
      (match f.routeLocal with
        | some route => route.enforcedEngine
        | none => f.config.enforcedEngine).map
        (fun e : RoleBasedAccessControlEngine Request => e.handleAction headers) := by
  obtain ⟨_, _ | _⟩ := f <;> rfl

lemma outcome_forbidden_iff {status : FilterHeadersStatus} {replies : List LocalReply}
    {engine : Option (RoleBasedAccessControlEngine Request)} {headers : Request}
    (h : (status, replies) =
      match engine.map (fun e : RoleBasedAccessControlEngine Request => e.handleAction headers) with
      | some (false, id) => (.StopIteration, [forbiddenReply responseDetail id])
      | _ => (.Continue, [])) :
    ((status = .StopIteration ∧ ∃ details, replies = [⟨Forbidden, "RBAC: access denied", details⟩]) ↔
      ∃ e, engine = some e ∧ (e.handleAction headers).1 = false) ∧
    ((¬ ∃ e, engine = some e ∧ (e.handleAction headers).1 = false) →
      status = .Continue ∧ replies = []) := by
  rcases engine with _ | e
  · simp_all
  · rcases hd : e.handleAction headers with ⟨_ | _, _⟩ <;> simp_all [forbiddenReply]

theorem decodeHeaders_forbidden_iff_enforced_denies
    (config : RoleBasedAccessControlFilterConfig Request) (routeLocal : RouteLocal Request)
    (headers : Request) :
    let f : RoleBasedAccessControlFilter Request := ⟨config, routeLocal⟩
    let r := f.decodeHeaders keys responseDetail headers
    let enforcedEngine := match routeLocal with
      | some route => route.enforcedEngine
      | none => config.enforcedEngine
    ((r.1 = .StopIteration ∧
        ∃ details, localReplies r.2 = [⟨Forbidden, "RBAC: access denied", details⟩]) ↔
      ∃ e, enforcedEngine = some e ∧ (e.handleAction headers).1 = false) ∧
    ((¬ ∃ e, enforcedEngine = some e ∧ (e.handleAction headers).1 = false) →
      r.1 = .Continue ∧ localReplies r.2 = []) ∧
    ∀ (g : RoleBasedAccessControlFilter Request) (headers' : Request),
      g.verdict .Enforced headers' = f.verdict .Enforced headers →
      (g.decodeHeaders keys responseDetail headers').1 = r.1 ∧
      localReplies (g.decodeHeaders keys responseDetail headers').2 = localReplies r.2 := by
  intro f r enforcedEngine
  have hf := decodeHeaders_outcome keys responseDetail f headers
  rw [verdict_enforced] at hf
  refine ⟨(outcome_forbidden_iff responseDetail hf).1, (outcome_forbidden_iff responseDetail hf).2,
    fun g headers' hg => ?_⟩
  have hg' := decodeHeaders_outcome keys responseDetail g headers'
  rw [hg, ← decodeHeaders_outcome keys responseDetail f headers] at hg'
  exact Prod.mk.inj hg'

lemma decodeHeaders_metadataSets (f : RoleBasedAccessControlFilter Request) (headers : Request) :
    metadataSets (f.decodeHeaders keys responseDetail headers).2 =
      if (f.verdict .Shadow headers).isSome || (f.verdict .Enforced headers).isSome then
        [("envoy.filters.http.rbac", (f.evaluateEnforcedEngine keys responseDetail headers
          (f.evaluateShadowEngine keys headers Struct.empty).metrics).metrics)]
      else [] := by
  simp only [decodeHeaders_effects, evaluateShadowEngine_eq, evaluateEnforcedEngine_eq]
  rcases f.verdict .Shadow headers with _ | ⟨_, _⟩ <;>
    rcases f.verdict .Enforced headers with _ | ⟨_, _⟩ <;> simp

theorem decodeHeaders_metadata_records_verdicts (f : RoleBasedAccessControlFilter Request)
    (headers : Request) :
    let r := f.decodeHeaders keys responseDetail headers
    let shadowEngine := match f.routeLocal with
      | some route => route.shadowEngine
      | none => f.config.shadowEngine
    let enforcedEngine := match f.routeLocal with
      | some route => route.enforcedEngine
      | none => f.config.enforcedEngine
    let fieldName := fun (filterPrefix : String)
        (routePrefix : RoleBasedAccessControlRouteSpecificFilterConfig Request → String)
        (key : String) =>
      (match f.routeLocal with
        | some route => if routePrefix route ≠ "" then routePrefix route else filterPrefix
        | none => filterPrefix) ++ key
    let shadowResult := fieldName f.config.shadowRulesStatPrefix (·.shadowRulesStatPrefix)
      keys.ShadowEngineResultField
    let shadowId := fieldName f.config.shadowRulesStatPrefix (·.shadowRulesStatPrefix)
      keys.ShadowEffectivePolicyIdField
    let enforcedResult := fieldName f.config.rulesStatPrefix (·.rulesStatPrefix)
      keys.EnforcedEngineResultField
    let enforcedId := fieldName f.config.rulesStatPrefix (·.rulesStatPrefix)
      keys.EnforcedEffectivePolicyIdField
    (shadowEngine = none ∧ enforcedEngine = none → metadataSets r.2 = []) ∧
    (shadowEngine.isSome ∨ enforcedEngine.isSome →
      ∃ m, metadataSets r.2 = [("envoy.filters.http.rbac", m)] ∧
      (∀ e, enforcedEngine = some e →
        m.lookup enforcedResult = some (if r.1 = .StopIteration then keys.EngineResultDenied
          else keys.EngineResultAllowed) ∧
        m.lookup enforcedId = if (e.handleAction headers).2 = "" then none
          else some (e.handleAction headers).2) ∧
      (∀ e, shadowEngine = some e →
        m.lookup shadowResult = some (if (e.handleAction headers).1 then keys.EngineResultAllowed
          else keys.EngineResultDenied) ∧
        m.lookup shadowId = if (e.handleAction headers).2 = "" then none
          else some (e.handleAction headers).2) ∧
      ∀ k, m.lookup k ≠ none →
        (enforcedEngine.isSome ∧ (k = enforcedResult ∨ k = enforcedId)) ∨
        (shadowEngine.isSome ∧ (k = shadowResult ∨ k = shadowId))) := by
  intro r shadowEngine enforcedEngine fieldName shadowResult shadowId enforcedResult enforcedId
  have hs : f.verdict .Shadow headers =
      shadowEngine.map (fun e : RoleBasedAccessControlEngine Request => e.handleAction headers) := by
    obtain ⟨_, _ | _⟩ := f <;> rfl
  have he : f.verdict .Enforced headers =
      enforcedEngine.map (fun e : RoleBasedAccessControlEngine Request => e.handleAction headers) :=
    verdict_enforced f headers
  have e₁ : shadowResult = f.config.shadowEngineResultField keys f.routeLocal := rfl
  have e₂ : shadowId = f.config.shadowEffectivePolicyIdField keys f.routeLocal := rfl
  have e₃ : enforcedResult = f.config.enforcedEngineResultField keys f.routeLocal := rfl
  have e₄ : enforcedId = f.config.enforcedEffectivePolicyIdField keys f.routeLocal := rfl
  have hr : r = f.decodeHeaders keys responseDetail headers := rfl
  clear_value r shadowEngine enforcedEngine fieldName shadowResult shadowId enforcedResult enforcedId
  subst e₁ e₂ e₃ e₄ hr
  obtain ⟨n₁, n₂, n₃, n₄, n₅, n₆⟩ := f.config.fieldNames_ne keys f.routeLocal
  rcases shadowEngine with _ | s <;> rcases enforcedEngine with _ | e <;>
    simp only [decodeHeaders_metadataSets, decodeHeaders_status, evaluateShadowEngine_eq,
      evaluateEnforcedEngine_eq, hs, he, Option.map_some', Option.map_none'] <;> clear hs he
  · simp
  · generalize hv : e.handleAction headers = v
    obtain ⟨_ | _, _⟩ := v <;> simp [enforcedVerdict_lookup, n₆, n₆.symm, hv] <;>
      intro k hk <;> contrapose! hk <;> simp [hk]
  · generalize hw : s.handleAction headers = w
    obtain ⟨_ | _, _⟩ := w <;> simp [shadowVerdict_lookup, n₁, n₁.symm, hw] <;>
      intro k hk <;> contrapose! hk <;> simp [hk]
  · generalize hv : e.handleAction headers = v
    generalize hw : s.handleAction headers = w
    obtain ⟨_ | _, _⟩ := v <;> obtain ⟨_ | _, _⟩ := w <;>
      simp [enforcedVerdict_lookup, shadowVerdict_lookup, n₁, n₁.symm, n₂, n₂.symm, n₃, n₃.symm,
        n₄, n₄.symm, n₅, n₅.symm, n₆, n₆.symm, hv, hw] <;>
      intro k hk <;> contrapose! hk <;> simp [hk]

/-- The order of effects on a denial, as the metadata readers during the local reply would
need it: the filter's metadata, with the enforced result `Denied`, is set before the first
local reply. -/
def VerdictSetBeforeLocalReply (f : RoleBasedAccessControlFilter Request) (log : List Effect) :
    Prop :=
  ∃ m, ("envoy.filters.http.rbac", m) ∈ metadataSets (log.takeWhile (·.localReply?.isNone)) ∧
    m.lookup (f.config.enforcedEngineResultField keys f.routeLocal) = some keys.EngineResultDenied

/-- The filter whose only engine, the enforced one, denies every request. -/
def denyAllFilter : RoleBasedAccessControlFilter Unit :=
  ⟨⟨"", "", false, some ⟨fun _ => (false, "")⟩, none⟩, none⟩

theorem denyAllFilter_replies_before_metadata :
    denyAllFilter.verdict .Enforced () = some (false, "") ∧
    ¬ VerdictSetBeforeLocalReply sampleKeys denyAllFilter
      (denyAllFilter.decodeHeaders sampleKeys id ()).2 := by
  refine ⟨rfl, ?_⟩
  have h : (denyAllFilter.decodeHeaders sampleKeys id ()).2.takeWhile
      (·.localReply?.isNone) = [] := by decide
  rw [VerdictSetBeforeLocalReply, h]
  simp

/-- On a denial the local reply is sent first; the metadata, recording `Denied`, is set once
afterwards, as the last thing `decodeHeaders` does. -/
theorem decodeHeaders_sets_metadata_after_denial (f : RoleBasedAccessControlFilter Request)
    (headers : Request) (id : String) (h : f.verdict .Enforced headers = some (false, id)) :
    ∃ pre post m, (f.decodeHeaders keys responseDetail headers).2 =
        pre ++ .sendLocalReply (forbiddenReply responseDetail id) :: post ++
          [.setDynamicMetadata "envoy.filters.http.rbac" m] ∧
      localReplies pre = [] ∧ metadataSets pre = [] ∧
      localReplies post = [] ∧ metadataSets post = [] ∧
      m.lookup (f.config.enforcedEngineResultField keys f.routeLocal) =
        some keys.EngineResultDenied := by
  let shadow := f.evaluateShadowEngine keys headers Struct.empty
  refine ⟨shadow.effects,
    .inc .denied :: incPolicy (f.config.perRuleStatsEnabled f.routeLocal) id .policyDenied,
    (f.enforcedVerdict keys responseDetail shadow.metrics (false, id)).metrics, ?_,
    by simp [shadow], by simp [shadow], by simp, by simp, by simp [enforcedVerdict_lookup]⟩
  simp [decodeHeaders_effects, evaluateEnforcedEngine_eq, h, enforcedVerdict, forbiddenReply, shadow]

theorem denyAllFilter_sets_metadata_after_denial :
    denyAllFilter.verdict .Enforced () = some (false, "") ∧
    ∃ pre post m, (denyAllFilter.decodeHeaders sampleKeys id ()).2 =
        pre ++ .sendLocalReply (forbiddenReply id "") :: post ++
          [.setDynamicMetadata "envoy.filters.http.rbac" m] ∧
      localReplies pre = [] ∧ metadataSets pre = [] ∧
      localReplies post = [] ∧ metadataSets post = [] ∧
      m.lookup (denyAllFilter.config.enforcedEngineResultField sampleKeys denyAllFilter.routeLocal) =
        some sampleKeys.EngineResultDenied :=
  ⟨rfl, decodeHeaders_sets_metadata_after_denial sampleKeys id denyAllFilter () "" rfl⟩

end RoleBasedAccessControlFilter

end Rbac
