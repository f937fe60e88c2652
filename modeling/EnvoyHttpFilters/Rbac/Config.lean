import EnvoyHttpFilters.Common

/-!
# RBAC filter configuration

`RoleBasedAccessControlFilterConfig` and `RoleBasedAccessControlRouteSpecificFilterConfig`
(rbac_filter.h, rbac_filter.cc). A route-specific config, when the route has one,
replaces the filter-level config wholesale for engine selection and per-rule stats,
and field by field, only where non-empty, for the stat prefixes of metadata keys.

Engines are external: an engine is what `handleAction` returns for a request, its
verdict and the effective policy id it writes (empty when no policy matched). The
request stands for everything `handleAction` reads: connection, headers and stream
info. `DynamicMetadataKeysSingleton` is not part of the source, so its texts are a
parameter, constrained only by the one property the metadata map relies on.
-/

namespace Rbac

open EnvoyHttpFilters

universe u

variable {Request : Type u}

/-- `Filters::Common::RBAC::EnforcementMode`. -/
inductive EnforcementMode
  | Enforced
  | Shadow
  deriving DecidableEq, Repr

/-- An engine as the filter sees it: `handleAction` gives the verdict and the
effective policy id. -/
structure RoleBasedAccessControlEngine (Request : Type u) where
  handleAction : Request → Bool × String

/-- `engine(mode)` of both configs: `mode == Enforced ? engine_ : shadow_engine_`. -/
def engineOfMode (mode : EnforcementMode) (engine shadowEngine : Option α) : Option α :=
  if mode = .Enforced then engine else shadowEngine

structure RoleBasedAccessControlRouteSpecificFilterConfig (Request : Type u) where
  rulesStatPrefix : String
  shadowRulesStatPrefix : String
  enforcedEngine : Option (RoleBasedAccessControlEngine Request)
  shadowEngine : Option (RoleBasedAccessControlEngine Request)
  perRuleStatsEnabled : Bool

def RoleBasedAccessControlRouteSpecificFilterConfig.engine
    (r : RoleBasedAccessControlRouteSpecificFilterConfig Request) (mode : EnforcementMode) :
    Option (RoleBasedAccessControlEngine Request) :=
  engineOfMode mode r.enforcedEngine r.shadowEngine

/-- The filter-level config without its `stats_`, which the filter threads as a log. -/
structure RoleBasedAccessControlFilterConfig (Request : Type u) where
  rulesStatPrefix : String
  shadowRulesStatPrefix : String
  perRuleStats : Bool
  enforcedEngine : Option (RoleBasedAccessControlEngine Request)
  shadowEngine : Option (RoleBasedAccessControlEngine Request)

/-- The route-specific config `resolveMostSpecificPerFilterConfig(callbacks)` finds. -/
abbrev RouteLocal (Request : Type u) := Option (RoleBasedAccessControlRouteSpecificFilterConfig Request)

namespace RoleBasedAccessControlFilterConfig

variable (c : RoleBasedAccessControlFilterConfig Request) (routeLocal : RouteLocal Request)

def engine (mode : EnforcementMode) : Option (RoleBasedAccessControlEngine Request) :=
  match routeLocal with
  | some r => r.engine mode
  | none => engineOfMode mode c.enforcedEngine c.shadowEngine

def perRuleStatsEnabled : Bool :=
  match routeLocal with
  | some r => r.perRuleStatsEnabled
  | none => c.perRuleStats

end RoleBasedAccessControlFilterConfig

/-- Two keys are suffix-free when no pair of stat prefixes makes them equal. -/
def SuffixFree (a b : String) : Prop := ∀ p q : String, p ++ a ≠ q ++ b

lemma suffixFree_of_not_suffix {a b : String} (h₁ : ¬ a.data <:+ b.data)
    (h₂ : ¬ b.data <:+ a.data) : SuffixFree a b := by
  intro p q h
  have hb : b.data <:+ p.data ++ a.data := by
    rw [← String.data_append, h, String.data_append]
    exact List.suffix_append _ _
  rcases List.suffix_or_suffix_of_suffix (List.suffix_append p.data a.data) hb with h' | h'
  · exact h₁ h'
  · exact h₂ h'

/-- `Filters::Common::RBAC::DynamicMetadataKeysSingleton::get()`, as far as the filter reads
it. The four field keys are pairwise suffix-free and the two results differ. -/
structure DynamicMetadataKeys where
  ShadowEffectivePolicyIdField : String
  ShadowEngineResultField : String
  EnforcedEffectivePolicyIdField : String
  EnforcedEngineResultField : String
  EngineResultAllowed : String
  EngineResultDenied : String
  fields_suffix_free : [ShadowEffectivePolicyIdField, ShadowEngineResultField,
    EnforcedEffectivePolicyIdField, EnforcedEngineResultField].Pairwise SuffixFree
  allowed_ne_denied : EngineResultAllowed ≠ EngineResultDenied

/-- A key table named after the constants, for concrete runs. -/
def sampleKeys : DynamicMetadataKeys where
  ShadowEffectivePolicyIdField := "shadow_effective_policy_id"
  ShadowEngineResultField := "shadow_engine_result"
  EnforcedEffectivePolicyIdField := "enforced_effective_policy_id"
  EnforcedEngineResultField := "enforced_engine_result"
  EngineResultAllowed := "allowed"
  EngineResultDenied := "denied"
  fields_suffix_free := by
    simp only [List.pairwise_cons, List.mem_cons, List.mem_singleton, forall_eq_or_imp, forall_eq,
      List.not_mem_nil, false_implies, implies_true, List.Pairwise.nil, and_true]
    refine ⟨⟨?_, ?_, ?_⟩, ⟨?_, ?_⟩, ?_⟩ <;> exact suffixFree_of_not_suffix (by decide) (by decide)
  allowed_ne_denied := by decide

/-- `DEFINE_DYNAMIC_METADATA_STAT_KEY_GETTER`: the route-local prefix replaces `pfx`
unless it is empty, and the key is appended. -/
def dynamicMetadataStatKey (pfx : String)
    (routeLocalPrefixOverride : RoleBasedAccessControlRouteSpecificFilterConfig Request → String)
    (key : String) (routeLocal : RouteLocal Request) : String :=
  let p := match routeLocal with
    | some r => if routeLocalPrefixOverride r ≠ "" then routeLocalPrefixOverride r else pfx
    | none => pfx
  p ++ key

theorem dynamicMetadataStatKey_ne {k₁ k₂ : String} (h : SuffixFree k₁ k₂) (pfx₁ pfx₂ : String)
    (o₁ o₂ : RoleBasedAccessControlRouteSpecificFilterConfig Request → String)
    (routeLocal : RouteLocal Request) :
    dynamicMetadataStatKey pfx₁ o₁ k₁ routeLocal ≠ dynamicMetadataStatKey pfx₂ o₂ k₂ routeLocal :=
  h _ _

namespace RoleBasedAccessControlFilterConfig

variable (c : RoleBasedAccessControlFilterConfig Request) (keys : DynamicMetadataKeys)
  (routeLocal : RouteLocal Request)

def shadowEffectivePolicyIdField : String :=
  dynamicMetadataStatKey c.shadowRulesStatPrefix (·.shadowRulesStatPrefix)
    keys.ShadowEffectivePolicyIdField routeLocal

def shadowEngineResultField : String :=
  dynamicMetadataStatKey c.shadowRulesStatPrefix (·.shadowRulesStatPrefix)
    keys.ShadowEngineResultField routeLocal

def enforcedEffectivePolicyIdField : String :=
  dynamicMetadataStatKey c.rulesStatPrefix (·.rulesStatPrefix)
    keys.EnforcedEffectivePolicyIdField routeLocal

def enforcedEngineResultField : String :=
  dynamicMetadataStatKey c.rulesStatPrefix (·.rulesStatPrefix)
    keys.EnforcedEngineResultField routeLocal

end RoleBasedAccessControlFilterConfig

namespace DynamicMetadataKeys

variable (keys : DynamicMetadataKeys)

lemma fields_suffixFree :
    SuffixFree keys.ShadowEffectivePolicyIdField keys.ShadowEngineResultField ∧
    SuffixFree keys.ShadowEffectivePolicyIdField keys.EnforcedEffectivePolicyIdField ∧
    SuffixFree keys.ShadowEffectivePolicyIdField keys.EnforcedEngineResultField ∧
    SuffixFree keys.ShadowEngineResultField keys.EnforcedEffectivePolicyIdField ∧
    SuffixFree keys.ShadowEngineResultField keys.EnforcedEngineResultField ∧
    SuffixFree keys.EnforcedEffectivePolicyIdField keys.EnforcedEngineResultField := by
  have h := keys.fields_suffix_free
  simp only [List.pairwise_cons, List.mem_cons, List.mem_singleton, forall_eq_or_imp, forall_eq,
    List.not_mem_nil, false_implies, implies_true, List.Pairwise.nil, and_true] at h
  exact ⟨h.1.1, h.1.2.1, h.1.2.2, h.2.1.1, h.2.1.2, h.2.2⟩

end DynamicMetadataKeys

namespace RoleBasedAccessControlFilterConfig

variable (c : RoleBasedAccessControlFilterConfig Request) (keys : DynamicMetadataKeys)
  (routeLocal : RouteLocal Request)

/-- No two of the four metadata field names coincide, whatever the prefixes. -/
lemma fieldNames_ne :
    c.shadowEffectivePolicyIdField keys routeLocal ≠ c.shadowEngineResultField keys routeLocal ∧
    c.shadowEffectivePolicyIdField keys routeLocal ≠ c.enforcedEffectivePolicyIdField keys routeLocal ∧
    c.shadowEffectivePolicyIdField keys routeLocal ≠ c.enforcedEngineResultField keys routeLocal ∧
    c.shadowEngineResultField keys routeLocal ≠ c.enforcedEffectivePolicyIdField keys routeLocal ∧
    c.shadowEngineResultField keys routeLocal ≠ c.enforcedEngineResultField keys routeLocal ∧
    c.enforcedEffectivePolicyIdField keys routeLocal ≠ c.enforcedEngineResultField keys routeLocal := by
  obtain ⟨h₁, h₂, h₃, h₄, h₅, h₆⟩ := keys.fields_suffixFree
  exact ⟨dynamicMetadataStatKey_ne h₁ _ _ _ _ _, dynamicMetadataStatKey_ne h₂ _ _ _ _ _,
    dynamicMetadataStatKey_ne h₃ _ _ _ _ _, dynamicMetadataStatKey_ne h₄ _ _ _ _ _,
    dynamicMetadataStatKey_ne h₅ _ _ _ _ _, dynamicMetadataStatKey_ne h₆ _ _ _ _ _⟩

end RoleBasedAccessControlFilterConfig

/-- `ActionValidationVisitor::performDataInputValidation`; `allowedInputsSet` is
`allowed_inputs_set_`, whose type URLs come from descriptors outside the source. -/
def performDataInputValidation (allowedInputsSet : List String) (typeUrl : String) :
    Except String Unit :=
  if allowedInputsSet.contains typeUrl then .ok ()
  else .error ("RBAC HTTP filter cannot match on '" ++ typeUrl ++ "'")

end Rbac
