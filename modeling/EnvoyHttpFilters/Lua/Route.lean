import EnvoyHttpFilters.Common

/-!
# Per-route script selection in the Lua filter

`Filter::getPerLuaCodeSetup` and `Filter::filterContext` (lua_filter.h), run against a
stream whose route can be re-resolved between the request and the response. The route
is re-resolved when another filter of the chain clears the route cache, or when the
script's decoder-side callbacks do, at its request or after it modified headers with
`clear_route_cache` set; the encoder side never does. `getPerLuaCodeSetup` refreshes
`per_route_config_` from the current route at every header event while decoder callbacks
are set, so the cache it keeps is read only by `filterContext` between header events, or
when there are no decoder callbacks.
-/

namespace Lua.Route

open EnvoyHttpFilters

/-- A loaded script, `PerLuaCodeSetup`, named by the code it was loaded from. -/
structure PerLuaCodeSetup where
  luaCode : String
  deriving DecidableEq, Repr

structure FilterConfig where
  clearRouteCache : Bool
  defaultLuaCodeSetup : Option PerLuaCodeSetup
  perLuaCodeSetupsMap : List (String × PerLuaCodeSetup)
  deriving DecidableEq, Repr

def FilterConfig.perLuaCodeSetup (c : FilterConfig) : Option String → Option PerLuaCodeSetup
  | none => c.defaultLuaCodeSetup
  | some name => c.perLuaCodeSetupsMap.lookup name

structure FilterConfigPerRoute where
  disabled : Bool
  name : String
  perLuaCodeSetup : Option PerLuaCodeSetup
  filterContext : Struct
  deriving DecidableEq, Repr

/-- The part of `Filter` these functions use: `config_`, `per_route_config_`, and whether
`decoder_callbacks_.callbacks_` is set. -/
structure Filter where
  config : FilterConfig
  perRouteConfig : Option FilterConfigPerRoute
  decoderCallbacksSet : Bool
  deriving DecidableEq, Repr

/-- The script `getPerLuaCodeSetup` picks once `per_route_config_` is settled. -/
def scriptFor (config : FilterConfig) : Option FilterConfigPerRoute → Option PerLuaCodeSetup
  | some perRoute =>
    if perRoute.disabled then none
    else if perRoute.name ≠ "" then config.perLuaCodeSetup (some perRoute.name)
    else match perRoute.perLuaCodeSetup with
      | some inlineCode => some inlineCode
      | none => config.perLuaCodeSetup none
  | none => config.perLuaCodeSetup none

namespace Filter

/-- `getPerLuaCodeSetup`; `resolved` is what `resolveMostSpecificPerFilterConfig` finds
through the decoder callbacks now. -/
def getPerLuaCodeSetup (f : Filter) (resolved : Option FilterConfigPerRoute) :
    Filter × Option PerLuaCodeSetup :=
  let f := if f.decoderCallbacksSet then { f with perRouteConfig := resolved } else f
  (f, scriptFor f.config f.perRouteConfig)

def filterContext (f : Filter) : Struct :=
  match f.perRouteConfig with
  | none => Struct.empty
  | some perRoute => perRoute.filterContext

end Filter

/-- The filter and the route the stream is currently resolved to. -/
structure Stream where
  filter : Filter
  route : Option FilterConfigPerRoute
  deriving DecidableEq, Repr

inductive Direction
  | decode
  | encode
  deriving DecidableEq, Repr

inductive Event
  | decodeHeaders
  | encodeHeaders
  /-- The script calls `clearRouteCache` through the callbacks of `direction`; `next` is
  the route the stream is resolved to afterwards. -/
  | clearRouteCache (direction : Direction) (downstreamCallbacks : Bool)
      (next : Option FilterConfigPerRoute)
  /-- The script modified headers and `onHeadersModified` runs. -/
  | headersModified (direction : Direction) (downstreamCallbacks : Bool)
      (next : Option FilterConfigPerRoute)
  /-- Another filter of the chain clears the stream's route cache; the stream is resolved to
  `next` afterwards. -/
  | routeCacheCleared (next : Option FilterConfigPerRoute)
  deriving DecidableEq, Repr

/-- `DecoderCallbacks::clearRouteCache` re-resolves the route when downstream callbacks
exist; `EncoderCallbacks::clearRouteCache` does nothing. Without decoder callbacks the source
reads `downstreamCallbacks()` through a null `callbacks_`; the model then changes nothing. -/
def clearRouteCache (s : Stream) (direction : Direction) (downstreamCallbacks : Bool)
    (next : Option FilterConfigPerRoute) : Stream :=
  match direction with
  | .decode =>
    if s.filter.decoderCallbacksSet && downstreamCallbacks then { s with route := next } else s
  | .encode => s

/-- `DecoderCallbacks::onHeadersModified` clears the route cache only with `clear_route_cache`
set and downstream callbacks present; `EncoderCallbacks::onHeadersModified` does nothing. With
`clear_route_cache` set and no decoder callbacks the source dereferences a null `callbacks_`;
the model then changes nothing. -/
def onHeadersModified (s : Stream) (direction : Direction) (downstreamCallbacks : Bool)
    (next : Option FilterConfigPerRoute) : Stream :=
  match direction with
  | .decode =>
    if !s.filter.config.clearRouteCache || !s.filter.decoderCallbacksSet || !downstreamCallbacks
    then s
    else { s with route := next }
  | .encode => s

/-- One event; a header event also reports the script it selected. -/
def step (s : Stream) : Event → Stream × Option (Option PerLuaCodeSetup)
  | .decodeHeaders | .encodeHeaders =>
    let (f, setup) := s.filter.getPerLuaCodeSetup s.route
    ({ s with filter := f }, some setup)
  | .clearRouteCache direction downstream next =>
    (clearRouteCache s direction downstream next, none)
  | .headersModified direction downstream next =>
    (onHeadersModified s direction downstream next, none)
  | .routeCacheCleared next => ({ s with route := next }, none)

def run (s : Stream) : List Event → Stream × List (Option PerLuaCodeSetup)
  | [] => (s, [])
  | e :: es =>
    ((run (step s e).1 es).1, (step s e).2.toList ++ (run (step s e).1 es).2)

@[simp] lemma run_nil (s : Stream) : run s [] = (s, []) := rfl

@[simp] lemma run_cons (s : Stream) (e : Event) (es : List Event) :
    run s (e :: es) = ((run (step s e).1 es).1, (step s e).2.toList ++ (run (step s e).1 es).2) :=
  rfl

/-- The route `getPerLuaCodeSetup` settles on at a header event. -/
def Stream.resolved (s : Stream) : Option FilterConfigPerRoute :=
  if s.filter.decoderCallbacksSet then s.route else s.filter.perRouteConfig

/-- A header event settles `per_route_config_` and selects the script for it. -/
lemma step_headers (s : Stream) (e : Event) (he : e = .decodeHeaders ∨ e = .encodeHeaders) :
    step s e = ({ s with filter := { s.filter with perRouteConfig := s.resolved } },
      some (scriptFor s.filter.config s.resolved)) := by
  obtain ⟨⟨_, _, _ | _⟩, _⟩ := s <;> rcases he with rfl | rfl <;> rfl

/-- Re-resolving the route leaves the filter, so also `per_route_config_`, as it was. -/
lemma step_filter_of_route_event (s : Stream) (e : Event)
    (he : e ≠ .decodeHeaders ∧ e ≠ .encodeHeaders) : (step s e).1.filter = s.filter := by
  cases e with
  | decodeHeaders => exact absurd rfl he.1
  | encodeHeaders => exact absurd rfl he.2
  | clearRouteCache d b next => cases d <;> simp [step, clearRouteCache, apply_ite Stream.filter]
  | headersModified d b next => cases d <;> simp [step, onHeadersModified, apply_ite Stream.filter]
  | routeCacheCleared next => rfl

lemma run_filter_of_route_events (s : Stream) (es : List Event)
    (hes : ∀ e ∈ es, e ≠ .decodeHeaders ∧ e ≠ .encodeHeaders) : (run s es).1.filter = s.filter := by
  induction es generalizing s with
  | nil => rfl
  | cons e es ih =>
    simp only [run_cons]
    rw [ih _ (fun e' h' => hes e' (List.mem_cons_of_mem _ h')),
      step_filter_of_route_event s e (hes e (List.mem_cons_self _ _))]

/-- A stream whose route disables the filter and whose filter has a default script. -/
def disabledRouteStream : Stream :=
  ⟨⟨⟨false, some ⟨"default"⟩, []⟩, none, true⟩, some ⟨true, "", none, ⟨[("k", "v")]⟩⟩⟩

/-- Another filter clears the route cache during the request and the new route has no Lua
config: the response then runs the default script, and the filter context changes,
although the route at request time disabled the filter. -/
theorem disabledRouteStream_encode_runs_default :
    let decoded := (step disabledRouteStream .decodeHeaders).1
    let es := [Event.decodeHeaders, .routeCacheCleared none, .encodeHeaders]
    (run disabledRouteStream es).2 =
        [scriptFor disabledRouteStream.filter.config decoded.filter.perRouteConfig,
          some ⟨"default"⟩] ∧
      scriptFor disabledRouteStream.filter.config decoded.filter.perRouteConfig = none ∧
      (run disabledRouteStream es).1.filter.filterContext ≠ decoded.filter.filterContext := by
  decide

/-- Between the request and the response `per_route_config_`, and so `filterContext()`, keeps
the value settled at `decodeHeaders`; `encodeHeaders` settles it again from the route in
force at that time and selects that route's script. -/
theorem encodeHeaders_follows_route_at_response (s : Stream) (mid : List Event)
    (hcb : s.filter.decoderCallbacksSet = true)
    (hmid : ∀ e ∈ mid, e ≠ .decodeHeaders ∧ e ≠ .encodeHeaders) :
    let decoded := (step s .decodeHeaders).1
    let beforeEncode := (run decoded mid).1
    decoded.filter.perRouteConfig = s.route ∧
    (∀ k, (run decoded (mid.take k)).1.filter.filterContext = decoded.filter.filterContext) ∧
    (step beforeEncode .encodeHeaders).2 = some (scriptFor s.filter.config beforeEncode.route) ∧
    (step beforeEncode .encodeHeaders).1.filter.perRouteConfig = beforeEncode.route := by
  intro decoded beforeEncode
  have hdec : decoded.filter = { s.filter with perRouteConfig := s.route } := by
    simp [decoded, step_headers, Stream.resolved, hcb]
  have henc : beforeEncode.filter = decoded.filter :=
    run_filter_of_route_events decoded mid hmid
  refine ⟨by rw [hdec], fun k => ?_, ?_⟩
  · rw [run_filter_of_route_events _ _ fun e h => hmid e (List.mem_of_mem_take h)]
  · rw [step_headers _ _ (.inr rfl)]
    simp [Stream.resolved, henc, hdec, hcb]

theorem disabledRouteStream_encode_follows_route :
    let s := disabledRouteStream
    let mid := [Event.routeCacheCleared none]
    let decoded := (step s .decodeHeaders).1
    let beforeEncode := (run decoded mid).1
    (s.filter.decoderCallbacksSet = true ∧ ∀ e ∈ mid, e ≠ .decodeHeaders ∧ e ≠ .encodeHeaders) ∧
    decoded.filter.perRouteConfig = s.route ∧
    (∀ k, (run decoded (mid.take k)).1.filter.filterContext = decoded.filter.filterContext) ∧
    (step beforeEncode .encodeHeaders).2 = some (scriptFor s.filter.config beforeEncode.route) ∧
    (step beforeEncode .encodeHeaders).1.filter.perRouteConfig = beforeEncode.route :=
  ⟨⟨rfl, by decide⟩, encodeHeaders_follows_route_at_response disabledRouteStream
    [Event.routeCacheCleared none] rfl (by decide)⟩

end Lua.Route
