import EnvoyHttpFilters.Lua.Route

/-!
# The two callback objects of the Lua filter

`DecoderCallbacks` and `EncoderCallbacks` (lua_filter.h): what a script reaches through the
`FilterCallbacks` handle of the request path and of the response path. Both forward body data
and continuation to the stream callbacks of their own direction. Only the decoder side
re-resolves the route and sets the upstream host override; the encoder side drops those calls.

The stream callbacks are external, so their part of the stream is kept as the state the calls
change: the buffered body and the continuations of each direction, and the upstream host
override. The route and `per_route_config_` are the stream of `Lua.Route`, changed by its own
`clearRouteCache` and `onHeadersModified`. `respond` and `metadata` are defined in
lua_filter.cc and are not modelled; `filterContext` and the other accessors change nothing.
-/

namespace Lua.Callbacks

open Lua.Route

/-- What the stream callbacks of one direction keep for the filter: the buffered body
(`decodingBuffer()` / `encodingBuffer()`, null until data is added) and how often
iteration was continued. -/
structure Side where
  buffer : Option String
  continued : Nat
  deriving DecidableEq, Repr

namespace Side

/-- `addDecodedData(data, false)` / `addEncodedData(data, false)`: the data joins the
buffered body, which is created if there is none. -/
def addData (s : Side) (data : String) : Side :=
  { s with buffer := some (s.buffer.getD "" ++ data) }

/-- `continueDecoding()` / `continueEncoding()`. -/
def continueIteration (s : Side) : Side := { s with continued := s.continued + 1 }

end Side

structure StreamState where
  stream : Stream
  upstreamOverrideHost : Option (String × Bool)
  decoding : Side
  encoding : Side
  deriving DecidableEq, Repr

/-- The `FilterCallbacks` calls whose bodies are in lua_filter.h and change something.
`downstream` is whether `downstreamCallbacks()` is present, and `next` the route the stream
resolves to once its route cache is cleared. -/
inductive Call
  | addData (data : String)
  | continueIteration
  | onHeadersModified (downstream : Bool) (next : Option FilterConfigPerRoute)
  | setUpstreamOverrideHost (host : String) (strict : Bool)
  | clearRouteCache (downstream : Bool) (next : Option FilterConfigPerRoute)
  deriving DecidableEq, Repr

def DecoderCallbacks.call (s : StreamState) : Call → StreamState
  | .addData data => { s with decoding := s.decoding.addData data }
  | .continueIteration => { s with decoding := s.decoding.continueIteration }
  | .onHeadersModified downstream next =>
    { s with stream := onHeadersModified s.stream .decode downstream next }
  | .setUpstreamOverrideHost host strict => { s with upstreamOverrideHost := some (host, strict) }
  | .clearRouteCache downstream next =>
    { s with stream := clearRouteCache s.stream .decode downstream next }

/-- `EncoderCallbacks`: `setUpstreamOverrideHost` ignores its argument. -/
def EncoderCallbacks.call (s : StreamState) : Call → StreamState
  | .addData data => { s with encoding := s.encoding.addData data }
  | .continueIteration => { s with encoding := s.encoding.continueIteration }
  | .onHeadersModified downstream next =>
    { s with stream := onHeadersModified s.stream .encode downstream next }
  | .setUpstreamOverrideHost _ _ => s
  | .clearRouteCache downstream next =>
    { s with stream := clearRouteCache s.stream .encode downstream next }

/-- A call through the callbacks object of direction `d`. -/
def FilterCallbacks.call (s : StreamState) : Direction → Call → StreamState
  | .decode => DecoderCallbacks.call s
  | .encode => EncoderCallbacks.call s

/-- The calls the request and response scripts make, in the order they happen. -/
def run (s : StreamState) : List (Direction × Call) → StreamState
  | [] => s
  | (d, c) :: cs => run (FilterCallbacks.call s d c) cs

/-- What the request path owns: the filter and its route, the upstream host override and the
decoding side. -/
def StreamState.requestSide (s : StreamState) : Stream × Option (String × Bool) × Side :=
  (s.stream, s.upstreamOverrideHost, s.decoding)

def StreamState.responseSide (s : StreamState) : Side := s.encoding

lemma encoder_requestSide (s : StreamState) (c : Call) :
    (EncoderCallbacks.call s c).requestSide = s.requestSide := by
  cases c <;> rfl

lemma decoder_responseSide (s : StreamState) (c : Call) :
    (DecoderCallbacks.call s c).responseSide = s.responseSide := by
  cases c <;> rfl

lemma decoder_requestSide_congr {s t : StreamState} (c : Call)
    (h : s.requestSide = t.requestSide) :
    (DecoderCallbacks.call s c).requestSide = (DecoderCallbacks.call t c).requestSide := by
  simp only [StreamState.requestSide, Prod.mk.injEq] at h
  cases c <;> simp [DecoderCallbacks.call, StreamState.requestSide, h]

lemma encoder_responseSide_congr {s t : StreamState} (c : Call)
    (h : s.responseSide = t.responseSide) :
    (EncoderCallbacks.call s c).responseSide = (EncoderCallbacks.call t c).responseSide := by
  cases c <;> simp_all [EncoderCallbacks.call, StreamState.responseSide]

/-- A part `p` of the stream that the other direction's calls leave alone, and that the calls
of direction `d` change only as a function of `p`, ends every run as the calls of `d` alone
leave it. -/
lemma run_proj_filter {α : Type} (p : StreamState → α) (d : Direction)
    (hother : ∀ s e c, e ≠ d → p (FilterCallbacks.call s e c) = p s)
    (hown : ∀ s t c, p s = p t → p (FilterCallbacks.call s d c) = p (FilterCallbacks.call t d c))
    (cs : List (Direction × Call)) (s t : StreamState) (hst : p s = p t) :
    p (run s cs) = p (run t (cs.filter (·.1 = d))) := by
  induction cs generalizing s t with
  | nil => exact hst
  | cons x cs ih =>
    obtain ⟨e, c⟩ := x
    by_cases he : e = d
    · subst he
      simpa [run, List.filter_cons] using ih _ _ (hown s t c hst)
    · simpa [run, List.filter_cons, he] using ih _ _ ((hother s e c he).trans hst)

/-- Over any interleaving of calls through the two callback objects, each side of the stream
ends as the calls of its own direction alone leave it: the response script can neither
re-resolve the route, nor override the upstream host, nor touch the request body or its
continuation, and the request script never touches the response side. -/
theorem run_separates_directions (s : StreamState) (cs : List (Direction × Call)) :
    (run s cs).requestSide = (run s (cs.filter (·.1 = .decode))).requestSide ∧
    (run s cs).responseSide = (run s (cs.filter (·.1 = .encode))).responseSide := by
  constructor
  · refine run_proj_filter _ .decode (fun s e c he => ?_)
      (fun _ _ c h => decoder_requestSide_congr c h) cs s s rfl
    cases e with
    | decode => exact absurd rfl he
    | encode => exact encoder_requestSide s c
  · refine run_proj_filter _ .encode (fun s e c he => ?_)
      (fun _ _ c h => encoder_responseSide_congr c h) cs s s rfl
    cases e with
    | decode => exact decoder_responseSide s c
    | encode => exact absurd rfl he

end Lua.Callbacks
