import Mathlib.Data.List.Nodup

/-!
# The stream handle's reset latch

`StreamHandleWrapper::onReset` and `resumeCoroutine` (lua_filter.h). Every resumption of
the coroutine, for data, trailers and call completions alike, goes through
`resumeCoroutine`, as the field comment on `coroutine_` requires, so a run is any
interleaving of resets, resumptions, outbound calls and their completions. The coroutine
and the async client are external: the handle's effects on them are the cancellations it
asks for and the resumptions it performs. Requests are numbered in the order the async
client creates them.
-/

namespace Lua.StreamHandle

/-- The fields of `StreamHandleWrapper` that `onReset` and `resumeCoroutine` use:
`on_reset_called_` and `http_request_`. -/
structure StreamHandleWrapper where
  onResetCalled : Bool
  httpRequest : Option Nat
  deriving DecidableEq, Repr

inductive Effect
  /-- `http_request_->cancel()` on the pointer it was called through. -/
  | cancel (request : Option Nat)
  /-- `coroutine_.resume(...)`. -/
  | resume
  deriving DecidableEq, Repr

/-- The pointers `cancel` was called through, in order. -/
def cancellations (out : List Effect) : List (Option Nat) :=
  out.filterMap fun
    | .cancel r => some r
    | .resume => none

@[simp] lemma cancellations_nil : cancellations [] = [] := rfl
@[simp] lemma cancellations_append (l₁ l₂ : List Effect) :
    cancellations (l₁ ++ l₂) = cancellations l₁ ++ cancellations l₂ := List.filterMap_append _ _ _
@[simp] lemma cancellations_cancel (r : Option Nat) : cancellations [.cancel r] = [r] := rfl
@[simp] lemma cancellations_resume : cancellations [.resume] = [] := rfl

namespace StreamHandleWrapper

def onReset (h : StreamHandleWrapper) : StreamHandleWrapper × List Effect :=
  match h.httpRequest with
  | some _ => ({ h with httpRequest := none, onResetCalled := true }, [.cancel h.httpRequest])
  | none => ({ h with onResetCalled := true }, [])

def resumeCoroutine (h : StreamHandleWrapper) : List Effect :=
  if !h.onResetCalled then [.resume] else []

end StreamHandleWrapper

/-- The handle together with the async client, which has created `sent` requests. -/
structure World where
  handle : StreamHandleWrapper
  sent : Nat

def World.initial : World := ⟨⟨false, none⟩, 0⟩

inductive Event
  | onReset
  | resumeCoroutine
  | httpCall (isAsyncRequest : Bool)
  /-- Modelled from the spec: the outstanding call completes, successfully or not (`onSuccess`
  and `onFailure`, defined in lua_filter.cc), and is no longer outstanding. The resumption that
  follows when the script was waiting for the call is a `resumeCoroutine` of its own. -/
  | httpCallComplete
  deriving DecidableEq, Repr

/-- Modelled from the spec: `doHttpCall` is not part of the source. The call creates a
new request; a synchronous call keeps it in `http_request_`, an asynchronous one hands
it `NoopCallbacks` and keeps nothing. -/
def doHttpCall (w : World) (isAsyncRequest : Bool) : World :=
  { handle := if isAsyncRequest then w.handle else { w.handle with httpRequest := some w.sent },
    sent := w.sent + 1 }

/-- A call keeps the outstanding request, or replaces it by the one it creates. -/
lemma doHttpCall_httpRequest (w : World) (isAsyncRequest : Bool) :
    (doHttpCall w isAsyncRequest).handle.httpRequest = w.handle.httpRequest ∨
      (doHttpCall w isAsyncRequest).handle.httpRequest = some w.sent := by
  cases isAsyncRequest <;> simp [doHttpCall]

@[simp] lemma doHttpCall_onResetCalled (w : World) (isAsyncRequest : Bool) :
    (doHttpCall w isAsyncRequest).handle.onResetCalled = w.handle.onResetCalled := by
  cases isAsyncRequest <;> rfl

def step (w : World) : Event → World × List Effect
  | .onReset => ({ w with handle := w.handle.onReset.1 }, w.handle.onReset.2)
  | .resumeCoroutine => (w, w.handle.resumeCoroutine)
  | .httpCall isAsyncRequest => (doHttpCall w isAsyncRequest, [])
  | .httpCallComplete => ({ w with handle := { w.handle with httpRequest := none } }, [])

def run (w : World) : List Event → World × List Effect
  | [] => (w, [])
  | e :: es => ((run (step w e).1 es).1, (step w e).2 ++ (run (step w e).1 es).2)

@[simp] lemma run_nil (w : World) : run w [] = (w, []) := rfl

@[simp] lemma run_cons (w : World) (e : Event) (es : List Event) :
    run w (e :: es) = ((run (step w e).1 es).1, (step w e).2 ++ (run (step w e).1 es).2) := rfl

lemma run_append (w : World) (es₁ es₂ : List Event) :
    run w (es₁ ++ es₂) =
      ((run (run w es₁).1 es₂).1, (run w es₁).2 ++ (run (run w es₁).1 es₂).2) := by
  induction es₁ generalizing w with
  | nil => simp
  | cons e es₁ ih => simp [ih]

/-- `onReset` cancels the request outstanding at that moment, once, and clears it. -/
lemma step_onReset (w : World) :
    step w .onReset =
      ({ w with handle := ⟨true, none⟩ },
        match w.handle.httpRequest with
        | some r => [.cancel (some r)]
        | none => []) := by
  obtain ⟨⟨_, _ | _⟩, _⟩ := w <;> rfl

lemma step_latch (w : World) (e : Event) (h : w.handle.onResetCalled = true) :
    (step w e).1.handle.onResetCalled = true ∧ Effect.resume ∉ (step w e).2 := by
  cases e with
  | onReset => simp [step_onReset]; split <;> simp
  | resumeCoroutine => simp [step, StreamHandleWrapper.resumeCoroutine, h]
  | httpCall a => simp [step, h]
  | httpCallComplete => simp [step, h]

/-- Once the latch is set it stays set, and nothing after it resumes the coroutine. -/
lemma run_latch (w : World) (es : List Event) (h : w.handle.onResetCalled = true) :
    (run w es).1.handle.onResetCalled = true ∧ Effect.resume ∉ (run w es).2 := by
  induction es generalizing w with
  | nil => simp [h]
  | cons e es ih =>
    obtain ⟨h₁, h₂⟩ := step_latch w e h
    obtain ⟨ih₁, ih₂⟩ := ih _ h₁
    simp [ih₁, ih₂, h₂]

/-- What a run has done to the requests so far, given the pointers it cancelled: every
cancellation names a request that exists, none is cancelled twice or null, and the
outstanding request has not been cancelled. -/
structure CancelInv (w : World) (cancelled : List (Option Nat)) : Prop where
  cancelled_lt : ∀ r, some r ∈ cancelled → r < w.sent
  outstanding_lt : ∀ r, w.handle.httpRequest = some r → r < w.sent
  outstanding_fresh : ∀ r, w.handle.httpRequest = some r → some r ∉ cancelled
  no_null : none ∉ cancelled
  nodup : cancelled.Nodup

lemma cancelInv_initial : CancelInv World.initial [] :=
  ⟨by simp, by simp [World.initial], by simp, by simp, by simp⟩

lemma cancelInv_step (w : World) (cancelled : List (Option Nat)) (e : Event)
    (h : CancelInv w cancelled) :
    CancelInv (step w e).1 (cancelled ++ cancellations (step w e).2) := by
  cases e with
  | onReset =>
    rw [step_onReset]
    rcases hr : w.handle.httpRequest with _ | r
    · exact ⟨by simpa using h.cancelled_lt, by simp, by simp, by simpa using h.no_null,
        by simpa using h.nodup⟩
    · refine ⟨?_, by simp, by simp, by simpa using h.no_null, ?_⟩
      · simp only [cancellations_cancel, List.mem_append, List.mem_singleton, Option.some.injEq]
        rintro r' (h' | rfl)
        · exact h.cancelled_lt r' h'
        · exact h.outstanding_lt r' hr
      · simpa using List.nodup_append.2 ⟨h.nodup, List.nodup_singleton _,
          List.disjoint_singleton.2 (h.outstanding_fresh r hr)⟩
  | resumeCoroutine =>
    simp only [step, StreamHandleWrapper.resumeCoroutine]
    split <;> simpa using h
  | httpCall a =>
    simp only [step, cancellations_nil, List.append_nil]
    refine ⟨fun r hr => Nat.lt_succ_of_lt (h.cancelled_lt r hr), fun r hr => ?_, fun r hr => ?_,
      h.no_null, h.nodup⟩ <;>
      rcases doHttpCall_httpRequest w a with hq | hq <;> rw [hq] at hr
    · exact Nat.lt_succ_of_lt (h.outstanding_lt r hr)
    · exact Option.some.inj hr ▸ Nat.lt_succ_self _
    · exact h.outstanding_fresh r hr
    · exact Option.some.inj hr ▸ fun hc => Nat.lt_irrefl _ (h.cancelled_lt _ hc)
  | httpCallComplete =>
    simp only [step, cancellations_nil, List.append_nil]
    exact ⟨h.cancelled_lt, by simp, by simp, h.no_null, h.nodup⟩

lemma cancelInv_run (w : World) (cancelled : List (Option Nat)) (es : List Event)
    (h : CancelInv w cancelled) :
    CancelInv (run w es).1 (cancelled ++ cancellations (run w es).2) := by
  induction es generalizing w cancelled with
  | nil => simpa using h
  | cons e es ih => simpa using ih _ _ (cancelInv_step w cancelled e h)

theorem run_onReset_latches_and_cancels_once (es : List Event) :
    let out := (run World.initial es).2
    (∀ pre post, es = pre ++ .onReset :: post →
      let before := run World.initial pre
      let after := (run World.initial (pre ++ [.onReset])).1
      after.handle.httpRequest = none ∧
      (∃ rest, out = before.2 ++
          (match before.1.handle.httpRequest with
            | some r => [.cancel (some r)]
            | none => []) ++ rest ∧
        Effect.resume ∉ rest) ∧
      ∀ k, pre.length < k → (run World.initial (es.take k)).1.handle.onResetCalled = true) ∧
    (cancellations out).Nodup ∧ none ∉ cancellations out := by
  intro out
  have hinv := cancelInv_run World.initial [] es cancelInv_initial
  refine ⟨fun pre post hes => ?_, by simpa using hinv.nodup, by simpa using hinv.no_null⟩
  intro before after
  have hsplit : es = (pre ++ [.onReset]) ++ post := by simp [hes]
  have hafter : after = (step before.1 .onReset).1 := by simp [after, before, run_append]
  have hlatch : after.handle.onResetCalled = true := by rw [hafter, step_onReset]
  refine ⟨by rw [hafter, step_onReset], ⟨(run after post).2, ?_, (run_latch after post hlatch).2⟩,
    fun k hk => ?_⟩
  · simp [out, hsplit, run_append, after, before, step_onReset]
  · have htake : es.take k = (pre ++ [.onReset]) ++ post.take (k - (pre.length + 1)) := by
      rw [hsplit, List.take_append_eq_append_take, List.take_of_length_le (by simp; omega)]
      simp
    rw [htake, run_append]
    exact (run_latch after _ hlatch).1

lemma run_resume_count (w : World) (es : List Event) (h : w.handle.onResetCalled = false) :
    (run w es).2.count .resume = (es.takeWhile (· ≠ .onReset)).count .resumeCoroutine := by
  induction es generalizing w with
  | nil => rfl
  | cons e es ih =>
    cases e with
    | onReset =>
      have hrest := List.count_eq_zero.2 (run_latch (step w .onReset).1 es (by rw [step_onReset])).2
      rw [run_cons, List.count_append, hrest, step_onReset]
      split <;> simp
    | resumeCoroutine =>
      simp [step, StreamHandleWrapper.resumeCoroutine, h, ih w h]
    | httpCall a =>
      simpa [step] using ih _ (by simpa using h)
    | httpCallComplete =>
      simpa [step] using ih (step w .httpCallComplete).1 h

/-- From a fresh handle, the coroutine is resumed exactly once for each `resumeCoroutine` call
made before the first `onReset`, and never after it. -/
theorem run_resumes_before_reset (es : List Event) :
    (run World.initial es).2.count .resume =
      (es.takeWhile (· ≠ .onReset)).count .resumeCoroutine :=
  run_resume_count World.initial es rfl

end Lua.StreamHandle
