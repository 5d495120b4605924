import DoraSpec.Node.EventStream

/-!
# Waiting for a correlated event

Source `apis/rust/node/src/event_stream/mod.rs:856-936`. The wait loop receives through
`recv_async`, which first hands back the events that the loop itself set aside.
-/

namespace DoraSpec.Node
open Message List

namespace EventStream

variable {Data : Type} {env : StreamEnv Data}

@[simp] private theorem pendingPassthrough_deliver (s : EventStream Data) (arrival : Arrival) :
    (s.deliver arrival).pendingPassthrough = s.pendingPassthrough := by
  unfold deliver
  split <;> rfl

@[simp] private theorem pendingPassthrough_checkInputType (s : EventStream Data)
    (event : Option (Event Data)) :
    (s.checkInputType event).pendingPassthrough = s.pendingPassthrough := by
  rw [checkInputType_eq]

variable {event : Event Data} {isMatch : Event Data → Bool} {rest : List (Event Data)}

private theorem recvAsync_of_pending {s : EventStream Data}
    (h : s.pendingPassthrough = event :: rest) :
    recvAsync env s = (.ready (some event), { s with pendingPassthrough := rest }) := by
  simp only [recvAsync, h]

private theorem pendingPassthrough_recvAsync (s : EventStream Data) :
    (recvAsync env s).2.pendingPassthrough = s.pendingPassthrough.tail := by
  cases h : s.pendingPassthrough with
  | cons event rest => rw [recvAsync_of_pending h, tail_cons]
  | nil =>
    unfold recvAsync
    simp only [h, tail_nil]
    split
    · split
      · exact h
      · split <;> simp
    · split
      · simp
      · split <;> exact h

private theorem pendingPassthrough_pollNext (s : EventStream Data) :
    (pollNext env s).2.pendingPassthrough = s.pendingPassthrough.tail := by
  unfold pollNext
  cases h : s.pendingPassthrough with
  | cons event rest => rfl
  | nil =>
    simp only [tail_nil]
    split
    · simp
    · split <;> exact h

private theorem pending_after_recv {s t : EventStream Data} {poll : RecvPoll Data}
    (hs : s.pendingPassthrough.length ≤ 1) {arrival : Arrival}
    (h : recvAsync env (s.deliver arrival) = (poll, t)) : t.pendingPassthrough = [] := by
  have ht : (recvAsync env (s.deliver arrival)).2.pendingPassthrough = _ :=
    pendingPassthrough_recvAsync _
  rw [h, pendingPassthrough_deliver] at ht
  rw [ht]
  apply eq_nil_of_length_eq_zero
  rw [length_tail]
  omega

/-- A wait that starts with at most one event set aside ends so: the loop receives the event it
has just put back before it receives another one. -/
theorem length_pendingPassthrough_wait (isMatch : Event Data → Bool) (expectedServer : NodeId)
    (polls : List Arrival) (s : EventStream Data) (hs : s.pendingPassthrough.length ≤ 1) :
    (waitForCorrelation env isMatch expectedServer polls s).2.pendingPassthrough.length ≤ 1 := by
  induction polls generalizing s with
  | nil => exact hs
  | cons arrival polls ih =>
    unfold waitForCorrelation
    split
    · next t h => exact ih t (by simp [pending_after_recv hs h])
    · next h => simp [pending_after_recv hs h]
    · next h => simp [pending_after_recv hs h]
    · next event t h =>
      have hp := pending_after_recv hs h
      cases classifyCorrelationEvent event expectedServer isMatch with
      | passthrough => exact ih _ (by simp [hp])
      | _ => simp [hp]

private theorem Reachable.length_pendingPassthrough {s : EventStream Data} (h : Reachable env s) :
    s.pendingPassthrough.length ≤ 1 := by
  induction h with
  | init => exact Nat.zero_le 1
  | deliver _ arrival ih => rwa [pendingPassthrough_deliver]
  | recvAsync _ ih =>
    rw [pendingPassthrough_recvAsync, length_tail]
    omega
  | pollNext _ ih =>
    rw [pendingPassthrough_pollNext, length_tail]
    omega
  | drainDropCounts _ ih => exact ih
  | waitForCorrelation _ isMatch expectedServer polls ih =>
    exact length_pendingPassthrough_wait isMatch expectedServer polls _ ih

/-- Once an unrelated event is set aside, the wait receives it again and again until the
deadline, whatever arrives in between. -/
theorem wait_of_pending_unrelated {expectedServer : NodeId}
    (he : classifyCorrelationEvent event expectedServer isMatch = .passthrough)
    (polls : List Arrival) (s : EventStream Data) (hs : s.pendingPassthrough = [event]) :
    (waitForCorrelation env isMatch expectedServer polls s).1 = .err .timeout := by
  induction polls generalizing s with
  | nil => rfl
  | cons arrival polls ih =>
    have hd : (s.deliver arrival).pendingPassthrough = [event] := by
      rw [pendingPassthrough_deliver, hs]
    unfold waitForCorrelation
    simp only [recvAsync_of_pending hd, he, nil_append]
    exact ih _ rfl

private theorem classify_ne_isMatch {expectedServer : NodeId} (he : isMatch event = false) :
    classifyCorrelationEvent event expectedServer isMatch ≠ .isMatch := by
  unfold classifyCorrelationEvent
  rw [he, if_neg (by decide)]
  split
  · split <;> simp
  all_goals simp

private theorem wait_of_first_unrelated (expectedServer : NodeId) (he : isMatch event = false)
    (polls : List Arrival) (s : EventStream Data) (hs : s.pendingPassthrough.length ≤ 1)
    (hy : receives env polls s = event :: rest) (m : Event Data) :
    (waitForCorrelation env isMatch expectedServer polls s).1 ≠ .ok m := by
  induction polls generalizing s with
  | nil => cases hy
  | cons arrival polls ih =>
    unfold receives at hy
    unfold waitForCorrelation
    split at hy
    · next t h =>
      have hp := pending_after_recv hs h
      simp only [h]
      exact ih t (by simp [hp]) hy
    · next first t h =>
      have hp := pending_after_recv hs h
      obtain ⟨rfl, -⟩ := List.cons.inj hy
      simp only [h]
      cases hc : classifyCorrelationEvent first expectedServer isMatch with
      | isMatch => exact absurd hc (classify_ne_isMatch he)
      | passthrough =>
        simp only [wait_of_pending_unrelated hc polls
          { t with pendingPassthrough := t.pendingPassthrough ++ [first] } (by simp [hp])]
        simp
      | _ => simp
    · cases hy

private theorem wait_of_first_match (expectedServer : NodeId) {m : Event Data}
    (hm : isMatch m = true)
    (polls : List Arrival) (s : EventStream Data) (hs : s.pendingPassthrough.length ≤ 1)
    (hy : receives env polls s = m :: rest) :
    ∃ t, waitForCorrelation env isMatch expectedServer polls s = (.ok m, t) ∧
      t.pendingPassthrough = [] := by
  induction polls generalizing s with
  | nil => cases hy
  | cons arrival polls ih =>
    unfold receives at hy
    unfold waitForCorrelation
    split at hy
    · next t h =>
      have hp := pending_after_recv hs h
      simp only [h]
      exact ih t (by simp [hp]) hy
    · next first t h =>
      obtain ⟨rfl, -⟩ := List.cons.inj hy
      refine ⟨t, ?_, pending_after_recv hs h⟩
      have hc : classifyCorrelationEvent first expectedServer isMatch = .isMatch := by
        unfold classifyCorrelationEvent
        rw [hm, if_pos rfl]
      simp only [h, hc]
    · cases hy

/-- The wait returns the match, and the receives that follow yield first the skipped events. -/
def Delivers (env : StreamEnv Data) (isMatch : Event Data → Bool) (expectedServer : NodeId)
    (polls : List Arrival) (s : EventStream Data) (skipped : List (Event Data))
    (m : Event Data) : Prop :=
  ∃ t, waitForCorrelation env isMatch expectedServer polls s = (.ok m, t) ∧
    t.pendingPassthrough = skipped ∧
    ∀ later : List Arrival, skipped.length ≤ later.length → skipped <+: receives env later t

/-- Over any schedule in which the stream yields `skipped` and then the first match, the wait
delivers the match and keeps the skipped events exactly when there are none. -/
theorem delivers_iff_match_first {s : EventStream Data} (h : Reachable env s)
    (isMatch : Event Data → Bool) (expectedServer : NodeId) (polls : List Arrival)
    (skipped rest : List (Event Data)) (m : Event Data)
    (hy : receives env polls s = skipped ++ m :: rest)
    (hs : ∀ e ∈ skipped, isMatch e = false) (hm : isMatch m = true) :
    Delivers env isMatch expectedServer polls s skipped m ↔ skipped = [] := by
  have hl := h.length_pendingPassthrough
  cases skipped with
  | nil =>
    obtain ⟨t, hw, ht⟩ := wait_of_first_match expectedServer hm polls s hl hy
    exact ⟨fun _ => rfl, fun _ => ⟨t, hw, ht, fun _ _ => nil_prefix⟩⟩
  | cons event events =>
    constructor
    · rintro ⟨t, hw, -, -⟩
      have he : isMatch event = false := hs event mem_cons_self
      have := wait_of_first_unrelated expectedServer he polls s hl hy m
      rw [hw] at this
      exact absurd rfl this
    · intro hc
      cases hc

/-- An environment whose payloads carry no data and which records nothing. -/
def plainEnv : StreamEnv Unit :=
  ⟨fun _ _ => .ok (), fun _ _ => .ok (), fun _ => .ok ()⟩

/-- A fresh stream with the single input `audio`. -/
def sampleStream : EventStream Unit :=
  ⟨⟨[], false⟩, Scheduler.init (AList.singleton Scheduler.audio 10) ∅, true, ∅, []⟩

/-- The response is the first event of the stream, so the wait for it delivers it. -/
theorem delivers_response :
    Delivers plainEnv (matchesRequest "r") ⟨"server"⟩
      [⟨[], false⟩, ⟨[Scheduler.sampleResponse "r", Scheduler.sampleChunk], false⟩] sampleStream []
      (convertEventItem plainEnv (Scheduler.sampleResponse "r")) :=
  (delivers_iff_match_first (.init _ _ _ _) _ _ _ [] [] _ rfl (by simp) rfl).mpr rfl

/-- An unrelated chunk ahead of the response: the stream yields both, but the wait runs into
its deadline. -/
theorem wait_stuck_on_chunk :
    receives plainEnv
        [⟨[Scheduler.sampleChunk, Scheduler.sampleResponse "r"], false⟩, ⟨[], false⟩] sampleStream =
      [convertEventItem plainEnv Scheduler.sampleChunk,
        convertEventItem plainEnv (Scheduler.sampleResponse "r")] ∧
    matchesRequest "r" (convertEventItem plainEnv (Scheduler.sampleResponse "r")) = true ∧
    ∀ later, (recvServiceResponse plainEnv "r" ⟨"server"⟩
      (⟨[Scheduler.sampleChunk, Scheduler.sampleResponse "r"], false⟩ :: later) sampleStream).1 =
        .err .timeout :=
  ⟨rfl, rfl, fun later => wait_of_pending_unrelated rfl later _ rfl⟩

end EventStream
end DoraSpec.Node
