import Mathlib.Data.List.Nodup
import Mathlib.Logic.Embedding.Basic
import Mathlib.Order.Nat

/-!
# Requests of ROS2 clients to a service

Source `binaries/ros2-bridge-node/src/main.rs:285-378`. Times are in nanoseconds, and the identifiers
that `new_request_id` gives out are distinct. Whether a response or an output can be sent is part of
the event, as is a request that the stream cannot decode.
-/

namespace DoraSpec.Ros2.ServiceServer

open List

variable {Client : Type}

/-- `SERVICE_RESPONSE_TIMEOUT`, `main.rs:221`. -/
def responseTimeout : Nat := 30000000000

/-- `MAX_PENDING_REQUESTS`, `main.rs:34`. -/
def maxPendingRequests : Nat := 64

/-- A request that was passed on. -/
structure Pending (Client : Type) where
  id : String
  client : Client
  inserted : Nat
deriving DecidableEq

/-- The variables of the loop, with the requests that it has passed on under their identifiers and the
responses that it has sent to clients. -/
structure State (Client : Type) where
  now : Nat := 0
  pendingRequests : List (Pending Client) := []
  oldestInsert : Option Nat := none
  forwarded : List (Pending Client) := []
  answered : List (String × Client) := []
  running : Bool := true

/-- What the loop receives. -/
inductive Event (Client : Type) where
  /-- A response of the handler, with the `request_id` of its metadata. -/
  | response (requestId : Option String) (sent : Bool)
  /-- A request of a client, some time after the last one. -/
  | request (client : Client) (elapsed : Nat) (sent : Bool)
  /-- A request that the stream reports as an error or without data, `main.rs:296-304`. -/
  | undecodable (client : Client)
  | stop
  | other

/-- The request has not timed out. -/
def Pending.young (now : Nat) (p : Pending Client) : Bool := now - p.inserted < responseTimeout

namespace State

/-- Remove requests that have timed out, `main.rs:346-357`. -/
def evict (s : State Client) : State Client :=
  if s.oldestInsert.any fun t => responseTimeout ≤ s.now - t then
    let pendingRequests := s.pendingRequests.filter (Pending.young s.now)
    { s with pendingRequests, oldestInsert := (pendingRequests.map Pending.inserted).min? }
  else s

/-- The loop returns, with an error or without. -/
def halt (s : State Client) : State Client := { s with running := false }

/-- `main.rs:366-373`. -/
def forward (s : State Client) (id : String) (client : Client) (sent : Bool) : State Client :=
  if sent then
    { s with
      oldestInsert := s.oldestInsert.or (some s.now)
      pendingRequests := ⟨id, client, s.now⟩ :: s.pendingRequests.filter (·.id ≠ id)
      forwarded := ⟨id, client, s.now⟩ :: s.forwarded }
  else s.halt

/-- `main.rs:326-338`. -/
def answer (s : State Client) (rid : String) (sent : Bool) : State Client :=
  match s.pendingRequests.find? (·.id = rid) with
  | some p =>
    if sent then
      { s with
        pendingRequests := s.pendingRequests.filter (·.id ≠ rid)
        answered := (rid, p.client) :: s.answered }
    else s.halt
  | none => s

end State

variable (newRequestId : Nat ↪ String)

/-- One event of the running loop, `main.rs:317-375`. -/
def handle (s : State Client) : Event Client → State Client
  | .response none _ => s
  | .response (some rid) sent => s.answer rid sent
  | .request client elapsed sent =>
    let s := { s with now := s.now + elapsed }.evict
    if maxPendingRequests ≤ s.pendingRequests.length then s
    else s.forward (newRequestId s.forwarded.length) client sent
  | .undecodable _ => s
  | .stop => s.halt
  | .other => s

/-- One turn of the loop. -/
def step (s : State Client) (event : Event Client) : State Client :=
  if s.running then handle newRequestId s event else s

/-- Every response goes to the client of the one request with its identifier, no request has two
responses, and not too many are pending. -/
structure Served (s : State Client) : Prop where
  matched : ∀ a ∈ s.answered, ∃ f ∈ s.forwarded, a = (f.id, f.client)
  distinct : (s.forwarded.map Pending.id).Nodup
  once : (s.answered.map Prod.fst).Nodup
  bounded : s.pendingRequests.length ≤ maxPendingRequests

/-- The response to a request that has none yet and has not timed out is sent, or the loop ends. -/
def Answers (s : State Client) : Prop :=
  ∀ f ∈ s.forwarded, f.id ∉ s.answered.map Prod.fst → f.young s.now → ∀ sent,
    let after := step newRequestId s (.response (some f.id) sent)
    after.running → after.answered = (f.id, f.client) :: s.answered

/-- A request that can be decoded is passed on unless many young requests are pending. -/
def DropsIfFull (s : State Client) : Prop :=
  ∀ client elapsed sent,
    let after := step newRequestId s (.request client elapsed sent)
    after.running → after.forwarded = s.forwarded →
      maxPendingRequests ≤ (s.pendingRequests.filter (Pending.young (s.now + elapsed))).length

/-- What every turn keeps. -/
structure Inv (s : State Client) : Prop extends Served s where
  past : ∀ t ∈ s.oldestInsert, t ≤ s.now
  /-- The cached time is not after any insertion. -/
  oldest : ∀ p ∈ s.pendingRequests, p.inserted ≤ s.now ∧ ∃ t ∈ s.oldestInsert, t ≤ p.inserted
  pending : ∀ p ∈ s.pendingRequests, p ∈ s.forwarded ∧ p.id ∉ s.answered.map Prod.fst
  kept : ∀ f ∈ s.forwarded, f.id ∉ s.answered.map Prod.fst → f.young s.now → f ∈ s.pendingRequests
  ids : ∀ f ∈ s.forwarded, ∃ n < s.forwarded.length, newRequestId n = f.id

private theorem forwarded_evict (s : State Client) : s.evict.forwarded = s.forwarded := by
  unfold State.evict
  split <;> rfl

variable {newRequestId} {s : State Client}

private theorem step_of_running (hrunning : s.running) (event : Event Client) :
    step newRequestId s event = handle newRequestId s event :=
  if_pos hrunning

private theorem Pending.young_tick {p : Pending Client} {now elapsed : Nat}
    (h : p.young (now + elapsed)) : p.young now :=
  decide_eq_true (by have := of_decide_eq_true h; omega)

namespace Inv

variable (h : Inv newRequestId s)
include h

private theorem pendingRequests_evict :
    s.evict.pendingRequests = s.pendingRequests.filter (Pending.young s.now) := by
  unfold State.evict
  split
  · rfl
  · next hskip =>
    refine (filter_eq_self.mpr fun p hp => ?_).symm
    obtain ⟨-, t, ht, hle⟩ := h.oldest p hp
    have hlt : s.now - t < responseTimeout := by simpa [Option.mem_def.mp ht] using hskip
    exact decide_eq_true (by omega)

private theorem evict : Inv newRequestId s.evict := by
  unfold State.evict
  split
  · refine ⟨⟨h.matched, h.distinct, h.once, (length_filter_le _ _).trans h.bounded⟩,
      fun t ht => ?_, fun p hp => ?_, fun p hp => h.pending p (mem_of_mem_filter hp),
      fun f hf hnew hyoung => mem_filter.mpr ⟨h.kept f hf hnew hyoung, hyoung⟩, h.ids⟩
    · obtain ⟨p, hp, rfl⟩ := mem_map.mp (min?_mem ht)
      exact (h.oldest p (mem_of_mem_filter hp)).1
    · have hmem := mem_map_of_mem (f := Pending.inserted) hp
      obtain ⟨t, ht⟩ := Option.isSome_iff_exists.mp (isSome_min?_of_mem hmem)
      exact ⟨(h.oldest p (mem_of_mem_filter hp)).1, t, ht,
        (min?_eq_some_iff.mp ht).2 _ hmem⟩
  · exact h

private theorem halt : Inv newRequestId s.halt :=
  ⟨⟨h.matched, h.distinct, h.once, h.bounded⟩, h.past, h.oldest, h.pending, h.kept, h.ids⟩

private theorem answer (rid : String) (sent : Bool) : Inv newRequestId (s.answer rid sent) := by
  fun_cases State.answer s rid sent with
  | case1 p hp =>
    obtain rfl : p.id = rid := by simpa using List.find?_some hp
    obtain ⟨hforwarded, hfresh⟩ := h.pending p (mem_of_find?_eq_some hp)
    refine ⟨⟨forall_mem_cons.mpr ⟨⟨p, hforwarded, rfl⟩, h.matched⟩, h.distinct,
      nodup_cons.mpr ⟨hfresh, h.once⟩, (length_filter_le _ _).trans h.bounded⟩,
      h.past, fun q hq => h.oldest q (mem_of_mem_filter hq), fun q hq => ?_,
      fun f hf hnew hyoung => ?_, h.ids⟩
    · obtain ⟨hq, hne⟩ := mem_filter.mp hq
      obtain ⟨hqforwarded, hqfresh⟩ := h.pending q hq
      exact ⟨hqforwarded, not_mem_cons_of_ne_of_not_mem (of_decide_eq_true hne) hqfresh⟩
    · obtain ⟨hne, hnew⟩ := not_or.mp (mem_cons.not.mp hnew)
      exact mem_filter.mpr ⟨h.kept f hf hnew hyoung, decide_eq_true hne⟩
  | case2 => exact h.halt
  | case3 => exact h

private theorem find?_pending {p : Pending Client} (hp : p ∈ s.pendingRequests) :
    s.pendingRequests.find? (·.id = p.id) = some p := by
  obtain ⟨q, hq⟩ := Option.isSome_iff_exists.mp
    (find?_isSome (p := (·.id = p.id)) |>.mpr ⟨p, hp, decide_eq_true rfl⟩)
  have hid : q.id = p.id := by simpa using List.find?_some hq
  rw [hq, inj_on_of_nodup_map h.distinct (h.pending q (mem_of_find?_eq_some hq)).1
    (h.pending p hp).1 hid]

private theorem forward (client : Client) (sent : Bool)
    (hroom : s.pendingRequests.length < maxPendingRequests) :
    Inv newRequestId (s.forward (newRequestId s.forwarded.length) client sent) := by
  cases sent with
  | false => exact h.halt
  | true =>
    have hnew : newRequestId s.forwarded.length ∉ s.forwarded.map Pending.id := by
      intro hmem
      obtain ⟨f, hf, heq⟩ := mem_map.mp hmem
      obtain ⟨n, hn, hid⟩ := h.ids f hf
      exact hn.ne (newRequestId.injective (hid.trans heq))
    obtain ⟨t, ht, hle⟩ : ∃ t, s.oldestInsert.or (some s.now) = some t ∧ t ≤ s.now := by
      cases ho : s.oldestInsert with
      | none => exact ⟨s.now, rfl, le_rfl⟩
      | some t => exact ⟨t, rfl, h.past t ho⟩
    have hlength := Nat.succ_le_of_lt hroom
    refine ⟨⟨fun a ha => ?_, nodup_cons.mpr ⟨hnew, h.distinct⟩, h.once,
      (Nat.succ_le_succ (length_filter_le _ _)).trans hlength⟩, ?_, ?_, ?_, ?_, ?_⟩
    · obtain ⟨f, hf, heq⟩ := h.matched a ha
      exact ⟨f, mem_cons_of_mem _ hf, heq⟩
    · rintro _ ht'
      cases ht.symm.trans ht'
      exact hle
    · refine forall_mem_cons.mpr ⟨⟨le_rfl, t, ht, hle⟩, fun p hp => ?_⟩
      obtain ⟨hnow, t, ht, hle⟩ := h.oldest p (mem_of_mem_filter hp)
      exact ⟨hnow, t, by simp [State.forward, Option.mem_def.mp ht], hle⟩
    · refine forall_mem_cons.mpr ⟨⟨mem_cons_self, fun hmem => ?_⟩, fun p hp => ?_⟩
      · obtain ⟨a, ha, hid⟩ := mem_map.mp hmem
        obtain ⟨f, hf, rfl⟩ := h.matched a ha
        exact hnew (mem_map.mpr ⟨f, hf, hid⟩)
      · obtain ⟨hforwarded, hfresh⟩ := h.pending p (mem_of_mem_filter hp)
        exact ⟨mem_cons_of_mem _ hforwarded, hfresh⟩
    · refine forall_mem_cons.mpr ⟨fun _ _ => mem_cons_self, fun f hf hfresh hyoung => ?_⟩
      have hne : f.id ≠ newRequestId s.forwarded.length :=
        fun heq => hnew (mem_map.mpr ⟨f, hf, heq⟩)
      exact mem_cons_of_mem _ (mem_filter.mpr ⟨h.kept f hf hfresh hyoung, decide_eq_true hne⟩)
    · refine forall_mem_cons.mpr ⟨⟨_, Nat.lt_succ_self _, rfl⟩, fun f hf => ?_⟩
      obtain ⟨n, hn, hid⟩ := h.ids f hf
      exact ⟨n, hn.trans (Nat.lt_succ_self _), hid⟩

private theorem tick (elapsed : Nat) : Inv newRequestId { s with now := s.now + elapsed } :=
  ⟨⟨h.matched, h.distinct, h.once, h.bounded⟩, fun t ht => Nat.le_add_right_of_le (h.past t ht),
    fun p hp => (h.oldest p hp).imp_left Nat.le_add_right_of_le, h.pending,
    fun f hf hnew hyoung => h.kept f hf hnew (Pending.young_tick hyoung), h.ids⟩

private theorem step (event : Event Client) : Inv newRequestId (step newRequestId s event) := by
  unfold ServiceServer.step
  split
  · fun_cases handle newRequestId s event with
    | case1 | case5 | case7 => exact h
    | case2 rid sent => exact h.answer rid sent
    | case3 client elapsed => exact (h.tick elapsed).evict
    | case4 client elapsed sent s' hroom =>
      exact (h.tick elapsed).evict.forward client sent (Nat.lt_of_not_le hroom)
    | case6 => exact h.halt
  · exact h

private theorem answers (hrunning : s.running) : Answers newRequestId s := by
  intro f hf hnew hyoung sent after hafter
  have hfind := h.find?_pending (h.kept f hf hnew hyoung)
  cases sent with
  | true => simp [after, step_of_running hrunning, handle, State.answer, hfind]
  | false => simp [after, step_of_running hrunning, handle, State.answer, hfind, State.halt] at hafter

private theorem dropsIfFull (hrunning : s.running) : DropsIfFull newRequestId s := by
  intro client elapsed sent after hafter hdrop
  simp only [after, step_of_running hrunning, handle] at hafter hdrop
  split at hdrop
  · next hfull => rwa [(h.tick elapsed).pendingRequests_evict] at hfull
  · next hroom =>
    cases sent with
    | true => simp [State.forward, forwarded_evict] at hdrop
    | false => simp [hroom, State.forward, State.halt] at hafter

end Inv

/-- All runs of the loop. -/
theorem serves (newRequestId : Nat ↪ String) (events : List (Event Client)) :
    Served (events.foldl (step newRequestId) {}) ∧
      ((events.foldl (step newRequestId) {}).running →
        Answers newRequestId (events.foldl (step newRequestId) {}) ∧
          DropsIfFull newRequestId (events.foldl (step newRequestId) {})) := by
  have hinit : Inv newRequestId ({} : State Client) :=
    ⟨⟨nofun, nodup_nil, nodup_nil, Nat.zero_le _⟩, nofun, nofun, nofun, nofun, nofun⟩
  have h : Inv newRequestId (events.foldl (step newRequestId) {}) :=
    foldlRecOn events _ hinit fun s hs event _ => hs.step event
  exact ⟨h.toServed, fun hrunning => ⟨h.answers hrunning, h.dropsIfFull hrunning⟩⟩

/-- Identifiers of growing length. -/
def countedIds : Nat ↪ String :=
  ⟨fun n => String.ofList (replicate n 'x'), fun m n h => by simpa using congrArg String.length h⟩

/-- Two requests with a request between them that cannot be decoded; the second is answered first. -/
def twoRequests : List (Event Nat) :=
  [.request 1 0 true, .undecodable 2, .request 3 5 true, .response (some "x") true]

/-- The second request is answered first, then the other one. -/
theorem twoRequests_served :
    (twoRequests.foldl (step countedIds) {}).answered = [("x", 3)] ∧
      (step countedIds (twoRequests.foldl (step countedIds) {}) (.response (some "") true)).answered =
        [("", 1), ("x", 3)] :=
  ⟨by decide, ((serves countedIds twoRequests).2 (by decide)).1 ⟨"", 1, 0⟩
    (by decide) (by decide) (by decide) true (by decide)⟩

/-- A request that cannot be decoded is dropped though nothing is pending. -/
theorem undecodable_dropped :
    (step countedIds ({} : State Nat) (.undecodable 2)).running ∧
      (step countedIds ({} : State Nat) (.undecodable 2)).forwarded = [] ∧
      (step countedIds ({} : State Nat) (.undecodable 2)).pendingRequests.length <
        maxPendingRequests :=
  ⟨rfl, rfl, by decide⟩

end DoraSpec.Ros2.ServiceServer
