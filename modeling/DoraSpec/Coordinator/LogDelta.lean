import DoraSpec.Coordinator.StateLog

/-!
# What the state log can give back

Source `binaries/coordinator/src/state.rs:288-337` and `binaries/coordinator/src/lib.rs:2138-2157`.
The log drops changes that every recorded daemon has acknowledged, and the oldest ones if it gets
too long. What a daemon missed is then either all in the log or known to be lost to the cap.
-/

namespace DoraSpec.Coordinator.LogDelta
open Base Base.SequencedLog Message Store List
open Coordinator.StateLog

/-- A running dataflow with the changes made so far and those that the cap dropped. -/
structure State where
  dataflow : RunningDataflow
  changes : List ParamOp := []
  capped : List Nat := []

/-- Events that concern the log of a dataflow. -/
inductive Event where
  | change (operation : ParamOp)
  | acknowledge (daemon : DaemonId) (sequence : Nat)
  /-- All parameters were replayed to the daemon. -/
  | replayed (daemon : DaemonId)
  /-- A daemon connects, again or for the first time. -/
  | arrive (daemon : DaemonId)
  /-- A daemon disconnects or finishes the dataflow. -/
  | leave (daemon : DaemonId)
  | prune

/-- Sequence numbers that `append_state_log` drops; `state.rs:296-305`. -/
def cappedBy (df : RunningDataflow) : List Nat :=
  (df.stateLog.take (df.stateLog.length + 1 - maxStateLogEntries)).map (·.sequence)

/-- Effect of an event on the dataflow. A daemon that arrives is not added to the daemons of a
dataflow; those are fixed when it starts and only taken out, at `lib.rs:464` and `lib.rs:1685`. -/
def step (s : State) : Event → State × Unit
  | .change operation => ({
      dataflow := s.dataflow.appendStateLog operation
      changes := s.changes ++ [operation]
      capped := s.capped ++ cappedBy s.dataflow }, ())
  | .acknowledge daemon sequence =>
    ({ s with dataflow := s.dataflow.acknowledge daemon sequence }, ())
  | .replayed daemon =>
    if daemon ∈ s.dataflow.daemons then
      let acks := s.dataflow.daemonAckSequence.insert daemon s.dataflow.stateLogSequence
      ({ s with dataflow := { s.dataflow with daemonAckSequence := acks } }, ())
    else (s, ())
  | .arrive _ => (s, ())
  | .leave daemon =>
    ({ s with dataflow := { s.dataflow with daemons := s.dataflow.daemons.erase daemon } }, ())
  | .prune => ({ s with dataflow := s.dataflow.pruneStateLog }, ())

/-- A dataflow that was just started; `handlers.rs:598-628`. -/
def start (daemons : List DaemonId) (nodeToDaemon : List (NodeId × DaemonId)) : State where
  dataflow := { daemons, nodeToDaemon, daemonAckSequence := daemons.foldl (·.insert · 0) ∅ }

/-- Changes with their sequence numbers. -/
def numbered (changes : List ParamOp) : List StateCatchUpEntry :=
  changes.mapIdx fun i operation => ⟨i + 1, operation⟩

/-- What the log gives back to a daemon with an acknowledged sequence number: all later changes, or
nothing if the cap dropped one of them. -/
def DeltaExact (s : State) (ack : Nat) : Prop :=
  match s.dataflow.stateLogDelta ack with
  | some entries => entries = (numbered s.changes).filter (ack < ·.sequence)
  | none => ∃ sequence ∈ s.capped, ack < sequence ∧ sequence ≤ s.changes.length

/-! ## The invariant -/

variable {s : State} {dropped : Nat} {d : DaemonId}

/-- The daemon is recorded with an acknowledged sequence number. -/
def Acked (s : State) (daemon : DaemonId) (ack : Nat) : Prop :=
  s.dataflow.daemonAckSequence[daemon]? = some ack

private structure Inv (s : State) (dropped : Nat) : Prop where
  sequence : s.dataflow.stateLogSequence = s.changes.length
  log : s.dataflow.stateLog = (numbered s.changes).drop dropped
  dropped_le : dropped ≤ s.changes.length
  recorded : ∀ d ∈ s.dataflow.daemons, ∃ ack, Acked s d ack
  ack_le : ∀ d ack, Acked s d ack → ack ≤ s.changes.length
  /-- A change that is gone and not acknowledged was dropped by the cap. -/
  capped : ∀ d ack, Acked s d ack →
    ∀ sequence, ack < sequence → sequence ≤ dropped → sequence ∈ s.capped
  /-- The last change is in the log as long as it is not acknowledged. -/
  last : ∀ d ack, Acked s d ack → ack < s.changes.length → dropped < s.changes.length

private theorem length_numbered (changes : List ParamOp) :
    (numbered changes).length = changes.length := by
  simp [numbered]

private theorem getElem?_numbered (changes : List ParamOp) (i : Nat) :
    (numbered changes)[i]? = changes[i]?.map (⟨i + 1, ·⟩) := by
  simp [numbered]

private theorem numbered_concat (changes : List ParamOp) (operation : ParamOp) :
    numbered (changes ++ [operation]) = numbered changes ++ [⟨changes.length + 1, operation⟩] := by
  simp [numbered, mapIdx_append]

private theorem filter_drop_numbered (changes : List ParamOp) (n dropped : Nat) :
    ((numbered changes).drop dropped).filter (n < ·.sequence) =
      (numbered changes).drop (max dropped n) := by
  have hexcerpt : Excerpt changes 0 (numbered changes) := by
    intro m e he
    rw [getElem?_numbered] at he
    obtain ⟨operation, hop, rfl⟩ := Option.map_eq_some_iff.mp he
    simpa using hop
  rw [(hexcerpt.drop dropped).filter_lt, drop_drop]
  congr 1
  omega

private theorem minAck_le {ack : Nat} (h : Acked s d ack) :
    s.dataflow.minAck ≤ ack := by
  have hmem : ack ∈ s.dataflow.daemonAckSequence.toList.map Prod.snd :=
    mem_map.mpr ⟨(d, ack), Std.ExtTreeMap.mem_toList_iff_getElem?_eq_some.mpr h, rfl⟩
  unfold RunningDataflow.minAck
  cases hmin : (s.dataflow.daemonAckSequence.toList.map Prod.snd).min? with
  | none => exact Nat.zero_le ack
  | some m => exact (le_min?_iff hmin).mp le_rfl ack hmem

private theorem Inv.prune (h : Inv s dropped) :
    ∃ dropped', Inv { s with dataflow := s.dataflow.pruneStateLog } dropped' := by
  refine ⟨min (max dropped s.dataflow.minAck) s.changes.length, ?_⟩
  refine { h with log := ?_, dropped_le := min_le_right _ _, capped := ?_, last := ?_ }
  · simp only [RunningDataflow.pruneStateLog, h.log, filter_drop_numbered]
    rcases Nat.le_total (max dropped s.dataflow.minAck) s.changes.length with hle | hle
    · rw [min_eq_left hle]
    · rw [min_eq_right hle, drop_of_length_le (by rwa [length_numbered]),
        drop_of_length_le (by rw [length_numbered])]
  · intro d ack hack sequence hlt hle
    have hmin : s.dataflow.minAck ≤ ack := minAck_le hack
    exact h.capped d ack hack sequence hlt (by omega)
  · intro d ack hack hlt
    have hmin : s.dataflow.minAck ≤ ack := minAck_le hack
    have hlast := h.last d ack hack hlt
    change ack < s.changes.length at hlt
    change min (max dropped s.dataflow.minAck) s.changes.length < s.changes.length
    omega

private theorem Inv.setAck {dropped n : Nat} {daemon : DaemonId} (h : Inv s dropped)
    (hdaemon : daemon ∈ s.dataflow.daemons) (hle : n ≤ s.changes.length)
    (hgrow : s.dataflow.lastAck daemon ≤ n) :
    Inv { s with dataflow := { s.dataflow with
      daemonAckSequence := s.dataflow.daemonAckSequence.insert daemon n } } dropped := by
  -- every number in the new table stands above one in the old table
  have hold {d : DaemonId} {ack : Nat}
      (hack : (s.dataflow.daemonAckSequence.insert daemon n)[d]? = some ack) :
      ∃ old ≤ ack, Acked s d old := by
    rw [OrderedTable.getElem?_insert] at hack
    split at hack
    · next hd =>
      subst hd
      cases hack
      obtain ⟨old, hrecorded⟩ := h.recorded daemon hdaemon
      rw [RunningDataflow.lastAck, hrecorded] at hgrow
      exact ⟨old, hgrow, hrecorded⟩
    · exact ⟨ack, le_rfl, hack⟩
  refine { h with recorded := ?_, ack_le := ?_, capped := ?_, last := ?_ }
  · intro d hd
    by_cases heq : daemon = d
    · exact ⟨n, (OrderedTable.getElem?_insert ..).trans (if_pos heq)⟩
    · obtain ⟨ack, hack⟩ := h.recorded d hd
      exact ⟨ack, ((OrderedTable.getElem?_insert ..).trans (if_neg heq)).trans hack⟩
  · intro d ack hack
    rw [Acked, OrderedTable.getElem?_insert] at hack
    split at hack
    · cases hack
      exact hle
    · exact h.ack_le d ack hack
  · intro d ack hack sequence hlt hdropped
    obtain ⟨old, hle, hold⟩ := hold hack
    exact h.capped d old hold sequence (by omega) hdropped
  · intro d ack hack hlt
    obtain ⟨old, hle, hold⟩ := hold hack
    exact h.last d old hold (lt_of_le_of_lt hle hlt)

private theorem Inv.change (h : Inv s dropped) (operation : ParamOp) :
    ∃ dropped', Inv (step s (.change operation)).1 dropped' := by
  have hlength : s.dataflow.stateLog.length = s.changes.length - dropped := by
    rw [h.log, length_drop, length_numbered]
  have hdropped := h.dropped_le
  have hcap : 0 < maxStateLogEntries := by decide
  let more := s.dataflow.stateLog.length + 1 - maxStateLogEntries
  have hlog : (s.dataflow.appendStateLog operation).stateLog =
      (numbered (s.changes ++ [operation])).drop (dropped + more) := by
    have hnew : s.dataflow.stateLog ++ [⟨s.changes.length + 1, operation⟩] =
        (numbered (s.changes ++ [operation])).drop dropped := by
      rw [numbered_concat, drop_append_of_le_length (by rwa [length_numbered]), h.log]
    simp only [RunningDataflow.appendStateLog, h.sequence, hnew, ← drop_drop]
    have hlen : ((numbered (s.changes ++ [operation])).drop dropped).length =
        s.dataflow.stateLog.length + 1 := by
      rw [← hnew, length_append, length_singleton]
    rw [hlen]
    split
    · rfl
    · next hle => rw [show more = 0 by omega, drop_zero]
  refine ⟨dropped + more, ?_⟩
  constructor
  · simp [step, RunningDataflow.appendStateLog, h.sequence]
  · exact hlog
  · simp only [step, length_append, length_singleton]
    omega
  · exact h.recorded
  · intro d ack hack
    have := h.ack_le d ack hack
    simp only [step, length_append]
    omega
  · intro d ack hack sequence hlt hle
    refine mem_append.mpr ?_
    rcases Nat.lt_or_ge dropped sequence with hgt | hge
    · -- the change is one of those that are dropped now
      right
      obtain ⟨i, rfl⟩ : ∃ i, sequence = dropped + i + 1 := ⟨sequence - dropped - 1, by omega⟩
      have hi : i < more := by omega
      have hentry : s.dataflow.stateLog[i]? = s.changes[dropped + i]?.map (⟨dropped + i + 1, ·⟩) := by
        rw [h.log, getElem?_drop, getElem?_numbered]
      obtain ⟨op, hop⟩ : ∃ op, s.changes[dropped + i]? = some op :=
        ⟨_, getElem?_eq_getElem (by omega)⟩
      refine mem_map.mpr ⟨⟨dropped + i + 1, op⟩, mem_of_getElem? (i := i) ?_, rfl⟩
      rw [getElem?_take_of_lt hi, hentry, hop, Option.map_some]
    · exact .inl (h.capped d ack hack sequence hlt hge)
  · intro d ack hack hlt
    simp only [step, length_append, length_singleton]
    omega

private theorem Inv.acknowledge (h : Inv s dropped) (daemon : DaemonId) (sequence : Nat) :
    ∃ dropped', Inv { s with dataflow := s.dataflow.acknowledge daemon sequence } dropped' := by
  simp only [RunningDataflow.acknowledge]
  split
  · next hdaemon =>
    refine (h.setAck hdaemon ?_ (le_max_right _ _)).prune
    obtain ⟨ack, hack⟩ := h.recorded daemon hdaemon
    have hle := h.ack_le daemon ack hack
    have hlast : s.dataflow.lastAck daemon = ack := by
      rw [RunningDataflow.lastAck, hack, Option.getD_some]
    rw [hlast, h.sequence]
    exact max_le (min_le_right _ _) hle
  · exact ⟨dropped, h⟩

private theorem inv_step (s : State) (event : Event) (h : ∃ dropped, Inv s dropped) :
    ∃ dropped, Inv (step s event).1 dropped := by
  obtain ⟨dropped, h⟩ := h
  cases event with
  | change operation => exact h.change operation
  | acknowledge daemon sequence => exact h.acknowledge daemon sequence
  | replayed daemon =>
    rw [step]
    split
    · next hdaemon =>
      obtain ⟨ack, hack⟩ := h.recorded daemon hdaemon
      refine ⟨dropped, h.setAck hdaemon h.sequence.le ?_⟩
      rw [RunningDataflow.lastAck, hack, h.sequence]
      exact h.ack_le daemon ack hack
    · exact ⟨dropped, h⟩
  | arrive daemon => exact ⟨dropped, h⟩
  | leave daemon =>
    exact ⟨dropped, { h with recorded := fun d hd => h.recorded d (mem_of_mem_erase hd) }⟩
  | prune => exact h.prune

private theorem acked_start {daemons : List DaemonId} {nodeToDaemon : List (NodeId × DaemonId)} :
    (d ∈ daemons → Acked (start daemons nodeToDaemon) d 0) ∧
      ∀ ack, Acked (start daemons nodeToDaemon) d ack → ack = 0 := by
  have hfold (acks : Std.ExtTreeMap DaemonId Nat) :
      (daemons.foldl (·.insert · 0) acks)[d]? = if d ∈ daemons then some 0 else acks[d]? := by
    induction daemons generalizing acks with
    | nil => simp
    | cons e daemons ih =>
      rw [foldl_cons, ih, OrderedTable.getElem?_insert]
      by_cases hd : d ∈ daemons
      · simp [hd]
      · simp only [hd, if_false, mem_cons, or_false, eq_comm]
  constructor
  · intro hd
    exact (hfold ∅).trans (if_pos hd)
  · intro ack hack
    have := (hfold ∅).symm.trans hack
    split at this
    · exact (Option.some.inj this).symm
    · simp at this

private theorem inv_start (daemons : List DaemonId) (nodeToDaemon : List (NodeId × DaemonId)) :
    Inv (start daemons nodeToDaemon) 0 where
  sequence := rfl
  log := rfl
  dropped_le := le_rfl
  recorded d hd := ⟨0, acked_start.1 hd⟩
  ack_le d ack hack := (acked_start.2 ack hack).le
  capped d ack hack sequence hlt hle := by omega
  last d ack hack hlt := absurd hlt (Nat.not_lt_zero ack)

/-! ## The bounds of the log -/

private theorem length_stateLog_step (s : State) (event : Event)
    (h : s.dataflow.stateLog.length ≤ maxStateLogEntries) :
    (step s event).1.dataflow.stateLog.length ≤ maxStateLogEntries := by
  have hprune (df : RunningDataflow) :
      df.pruneStateLog.stateLog.length ≤ df.stateLog.length := length_filter_le ..
  cases event with
  | change operation =>
    simp only [step, RunningDataflow.appendStateLog]
    split
    · rw [length_drop]
      omega
    · omega
  | acknowledge daemon sequence =>
    simp only [step, RunningDataflow.acknowledge]
    split
    · exact (hprune _).trans h
    · exact h
  | replayed daemon =>
    rw [step]
    split <;> exact h
  | arrive _ | leave _ => exact h
  | prune => exact (hprune _).trans h

/-- Whatever happens, the log has the latest changes with their numbers and is never too long, and
no daemon has acknowledged a change that was not made. -/
theorem stateLog_run (daemons : List DaemonId) (nodeToDaemon : List (NodeId × DaemonId))
    (events : List Event) :
    let s := (Machine.run step (start daemons nodeToDaemon) events).1
    s.dataflow.stateLog <:+ numbered s.changes ∧
      s.dataflow.stateLog.length ≤ maxStateLogEntries ∧
      s.dataflow.stateLogSequence = s.changes.length ∧
      ∀ daemon ack, Acked s daemon ack → ack ≤ s.changes.length := by
  obtain ⟨dropped, h⟩ := Machine.always step (∃ dropped, Inv · dropped) inv_step
    ⟨0, inv_start daemons nodeToDaemon⟩ events
  have hlength := Machine.always step (·.dataflow.stateLog.length ≤ maxStateLogEntries)
    length_stateLog_step (s := start daemons nodeToDaemon) (Nat.zero_le _) events
  exact ⟨h.log ▸ drop_suffix .., hlength, h.sequence, h.ack_le⟩

/-! ## The delta -/

private theorem Inv.deltaExact (h : Inv s dropped) {ack : Nat} (hack : Acked s d ack) :
    DeltaExact s ack := by
  have hfilter := filter_drop_numbered s.changes ack dropped
  have hall := filter_drop_numbered s.changes ack 0
  rw [drop_zero, Nat.zero_max] at hall
  rw [DeltaExact, hall]
  unfold RunningDataflow.stateLogDelta
  cases hlog : s.dataflow.stateLog with
  | nil =>
    -- nothing is left: every change is acknowledged
    have hlength : s.changes.length ≤ dropped := by
      have := congrArg List.length (hlog.symm.trans h.log)
      rw [length_drop, length_numbered, length_nil] at this
      omega
    have hle : s.changes.length ≤ ack := by
      by_contra hlt
      have := h.last d ack hack (by omega)
      omega
    exact (drop_of_length_le (by rwa [length_numbered])).symm
  | cons oldest rest =>
    have holdest : oldest.sequence = dropped + 1 := by
      have hget := congrArg (·[0]?) (hlog.symm.trans h.log)
      rw [getElem?_drop, getElem?_numbered] at hget
      obtain ⟨op, -, hop⟩ := Option.map_eq_some_iff.mp hget.symm
      rw [← hop]
    have hdropped := h.dropped_le
    by_cases hgap : ack + 1 < oldest.sequence
    · dsimp only
      rw [if_pos hgap]
      exact ⟨dropped, h.capped d ack hack dropped (by omega) le_rfl, by omega, hdropped⟩
    · dsimp only
      rw [if_neg hgap, ← hlog, h.log, hfilter, max_eq_right (by omega)]

/-- Whatever happened before, a recorded daemon gets all changes after the one it acknowledged, in
order, or is told that the cap dropped one of them. -/
theorem deltaExact_run (daemons : List DaemonId) (nodeToDaemon : List (NodeId × DaemonId))
    (events : List Event) (daemon : DaemonId) (ack : Nat)
    (hack : Acked (Machine.run step (start daemons nodeToDaemon) events).1 daemon ack) :
    DeltaExact (Machine.run step (start daemons nodeToDaemon) events).1 ack := by
  obtain ⟨dropped, h⟩ := Machine.always step (∃ dropped, Inv · dropped) inv_step
    ⟨0, inv_start daemons nodeToDaemon⟩ events
  exact h.deltaExact hack

/-- A daemon that has one of two changes gets the other. -/
theorem deltaExact_one_of_two :
    DeltaExact (Machine.run step (start [DaemonId.nil] [])
      [.change (.deleteParam ⟨⟨"node"⟩, "key"⟩), .change (.deleteParam ⟨⟨"node"⟩, "key"⟩),
        .acknowledge DaemonId.nil 1]).1 1 := by
  refine deltaExact_run [DaemonId.nil] [] _ DaemonId.nil 1 ?_
  unfold Acked
  decide

end DoraSpec.Coordinator.LogDelta
