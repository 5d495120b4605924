import DoraSpec.Coordinator.StateLog

/-!
# What an acknowledged sequence number means

A daemon acknowledges a sequence number only after it delivered the changes up to it. The fallback
advances the number as well, after it replayed what is stored; a deletion is not stored, so the
fallback is right only if the deletions had reached their nodes before.
-/

namespace DoraSpec.Coordinator.StateLog
open Base Base.KeyedLog Base.SequencedLog Message Store Function State
open List
open Recording (Uuid)

variable {dataflowId : Uuid} {s s' : State} {daemon : DaemonId} {n : Nat}

/-- The status report makes the coordinator replay the stored parameters, and all of them are
confirmed. -/
def FallbackSucceeds (dataflowId : Uuid) (s : State) (daemon : DaemonId) (report : Report) : Prop :=
  s.dataflow.stateLogDelta (s.dataflow.lastAck daemon) = none ∧ report.due = true ∧
    report.connected = true ∧
    ∀ item ∈ s.replayItems dataflowId daemon report, report.confirmed item.1 = true

/-- A successful replay leaves nothing out: each change of a parameter that is not stored, or that
cannot be read, was settled before. -/
def ReplayCovers (dataflowId : Uuid) (s : State) : Input → Prop
  | .statusReport daemon report => FallbackSucceeds dataflowId s daemon report →
    ∀ i operation, s.changes[i]? = some operation →
      operation.id.nodeId ∈ s.dataflow.nodesOn daemon →
      (storedParam dataflowId s.store operation.id = none ∨
        report.listed operation.id.nodeId = false) → Settled s i operation.id
  | _ => True

/-! ## Settled changes stay settled -/

private theorem Reached.mono {j : Nat} {operation : ParamOp} (h : Reached s j operation)
    (hc : s.changes <+: s'.changes) (ht : s.told ⊆ s'.told) : Reached s' j operation := by
  obtain ⟨hj, told, htold, hop⟩ := h
  refine ⟨?_, told, ht htold, hop⟩
  rw [getElem?_of_isPrefix hc (List.getElem?_eq_some_iff.mp hj).1, hj]

private theorem SettledUpTo.mono (h : SettledUpTo s daemon n) (hc : s.changes <+: s'.changes)
    (ht : s.told ⊆ s'.told) (hn : s'.dataflow.nodeToDaemon = s.dataflow.nodeToDaemon) :
    SettledUpTo s' daemon n := by
  refine ⟨h.1.trans hc.length_le, fun i hi operation hop hnode => ?_⟩
  have hlt : i < s.changes.length := hi.trans_le h.1
  rw [getElem?_of_isPrefix hc hlt] at hop
  rw [RunningDataflow.nodesOn, hn] at hnode
  obtain ⟨j, op, hij, hid, hr⟩ := h.2 i hi operation hop hnode
  exact ⟨j, op, hij, hid, hr.mono hc ht⟩

private theorem SettledUpTo.of_le {m : Nat} (h : SettledUpTo s daemon n) (hm : m ≤ n) :
    SettledUpTo s daemon m :=
  ⟨hm.trans h.1, fun i hi => h.2 i (hi.trans_le hm)⟩

private theorem settledUpTo_zero : SettledUpTo s daemon 0 :=
  ⟨Nat.zero_le _, fun _ hi => absurd hi (Nat.not_lt_zero _)⟩

/-! ## The invariant -/

private structure Inv (dataflowId : Uuid) (s : State) : Prop where
  sequence : s.dataflow.stateLogSequence = s.changes.length
  log : ∃ k, Excerpt s.changes k s.dataflow.stateLog ∧
    k + s.dataflow.stateLog.length = s.changes.length
  stored : ∀ id operation, latest ParamOp.id id s.changes = some operation →
    storedParam dataflowId s.store id = operation.value
  acked : AcksSettled s
  commands : ∀ d entries, .stateCatchUp entries ∈ s.commands d →
    ∃ k, Excerpt s.changes k entries ∧ SettledUpTo s d k
  acks : ∀ d, ∀ n ∈ s.acks d, SettledUpTo s d n

private theorem lastAck_foldl (daemons : List DaemonId) (acks : Std.ExtTreeMap DaemonId Nat)
    (h : acks[daemon]?.getD 0 = 0) :
    (daemons.foldl (·.insert · 0) acks)[daemon]?.getD 0 = 0 := by
  induction daemons generalizing acks with
  | nil => exact h
  | cons d daemons ih =>
    apply ih
    rw [OrderedTable.getElem?_insert]
    split <;> simp [h]

private theorem inv_start (daemons : List DaemonId) (nodeToDaemon : List (NodeId × DaemonId))
    (store : InMemoryStore) : Inv dataflowId (start daemons nodeToDaemon store) where
  sequence := rfl
  log := ⟨0, excerpt_nil, rfl⟩
  stored _ _ h := by cases h
  acked d := by
    have h : (start daemons nodeToDaemon store).dataflow.lastAck d = 0 := lastAck_foldl daemons ∅ rfl
    rw [h]
    exact settledUpTo_zero
  commands _ _ h := absurd h not_mem_nil
  acks _ _ h := absurd h not_mem_nil

section Step

variable (h : Inv dataflowId s)
include h

private theorem Inv.send {command : Command} (hc : ∀ entries, command = .stateCatchUp entries →
      ∃ k, Excerpt s.changes k entries ∧ SettledUpTo s daemon k) :
    Inv dataflowId (s.send daemon command) := by
  refine { h with commands := fun d entries hmem => ?_ }
  by_cases hd : d = daemon
  · subst hd
    simp only [send, update_self, mem_append, mem_singleton] at hmem
    exact hmem.elim (h.commands d entries) fun he => hc entries he.symm
  · simp only [State.send, update_of_ne hd] at hmem
    exact h.commands d entries hmem

private theorem Inv.tell (operations : List ParamOp) : Inv dataflowId (s.tell operations) := by
  have hmono {d : DaemonId} {n : Nat} (hn : SettledUpTo s d n) :
      SettledUpTo (s.tell operations) d n :=
    hn.mono (prefix_refl _) (subset_append_left _ _) rfl
  refine { h with
    acked := fun d => hmono (h.acked d)
    commands := fun d entries hmem => ?_
    acks := fun d n hmem => hmono (h.acks d n hmem) }
  obtain ⟨k, hk, hsettled⟩ := h.commands d entries hmem
  exact ⟨k, hk, hmono hsettled⟩

private theorem Inv.of_subset {commands : DaemonId → List Command}
    {acks : DaemonId → List Nat} (hc : ∀ d, commands d ⊆ s.commands d)
    (ha : ∀ d, acks d ⊆ s.acks d) : Inv dataflowId { s with commands, acks } :=
  { h with
    commands := fun d entries hmem => h.commands d entries (hc d hmem)
    acks := fun d n hmem => h.acks d n (ha d hmem) }

omit h in
private theorem lastAck_insert (df : RunningDataflow) (d : DaemonId) :
    ({ df with daemonAckSequence := df.daemonAckSequence.insert daemon n } :
      RunningDataflow).lastAck d = if daemon = d then n else df.lastAck d := by
  simp only [RunningDataflow.lastAck, OrderedTable.getElem?_insert]
  split <;> rfl

private theorem Inv.setAck (hn : SettledUpTo s daemon n) :
    Inv dataflowId { s with dataflow := { s.dataflow with
      daemonAckSequence := s.dataflow.daemonAckSequence.insert daemon n } } := by
  refine { h with acked := fun d => ?_ }
  rw [lastAck_insert]
  split
  · next hd => exact hd ▸ hn
  · exact h.acked d

private theorem Inv.prune : Inv dataflowId { s with dataflow := s.dataflow.pruneStateLog } := by
  obtain ⟨k, hk, hend⟩ := h.log
  refine { h with log := ?_ }
  simp only [RunningDataflow.pruneStateLog, hk.filter_lt]
  rcases Nat.le_total (s.dataflow.minAck - k) s.dataflow.stateLog.length with hle | hle
  · refine ⟨_, hk.drop _, ?_⟩
    rw [length_drop]
    omega
  · rw [drop_of_length_le hle]
    exact ⟨s.changes.length, excerpt_nil, rfl⟩

private theorem Inv.acknowledge (hn : SettledUpTo s daemon n) :
    Inv dataflowId { s with dataflow := s.dataflow.acknowledge daemon n } := by
  simp only [RunningDataflow.acknowledge]
  split
  · refine (h.setAck ?_).prune
    rcases Nat.le_total (min n s.dataflow.stateLogSequence) (s.dataflow.lastAck daemon) with hle | hle
    · rw [max_eq_right hle]
      exact h.acked daemon
    · rw [max_eq_left hle]
      exact hn.of_le (min_le_left _ _)
  · exact h

/-! ## Changes -/

omit h in
private theorem log_append (df : RunningDataflow) {changes : List ParamOp} (operation : ParamOp)
    (hseq : df.stateLogSequence = changes.length) {k : Nat} (hk : Excerpt changes k df.stateLog)
    (hend : k + df.stateLog.length = changes.length) :
    ∃ k', Excerpt (changes ++ [operation]) k' (df.appendStateLog operation).stateLog ∧
      k' + (df.appendStateLog operation).stateLog.length = (changes ++ [operation]).length := by
  have hnew := hk.concat hend operation
  simp only [RunningDataflow.appendStateLog, hseq]
  split
  · refine ⟨_, hnew.drop _, ?_⟩
    simp only [length_drop, length_append, length_singleton]
    omega
  · refine ⟨k, hnew, ?_⟩
    simp only [length_append, length_singleton]
    omega

private theorem Inv.append {operation : ParamOp} {store : InMemoryStore}
    (hstore : persist dataflowId s.store operation = .ok store) :
    Inv dataflowId { s with
      store
      dataflow := s.dataflow.appendStateLog operation
      changes := s.changes ++ [operation] } := by
  have hfront : s.changes <+: s.changes ++ [operation] := prefix_append _ _
  have hmono {d : DaemonId} {n : Nat} (hn : SettledUpTo s d n) : SettledUpTo
      { s with
        store
        dataflow := s.dataflow.appendStateLog operation
        changes := s.changes ++ [operation] } d n :=
    hn.mono hfront (List.Subset.refl _) rfl
  obtain ⟨k, hk, hend⟩ := h.log
  refine ⟨?_, log_append s.dataflow operation h.sequence hk hend, fun id op hop => ?_,
    fun d => hmono (h.acked d), fun d entries hmem => ?_, fun d n hmem => hmono (h.acks d n hmem)⟩
  · simp [RunningDataflow.appendStateLog, h.sequence]
  · rw [storedParam_persist dataflowId hstore]
    rw [latest_concat] at hop
    split at hop
    · next hid => rw [if_pos hid, ← Option.some.inj hop]
    · next hid => rw [if_neg hid, h.stored id op hop]
  · obtain ⟨k, hk, hsettled⟩ := h.commands d entries hmem
    exact ⟨k, hk.mono hfront, hmono hsettled⟩

private theorem Inv.request (operation : ParamOp) (connected : Bool) :
    Inv dataflowId (s.request dataflowId operation connected) := by
  fun_cases s.request dataflowId operation connected with
  | case3 _ _ _ hstore => exact (h.append hstore).send fun entries he => by cases he
  | case4 _ _ _ hstore => exact h.append hstore
  | _ => exact h

/-! ## Catch-up -/

private theorem excerpt_stateLogDelta {entries : List StateCatchUpEntry}
    (hdelta : s.dataflow.stateLogDelta n = some entries) : Excerpt s.changes n entries := by
  obtain ⟨k, hk, -⟩ := h.log
  unfold RunningDataflow.stateLogDelta at hdelta
  split at hdelta
  · cases hdelta
    exact excerpt_nil
  · next oldest rest hlog =>
    have holdest : oldest.sequence = k + 1 := (hk 0 oldest (by rw [hlog]; rfl)).1
    split at hdelta
    · cases hdelta
    · next hle =>
      cases hdelta
      have hdrop := hk.drop (n - k)
      rwa [show k + (n - k) = n by omega, ← hk.filter_lt] at hdrop

private theorem settledUpTo_tell {operations : List ParamOp}
    (hops : ∀ i operation, s.changes[i]? = some operation →
      operation.id.nodeId ∈ s.dataflow.nodesOn daemon → Settled s i operation.id ∨
        ∃ value, storedParam dataflowId s.store operation.id = some value ∧
          .setParam operation.id value ∈ operations) :
    SettledUpTo (s.tell operations) daemon s.changes.length := by
  refine ⟨le_refl _, fun i hi operation hop hnode => ?_⟩
  rcases hops i operation hop hnode with ⟨j, op, hij, hid, hr⟩ | ⟨value, hvalue, hmem⟩
  · exact ⟨j, op, hij, hid, hr.mono (prefix_refl _) (subset_append_left _ _)⟩
  · -- the latest change of the parameter is the stored value, which was replayed
    obtain ⟨j, op, hlatest, hj, hij⟩ := exists_latest ParamOp.id hop rfl
    have hop' : op = .setParam operation.id value :=
      ParamOp.ext_value (key_of_latest ParamOp.id hlatest)
        ((h.stored _ _ hlatest).symm.trans hvalue)
    refine ⟨j, op, hij, key_of_latest ParamOp.id hlatest, hj, ⟨op, s.changes.length⟩, ?_, rfl,
      (List.getElem?_eq_some_iff.mp hj).1⟩
    exact mem_append_right _ (mem_map.mpr ⟨op, hop' ▸ hmem, rfl⟩)

private theorem Inv.sendAll (operations : List ParamOp) :
    Inv dataflowId (operations.foldl (fun s op => s.send daemon (.change op)) s) := by
  induction operations generalizing s with
  | nil => exact h
  | cons op operations ih => exact ih (h.send fun entries he => by cases he)

omit h in
private theorem mem_replayItems {report : Report} {id : ParamId} {value : List UInt8} :
    (id, value) ∈ s.replayItems dataflowId daemon report ↔
      id.nodeId ∈ s.dataflow.nodesOn daemon ∧ report.listed id.nodeId = true ∧
        storedParam dataflowId s.store id = some value := by
  simp only [replayItems, mem_flatMap, mem_filter, mem_collectParams]
  constructor
  · rintro ⟨nodeId, ⟨hon, hlisted⟩, rfl, hstored⟩
    exact ⟨hon, hlisted, hstored⟩
  · rintro ⟨hon, hlisted, hstored⟩
    exact ⟨id.nodeId, ⟨hon, hlisted⟩, rfl, hstored⟩

private theorem Inv.fallback (report : Report)
    (hdelta : s.dataflow.stateLogDelta (s.dataflow.lastAck daemon) = none)
    (hcovers : ReplayCovers dataflowId s (.statusReport daemon report)) :
    Inv dataflowId (s.fallback dataflowId daemon report) := by
  simp only [State.fallback]
  split
  · next hruns =>
    rw [Bool.and_eq_true] at hruns
    split
    · next hnone =>
      -- nothing failed, so all items were told
      have hall : ∀ item ∈ s.replayItems dataflowId daemon report,
          report.confirmed item.1 = true := by
        simpa [List.isEmpty_iff, List.filter_eq_nil_iff] using hnone
      have hcovers := hcovers ⟨hdelta, hruns.1, hruns.2, hall⟩
      rw [isEmpty_iff.mp hnone, filter_eq_self.mpr hall]
      refine (h.tell _).setAck ?_
      rw [map_nil, foldl_nil]
      refine h.sequence ▸ settledUpTo_tell h fun i operation hop hnode => ?_
      cases hstored : storedParam dataflowId s.store operation.id with
      | none => exact .inl (hcovers i operation hop hnode (.inl hstored))
      | some value =>
        cases hlisted : report.listed operation.id.nodeId with
        | false => exact .inl (hcovers i operation hop hnode (.inr hlisted))
        | true =>
          refine .inr ⟨value, rfl, mem_map.mpr ⟨(operation.id, value), ?_, rfl⟩⟩
          exact mem_replayItems.mpr ⟨hnode, hlisted, hstored⟩
    · exact (h.tell _).sendAll _
  · exact h

private theorem Inv.statusReport (report : Report)
    (hcovers : ReplayCovers dataflowId s (.statusReport daemon report)) :
    Inv dataflowId (s.statusReport dataflowId daemon report) := by
  fun_cases s.statusReport dataflowId daemon report with
  | case3 _ _ entries _ hdelta =>
    refine h.send fun entries' he => ?_
    cases he
    exact ⟨_, excerpt_stateLogDelta h hdelta, h.acked daemon⟩
  | case5 _ _ hdelta => exact h.fallback report hdelta hcovers
  | _ => exact h

omit h in
private theorem settledUpTo_delivered {delivered : List StateCatchUpEntry} {k : Nat}
    (hd : Excerpt s.changes k delivered) (hk : SettledUpTo s daemon k) :
    SettledUpTo (s.tell (delivered.map (·.operation))) daemon (appliedThrough delivered) := by
  cases hlast : delivered.getLast? with
  | none =>
    simp only [appliedThrough, hlast]
    exact settledUpTo_zero
  | some last =>
    obtain ⟨hseq, hle⟩ := hd.sequence_getLast hlast
    simp only [appliedThrough, hlast, Option.map_some, Option.getD_some, hseq]
    refine ⟨hle, fun i hi operation hop hnode => ?_⟩
    rcases Nat.lt_or_ge i k with hik | hik
    · have hmono : SettledUpTo (s.tell (delivered.map (·.operation))) daemon k :=
        hk.mono (prefix_refl _) (subset_append_left _ _) rfl
      exact hmono.2 i hik operation hop hnode
    · -- the change is one of the delivered entries
      have hlt : i - k < delivered.length := by omega
      obtain ⟨-, ho⟩ := hd (i - k) delivered[i - k] (getElem?_eq_getElem hlt)
      rw [Nat.add_sub_of_le hik] at ho
      cases hop.symm.trans ho
      have hmade : i < s.changes.length := by omega
      refine ⟨i, _, le_refl i, rfl, hop, ⟨_, s.changes.length⟩, ?_, rfl, hmade⟩
      refine mem_append_right _ (mem_map.mpr ⟨_, ?_, rfl⟩)
      exact mem_map.mpr ⟨_, getElem_mem hlt, rfl⟩

private theorem Inv.handleCommand (accepts : Nat → Bool) {command : Command}
    (hc : ∀ entries, command = .stateCatchUp entries →
      ∃ k, Excerpt s.changes k entries ∧ SettledUpTo s daemon k) :
    Inv dataflowId (s.handleCommand daemon accepts command) := by
  cases command with
  | change operation =>
    simp only [State.handleCommand]
    split
    · exact h.tell _
    · exact h
  | stateCatchUp entries =>
    obtain ⟨k, hk, hsettled⟩ := hc entries rfl
    have hdelivered : Excerpt s.changes k
        (applyStateCatchUpEntries (s.dataflow.nodesOn daemon) accepts entries) :=
      hk.of_isPrefix (List.takeWhile_prefix _)
    have htold := settledUpTo_delivered hdelivered hsettled
    simp only [State.handleCommand]
    split
    · refine { h.tell _ with acks := fun d n hmem => ?_ }
      by_cases hd : d = daemon
      · subst hd
        simp only [update_self, mem_append, mem_singleton] at hmem
        rcases hmem with hmem | rfl
        · exact (h.tell _).acks d n hmem
        · exact htold
      · simp only [update_of_ne hd] at hmem
        exact (h.tell _).acks d n hmem
    · exact h.tell _

/-! ## Every run -/

private theorem Inv.step (input : Input) (hcovers : ReplayCovers dataflowId s input) :
    Inv dataflowId (StateLog.step dataflowId s input).1 := by
  cases input with
  | request operation connected => exact h.request operation connected
  | statusReport daemon report => exact h.statusReport report hcovers
  | receiveAck daemon =>
    simp only [StateLog.step]
    split
    · exact h
    · next n acks hacks =>
      have hn : SettledUpTo s daemon n := h.acks daemon n (by simp [hacks])
      exact (h.acknowledge hn).of_subset (fun _ => List.Subset.refl _)
        (Machine.update_subset (hacks ▸ subset_cons_self _ _))
  | handleCommand daemon accepts =>
    simp only [StateLog.step]
    split
    · exact h
    · next command commands hcommands =>
      have hrest := h.of_subset (Machine.update_subset
        (hcommands ▸ subset_cons_self _ _))
        (fun _ => List.Subset.refl _)
      exact hrest.handleCommand accepts fun entries he =>
        h.commands daemon entries (by simp [hcommands, he])
  | startupReplay daemon id value => exact h.send fun entries he => by cases he
  | loseCommand daemon =>
    exact h.of_subset (Machine.update_subset (tail_sublist _).subset) fun _ => List.Subset.refl _
  | loseAck daemon =>
    exact h.of_subset (fun _ => List.Subset.refl _) (Machine.update_subset (tail_sublist _).subset)

end Step

/-- In every run in which no successful replay leaves an unsettled change out, all changes up to an
acknowledged sequence number are settled. -/
theorem acksSettled_of_replayCovers (daemons : List DaemonId)
    (nodeToDaemon : List (NodeId × DaemonId)) (store : InMemoryStore) (inputs : List Input)
    (hcovers : Machine.Along (step dataflowId) (ReplayCovers dataflowId)
      (start daemons nodeToDaemon store) inputs) :
    AcksSettled (Machine.run (step dataflowId) (start daemons nodeToDaemon store) inputs).1 :=
  (Machine.invariant (step dataflowId) (Inv dataflowId) (fun _ input h hc => h.step input hc) _
    inputs (inv_start daemons nodeToDaemon store) hcovers).acked

private def setRate : ParamOp := .setParam ⟨⟨"cam"⟩, "rate"⟩ [49]

/-- One daemon with one node. -/
def oneNode : State := start [DaemonId.nil] [(⟨"cam"⟩, DaemonId.nil)] {}

/-- A change that a daemon missed is replayed and settled. -/
theorem missedChange_acksSettled :
    let s := (Machine.run (step nilUuid) oneNode [.request setRate false,
      .statusReport DaemonId.nil {}, .handleCommand DaemonId.nil fun _ => true,
      .receiveAck DaemonId.nil]).1
    s.dataflow.lastAck DaemonId.nil = 1 ∧ AcksSettled s :=
  ⟨rfl, acksSettled_of_replayCovers _ _ _ _
    ⟨trivial, fun h => absurd h.1 (by decide), trivial, trivial, trivial⟩⟩

/-! ## A deletion that the fallback does not replay -/

private def deleteGain : ParamOp := .deleteParam ⟨⟨"cam"⟩, "gain"⟩

/-- Changes that are made while the daemon is away: a deletion, then `n` times a new value of
another parameter. -/
def missedChanges (n : Nat) : List Input :=
  .request deleteGain false :: List.replicate n (.request setRate false)

private structure Missed (s : State) (n : Nat) : Prop where
  inv : Inv nilUuid s
  changes : s.changes = deleteGain :: List.replicate n setRate
  told : s.told = []
  lastAck : s.dataflow.lastAck DaemonId.nil = 0
  daemons : s.dataflow.daemons = [DaemonId.nil]
  nodeToDaemon : s.dataflow.nodeToDaemon = [(⟨"cam"⟩, DaemonId.nil)]
  length_le : s.dataflow.stateLog.length ≤ maxStateLogEntries
  nonempty : s.dataflow.stateLog ≠ []

private theorem length_appendStateLog (df : RunningDataflow) (operation : ParamOp) :
    (df.appendStateLog operation).stateLog.length = min (df.stateLog.length + 1) maxStateLogEntries := by
  simp only [RunningDataflow.appendStateLog, length_append, length_singleton]
  split
  · rw [length_drop, length_append, length_singleton]
    omega
  · rw [length_append, length_singleton]
    omega

private theorem Missed.next {n : Nat} (h : Missed s n) :
    Missed (s.request nilUuid setRate false) (n + 1) := by
  obtain ⟨store, hstore⟩ : ∃ store, persist nilUuid s.store setRate = .ok store := ⟨_, rfl⟩
  have hrequest : s.request nilUuid setRate false = { s with
      store
      dataflow := s.dataflow.appendStateLog setRate
      changes := s.changes ++ [setRate] } := by
    have hlookup : s.dataflow.nodeToDaemon.lookup setRate.id.nodeId = some DaemonId.nil := by
      rw [h.nodeToDaemon]
      rfl
    simp only [request, hlookup, hstore]
    rfl
  have hlength := length_appendStateLog s.dataflow setRate
  rw [hrequest]
  refine ⟨h.inv.append hstore, ?_, h.told, h.lastAck, h.daemons, h.nodeToDaemon, ?_, ?_⟩
  · rw [h.changes, replicate_succ']
    rfl
  · rw [hlength]
    exact min_le_right _ _
  · rw [← length_pos_iff, hlength, maxStateLogEntries]
    omega

private theorem missed_run (n : Nat) :
    Missed (Machine.run (step nilUuid) oneNode (missedChanges n)).1 n := by
  induction n with
  | zero =>
    refine ⟨?_, rfl, rfl, rfl, rfl, rfl, by decide, by decide⟩
    change Inv nilUuid (step nilUuid oneNode (.request deleteGain false)).1
    exact (inv_start _ _ _).step _ trivial
  | succ n ih =>
    rw [missedChanges, replicate_succ', ← cons_append, Machine.run_append_fst]
    exact ih.next

private theorem Missed.stateLogDelta {n : Nat} (h : Missed s n) (hn : maxStateLogEntries ≤ n) :
    s.dataflow.stateLogDelta 0 = none := by
  obtain ⟨k, hk, hend⟩ := h.inv.log
  rw [h.changes, length_cons, length_replicate] at hend
  unfold RunningDataflow.stateLogDelta
  split
  · next hnil => exact absurd hnil h.nonempty
  · next oldest rest hlog =>
    have holdest : oldest.sequence = k + 1 := (hk 0 oldest (by rw [hlog]; rfl)).1
    have := h.length_le
    rw [if_pos (by omega)]

/-- The status report makes the coordinator replay the stored parameters and advance the number. -/
theorem Missed.statusReport {n : Nat} (h : Missed s n) (hn : maxStateLogEntries ≤ n) :
    s' = (step nilUuid s (.statusReport DaemonId.nil {})).1 →
      s'.changes = s.changes ∧ s'.dataflow.nodesOn = s.dataflow.nodesOn ∧
        s'.dataflow.lastAck DaemonId.nil = s.changes.length ∧
        ∀ told ∈ s'.told, told.operation ≠ deleteGain := by
  rintro rfl
  have hseq : ¬ (DaemonId.nil ∉ [DaemonId.nil] ∨ s.dataflow.stateLogSequence ≤ 0) := by
    simp [h.inv.sequence, h.changes]
  simp only [step, statusReport, h.daemons, h.lastAck, h.stateLogDelta hn, if_neg hseq]
  simp only [fallback, Bool.and_self, ↓reduceIte, Bool.not_true, filter_false,
    filter_true, map_nil, foldl_nil, isEmpty_nil]
  refine ⟨rfl, rfl, ?_, fun told htold => ?_⟩
  · exact (lastAck_insert _ _).trans ((if_pos rfl).trans h.inv.sequence)
  · simp only [State.tell, h.told, nil_append, map_map, mem_map] at htold
    obtain ⟨item, -, rfl⟩ := htold
    exact ParamOp.noConfusion

private theorem not_acksSettled_of_missed {n : Nat} (h : Missed s n) (hn : maxStateLogEntries ≤ n) :
    ¬ AcksSettled (step nilUuid s (.statusReport DaemonId.nil {})).1 := by
  intro hsettled
  have hnode : deleteGain.id.nodeId ∈ s.dataflow.nodesOn DaemonId.nil := by
    simp [RunningDataflow.nodesOn, h.nodeToDaemon, deleteGain, ParamOp.id]
  obtain ⟨hchanges, hnodes, hack, htold⟩ := h.statusReport hn rfl
  have hacked := hsettled DaemonId.nil
  rw [hack] at hacked
  obtain ⟨j, operation, -, hid, ⟨hj, told, hmem, hop, -⟩⟩ := hacked.2 0 (by simp [h.changes])
    deleteGain (by simp [hchanges, h.changes]) (hnodes ▸ hnode)
  -- the deletion is the only change of its parameter
  have hdelete : operation = deleteGain := by
    have hmem := mem_of_getElem? hj
    rw [hchanges, h.changes, mem_cons] at hmem
    refine hmem.resolve_right fun hrate => ?_
    rw [eq_of_mem_replicate hrate] at hid
    exact absurd hid (by decide)
  exact htold told hmem (hop.trans hdelete)

private theorem not_acksSettled_run (n : Nat) (hn : maxStateLogEntries ≤ n) :
    ¬ AcksSettled (Machine.run (step nilUuid) oneNode
      (missedChanges n ++ [.statusReport DaemonId.nil {}])).1 := by
  rw [Machine.run_append_fst]
  exact not_acksSettled_of_missed (missed_run n) hn

/-- A daemon misses a deletion and as many changes as the log holds. The fallback replays what is
stored and counts the deletion as acknowledged. -/
theorem missedDeletion_not_acksSettled : ¬ AcksSettled (Machine.run (step nilUuid) oneNode
    (missedChanges maxStateLogEntries ++ [.statusReport DaemonId.nil {}])).1 :=
  not_acksSettled_run maxStateLogEntries le_rfl

end DoraSpec.Coordinator.StateLog
