import Mathlib.Data.Finset.Card
import DoraSpec.Base.Machine
import DoraSpec.Store.CoordinatorStore

/-!
# Waiting for the daemons of a dataflow

Source `binaries/coordinator/src/lib.rs:402-490, 1646-1711, 1818-1824` and `handlers.rs:571-628`. The
daemons of a dataflow report when their nodes are ready, and after the last report the coordinator
tells all of them to go ahead. It looks whether reports are missing only when one arrives, not when
it gives up a daemon. A message to a connection whose socket is closed ends the coordinator; until it
handles the end of the connection, it still has such connections.
-/

namespace DoraSpec.Coordinator.Readiness
open Base Message Store Function Finset
open Recording (Uuid)

/-! ## One dataflow -/

/-- What readiness depends on; `state.rs:172-182`. -/
structure RunningDataflow where
  daemons : Finset DaemonId
  pendingDaemons : Finset DaemonId
  exitedBeforeSubscribe : List NodeId := []

namespace RunningDataflow

/-- A dataflow on a single daemon does not wait; `start_dataflow`, `handlers.rs:598-609`. -/
def start (daemons : Finset DaemonId) : RunningDataflow where
  daemons
  pendingDaemons := if 1 < daemons.card then daemons else ∅

/-- A daemon reports that its nodes are ready; `lib.rs:408-412`. -/
def ready (df : RunningDataflow) (daemon : DaemonId) (exited : List NodeId) : RunningDataflow :=
  { df with
    pendingDaemons := df.pendingDaemons.erase daemon
    exitedBeforeSubscribe := df.exitedBeforeSubscribe ++ exited }

/-- Daemons that are told to go ahead; `lib.rs:413-441`. -/
def released (df : RunningDataflow) (connections : Finset DaemonId) : Finset DaemonId :=
  if df.pendingDaemons = ∅ then df.daemons ∩ connections else ∅

/-- The watchdog gives up daemons; `lib.rs:1683-1688`. -/
def disconnect (df : RunningDataflow) (disconnected : Finset DaemonId) : RunningDataflow :=
  { df with
    daemons := df.daemons \ disconnected
    pendingDaemons := df.pendingDaemons \ disconnected }

end RunningDataflow

/-! ## All dataflows -/

/-- What has happened to a dataflow: the daemons that have stayed connected since its start, those
that have reported, and those that were told to go ahead. -/
structure History where
  kept : Finset DaemonId := ∅
  reported : Finset DaemonId := ∅
  told : Finset DaemonId := ∅

/-- Tables of the main loop; `lib.rs:267-274`. -/
structure State where
  daemonConnections : Finset DaemonId := ∅
  /-- Connections whose socket is closed; `ws_daemon.rs:21-97`. -/
  closed : Finset DaemonId := ∅
  /-- The coordinator has ended with an error. -/
  failed : Bool := false
  runningDataflows : Uuid → Option RunningDataflow := fun _ => none
  history : Uuid → History := fun _ => {}

/-- Event of the main loop. -/
inductive Event where
  /-- A dataflow was spawned on its daemons. -/
  | start (uuid : Uuid) (daemons : Finset DaemonId)
  | readyOnDaemon (uuid : Uuid) (daemon : DaemonId) (exitedBeforeSubscribe : List NodeId)
  | dataflowFinishedOnDaemon (uuid : Uuid) (daemon : DaemonId)
  | register (daemon : DaemonId)
  /-- The socket of a connection is closed, and `DaemonExit` will follow. -/
  | socketClosed (daemon : DaemonId)
  | daemonExit (daemon : DaemonId)
  /-- Daemons whose heartbeat is overdue. -/
  | heartbeatInterval (disconnected : Finset DaemonId)

namespace State

/-- Receivers before the first one whose connection is closed; `lib.rs:427-441`. -/
def reached (s : State) (receivers : Finset DaemonId) : Finset DaemonId :=
  receivers.filter fun d => ∀ c ∈ receivers ∩ s.closed, compare d c = .lt

/-- A dataflow is spawned only on daemons that are connected; `handlers.rs:571-628`. -/
def start (s : State) (uuid : Uuid) (daemons : Finset DaemonId) : State :=
  if daemons ⊆ s.daemonConnections \ s.closed then
    { s with
      runningDataflows := update s.runningDataflows uuid (some (.start daemons))
      history := update s.history uuid { kept := daemons } }
  else s

/-- `lib.rs:402-456`. -/
def readyOnDaemon (s : State) (uuid : Uuid) (daemon : DaemonId) (exited : List NodeId) : State :=
  match s.runningDataflows uuid with
  | none => s
  | some df =>
    let df := df.ready daemon exited
    let h := s.history uuid
    { s with
      runningDataflows := update s.runningDataflows uuid (some df)
      history := update s.history uuid { h with
        reported := insert daemon h.reported
        told := h.told ∪ s.reached (df.released s.daemonConnections) }
      failed := (df.released s.daemonConnections ∩ s.closed).Nonempty }

/-- `lib.rs:457-480`. -/
def finishedOnDaemon (s : State) (uuid : Uuid) (daemon : DaemonId) : State :=
  match s.runningDataflows uuid with
  | none => s
  | some df =>
    let df := { df with daemons := df.daemons.erase daemon }
    let left := if df.daemons = ∅ then none else some df
    { s with runningDataflows := update s.runningDataflows uuid left }

/-- Forget the connections of daemons. -/
def close (s : State) (daemons : Finset DaemonId) : State :=
  { s with
    daemonConnections := s.daemonConnections \ daemons
    closed := s.closed \ daemons
    history := fun uuid => { s.history uuid with kept := (s.history uuid).kept \ daemons } }

/-- `lib.rs:1674-1695`. -/
def heartbeatInterval (s : State) (disconnected : Finset DaemonId) : State :=
  { s.close disconnected with
    runningDataflows := fun uuid => (s.runningDataflows uuid).map (·.disconnect disconnected) }

end State

/-- One turn of the main loop. -/
def turn (s : State) : Event → State
  | .start uuid daemons => s.start uuid daemons
  | .readyOnDaemon uuid daemon exited => s.readyOnDaemon uuid daemon exited
  | .dataflowFinishedOnDaemon uuid daemon => s.finishedOnDaemon uuid daemon
  | .register daemon =>
    { s with daemonConnections := insert daemon s.daemonConnections, closed := s.closed.erase daemon }
  | .socketClosed daemon => { s with closed := insert daemon s.closed }
  | .daemonExit daemon => s.close {daemon}
  | .heartbeatInterval disconnected => s.heartbeatInterval disconnected

/-- A coordinator that has ended does nothing any more. -/
def step (s : State) (e : Event) : State × Unit := (if s.failed then s else turn s e, ())

/-! ## Releases -/

/-- If every daemon of a running dataflow that is still connected has reported, then all of these were
told to go ahead. -/
def Released (s : State) : Prop :=
  ∀ uuid df, s.runningDataflows uuid = some df →
    (∀ daemon ∈ df.daemons, daemon ∈ (s.history uuid).kept → daemon ∈ (s.history uuid).reported) →
      ∀ daemon ∈ df.daemons, daemon ∈ (s.history uuid).kept → daemon ∈ (s.history uuid).told

/-- A daemon that leaves is not waited for by a running dataflow. If it is given up by the watchdog,
the dataflow may also wait for another daemon. When no other report is missing, no connection of the
dataflow is closed. -/
def LeavesReady (s : State) : Event → Prop
  | .readyOnDaemon uuid daemon _ => ∀ df ∈ s.runningDataflows uuid, df.pendingDaemons ⊆ {daemon} →
      Disjoint (df.daemons ∩ s.daemonConnections) s.closed
  | .dataflowFinishedOnDaemon uuid daemon =>
    ∀ df ∈ s.runningDataflows uuid, daemon ∉ df.pendingDaemons
  | .daemonExit daemon => ∀ uuid, ∀ df ∈ s.runningDataflows uuid, daemon ∉ df.pendingDaemons
  | .heartbeatInterval disconnected => ∀ uuid, ∀ df ∈ s.runningDataflows uuid,
      df.pendingDaemons ⊆ disconnected → df.pendingDaemons = ∅
  | _ => True

/-- A dataflow waits for connected daemons that have not reported. If it waits for none, all were told
to go ahead, or it has one daemon that need not report. -/
structure Waiting (df : RunningDataflow) (connections : Finset DaemonId) (h : History) : Prop where
  kept_subset : h.kept ⊆ connections
  pending_subset : df.pendingDaemons ⊆ df.daemons ∩ h.kept
  not_reported : ∀ daemon ∈ df.pendingDaemons, daemon ∉ h.reported
  released : df.pendingDaemons = ∅ →
    df.daemons ∩ h.kept ⊆ h.told ∨ ∃ daemon, df.daemons ∩ h.kept ⊆ {daemon} ∧ daemon ∉ h.reported

namespace Waiting

variable {df : RunningDataflow} {connections : Finset DaemonId} {h : History}

/-- A dataflow is started on connected daemons. -/
theorem start {daemons : Finset DaemonId} (hconnected : daemons ⊆ connections) :
    Waiting (.start daemons) connections { kept := daemons } := by
  refine ⟨hconnected, ?_, by simp, fun hnone => .inr ?_⟩
  · simp only [RunningDataflow.start, inter_self]
    split <;> simp
  · have : Nonempty DaemonId := ⟨.nil⟩
    have hcard : daemons.card ≤ 1 := by
      by_contra hlt
      simp only [RunningDataflow.start, if_pos (not_le.mp hlt)] at hnone
      simp [hnone] at hlt
    obtain ⟨daemon, hdaemon⟩ := card_le_one_iff_subset_singleton.mp hcard
    exact ⟨daemon, by simpa [RunningDataflow.start] using hdaemon, by simp⟩

variable (hw : Waiting df connections h)
include hw

/-- A daemon reports. -/
theorem ready (daemon : DaemonId) (exited : List NodeId) :
    Waiting (df.ready daemon exited) connections
      { h with
        reported := insert daemon h.reported
        told := h.told ∪ (df.ready daemon exited).released connections } := by
  refine ⟨hw.kept_subset, (erase_subset _ _).trans hw.pending_subset, ?_, fun hnone => .inl ?_⟩
  · intro other hother
    obtain ⟨hne, hpending⟩ := mem_erase.mp hother
    simp [hne, hw.not_reported other hpending]
  · rw [RunningDataflow.released, if_pos hnone]
    exact (inter_subset_inter_left hw.kept_subset).trans subset_union_right

private theorem mono {df' : RunningDataflow} {connections' kept' : Finset DaemonId}
    (hkept : kept' ⊆ connections') (hsub : df'.daemons ∩ kept' ⊆ df.daemons ∩ h.kept)
    (hpending : df'.pendingDaemons ⊆ df.pendingDaemons)
    (hleft : df'.pendingDaemons ⊆ df'.daemons ∩ kept')
    (hnone : df'.pendingDaemons = ∅ → df.pendingDaemons = ∅) :
    Waiting df' connections' { h with kept := kept' } := by
  refine ⟨hkept, hleft, fun daemon hdaemon => hw.not_reported daemon (hpending hdaemon), fun h' => ?_⟩
  refine (hw.released (hnone h')).imp hsub.trans ?_
  rintro ⟨daemon, hdaemon, hreported⟩
  exact ⟨daemon, hsub.trans hdaemon, hreported⟩

private theorem finished {daemon : DaemonId} (hready : daemon ∉ df.pendingDaemons) :
    Waiting { df with daemons := df.daemons.erase daemon } connections h := by
  refine hw.mono hw.kept_subset ?_ subset_rfl (fun other hother => ?_) id
  · exact inter_subset_inter_right (erase_subset _ _)
  · obtain ⟨hdaemon, hkept⟩ := mem_inter.mp (hw.pending_subset hother)
    have hne : other ≠ daemon := fun heq => hready (heq ▸ hother)
    exact mem_inter.mpr ⟨mem_erase.mpr ⟨hne, hdaemon⟩, hkept⟩

private theorem close {daemons : Finset DaemonId}
    (hready : ∀ daemon ∈ daemons, daemon ∉ df.pendingDaemons) :
    Waiting df (connections \ daemons) { h with kept := h.kept \ daemons } := by
  refine hw.mono (sdiff_subset_sdiff hw.kept_subset subset_rfl) ?_ subset_rfl
    (fun other hother => ?_) id
  · exact inter_subset_inter_left sdiff_subset
  · obtain ⟨hdaemon, hkept⟩ := mem_inter.mp (hw.pending_subset hother)
    have hopen : other ∉ daemons := fun hmem => hready other hmem hother
    exact mem_inter.mpr ⟨hdaemon, mem_sdiff.mpr ⟨hkept, hopen⟩⟩

/-- Daemons are given up. -/
theorem disconnect {disconnected : Finset DaemonId}
    (hready : df.pendingDaemons ⊆ disconnected → df.pendingDaemons = ∅) :
    Waiting (df.disconnect disconnected) (connections \ disconnected)
      { h with kept := h.kept \ disconnected } := by
  refine hw.mono (sdiff_subset_sdiff hw.kept_subset subset_rfl) ?_ sdiff_subset
    (fun other hother => ?_) fun hnone => hready (sdiff_eq_empty_iff_subset.mp hnone)
  · exact inter_subset_inter sdiff_subset sdiff_subset
  · obtain ⟨hpending, hopen⟩ := mem_sdiff.mp hother
    obtain ⟨hdaemon, hkept⟩ := mem_inter.mp (hw.pending_subset hpending)
    exact mem_inter.mpr
      ⟨mem_sdiff.mpr ⟨hdaemon, hopen⟩, mem_sdiff.mpr ⟨hkept, hopen⟩⟩

end Waiting

/-- Every running dataflow waits. -/
def AllWaiting (s : State) : Prop :=
  ∀ uuid, ∀ df ∈ s.runningDataflows uuid, Waiting df s.daemonConnections (s.history uuid)

private theorem released_of_allWaiting {s : State} (h : AllWaiting s) : Released s := by
  intro uuid df hdf hreported daemon hdaemon hkept
  have hw := h uuid df hdf
  have hmem : daemon ∈ df.daemons ∩ (s.history uuid).kept := mem_inter.mpr ⟨hdaemon, hkept⟩
  have hnone : df.pendingDaemons = ∅ := by
    refine eq_empty_of_forall_notMem fun other hother => hw.not_reported other hother ?_
    obtain ⟨hother, hkept⟩ := mem_inter.mp (hw.pending_subset hother)
    exact hreported other hother hkept
  rcases hw.released hnone with htold | ⟨other, hsingle, hnot⟩
  · exact htold hmem
  · obtain rfl := mem_singleton.mp (hsingle hmem)
    exact absurd (hreported daemon hdaemon hkept) hnot

private theorem AllWaiting.update {s : State} (h : AllWaiting s) (uuid : Uuid)
    (df : Option RunningDataflow)
    (history : History) (hw : ∀ df' ∈ df, Waiting df' s.daemonConnections history) :
    AllWaiting { s with
      runningDataflows := update s.runningDataflows uuid df
      history := update s.history uuid history } := by
  intro other df' hdf'
  by_cases hother : other = uuid
  · subst hother
    simp only [update_self] at hdf' ⊢
    exact hw df' hdf'
  · simp only [update_of_ne hother] at hdf' ⊢
    exact h other df' hdf'

private theorem reached_eq {s : State} {receivers : Finset DaemonId}
    (h : Disjoint receivers s.closed) : s.reached receivers = receivers := by
  simp [State.reached, disjoint_iff_inter_eq_empty.mp h]

private theorem disjoint_released {s : State} {df : RunningDataflow} {daemon : DaemonId}
    (exited : List NodeId) (h : df.pendingDaemons ⊆ {daemon} →
      Disjoint (df.daemons ∩ s.daemonConnections) s.closed) :
    Disjoint ((df.ready daemon exited).released s.daemonConnections) s.closed := by
  unfold RunningDataflow.released
  split
  · next hnone =>
    refine h ((erase_eq_empty_iff _ _).mp hnone |>.elim (fun hempty => ?_) fun hsingle => ?_)
    · simp [hempty]
    · rw [hsingle]
  · exact disjoint_empty_left _

private theorem allWaiting_turn {s : State} {e : Event} (h : AllWaiting s)
    (hleaves : LeavesReady s e) :
    AllWaiting (turn s e) := by
  cases e with
  | start uuid daemons =>
    dsimp only [turn, State.start]
    split
    · next hconnected =>
      refine h.update uuid _ _ fun df hdf => ?_
      cases hdf
      exact .start (hconnected.trans sdiff_subset)
    · exact h
  | readyOnDaemon uuid daemon exited =>
    dsimp only [turn, State.readyOnDaemon]
    split
    · exact h
    · next df hdf =>
      rw [reached_eq (disjoint_released exited (hleaves df hdf))]
      refine h.update uuid _ _ fun df' hdf' => ?_
      cases hdf'
      exact (h uuid df hdf).ready daemon exited
  | socketClosed daemon => exact h
  | dataflowFinishedOnDaemon uuid daemon =>
    dsimp only [turn, State.finishedOnDaemon]
    split
    · exact h
    · next df hdf =>
      have hw := (h uuid df hdf).finished (hleaves df hdf)
      have hupdate := h.update uuid
        (if df.daemons.erase daemon = ∅ then none
          else some { df with daemons := df.daemons.erase daemon }) (s.history uuid) fun df' hdf' => ?_
      · simpa using hupdate
      · split at hdf'
        · cases hdf'
        · cases hdf'
          exact hw
  | register daemon =>
    intro uuid df hdf
    have hw := h uuid df hdf
    exact { hw with kept_subset := hw.kept_subset.trans (subset_insert _ _) }
  | daemonExit daemon =>
    intro uuid df hdf
    refine (h uuid df hdf).close fun other hother => ?_
    obtain rfl := mem_singleton.mp hother
    exact hleaves uuid df hdf
  | heartbeatInterval disconnected =>
    intro uuid df hdf
    obtain ⟨df', hdf', rfl⟩ := Option.mem_map.mp hdf
    exact (h uuid df' hdf').disconnect (hleaves uuid df' hdf')

private theorem allWaiting_step {s : State} {e : Event} (h : AllWaiting s)
    (hleaves : LeavesReady s e) : AllWaiting (step s e).1 := by
  dsimp only [step]
  split
  · exact h
  · exact allWaiting_turn h hleaves

/-- In every run in which daemons leave only if no dataflow waits for them, and last reports arrive only
while all connections are open, daemons are told to go ahead as soon as all that are connected have
reported. -/
theorem ready_released (events : List Event) (hleaves : Machine.Along step LeavesReady {} events) :
    Machine.Along step (fun s e => Released (step s e).1) {} events :=
  Machine.Along.imp step AllWaiting
    (fun _ _ h hleaves => ⟨released_of_allWaiting (allWaiting_step h hleaves), allWaiting_step h hleaves⟩)
    (fun _ _ hdf => nomatch hdf) hleaves

/-- Daemons of a dataflow on two machines. -/
def left : DaemonId := ⟨some "left", nilUuid⟩

@[inherit_doc left]
def right : DaemonId := ⟨some "right", nilUuid⟩

/-- A dataflow is started on both. -/
def startBoth : List Event := [.register left, .register right, .start nilUuid {left, right}]

/-- Both daemons report and are told. -/
theorem bothReady_released :
    Machine.Along step (fun s e => Released (step s e).1) {}
      (startBoth ++ [.readyOnDaemon nilUuid left [], .readyOnDaemon nilUuid right []]) :=
  ready_released _ ⟨True.intro, True.intro, True.intro, fun _ _ _ => disjoint_empty_right _,
    fun _ _ _ => disjoint_empty_right _, True.intro⟩

/-- The second daemon is given up after the first has reported, which is told nothing. -/
theorem givenUp_not_released :
    ¬ Machine.Along step (fun s e => Released (step s e).1) {}
      (startBoth ++ [.readyOnDaemon nilUuid left [], .heartbeatInterval {right}]) := by
  intro h
  have htold := h.2.2.2.2.1 nilUuid _ rfl (by decide) left (by decide) (by decide)
  exact absurd htold (by decide)

end DoraSpec.Coordinator.Readiness
