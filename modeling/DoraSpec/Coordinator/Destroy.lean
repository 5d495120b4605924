import DoraSpec.Coordinator.Lifecycle

/-!
# Destroying the coordinator

Source `binaries/coordinator/src/handlers.rs:159-195` and `handlers.rs:630-675`. A destroy request
stops one dataflow after the other and then destroys all daemons at once. The first stop command
that fails ends it.
-/

namespace DoraSpec.Coordinator.Lifecycle
open Store List
open Recording (Uuid)

/-! ## The request -/

/-- Replies to stop commands: an error also stands for a command that could not be sent, or that was
not answered in time. -/
abbrev StopReplies := Uuid → DaemonId → Except String Unit

/-- Stop one dataflow after the other, until one fails; `handlers.rs:176-186`. -/
def stopDataflows (s : State) (replies : StopReplies) :
    List Uuid → List (Uuid × DaemonId) × Except String Unit
  | [] => ([], .ok ())
  | uuid :: uuids =>
    match s.runningDataflows[uuid]? with
    | none => ([], .error s!"no known running dataflow found with UUID `{uuidText uuid}`")
    | some df =>
      let (sent, result) := sendStops s.daemonConnections (replies uuid) df.daemons
      match result with
      | .error e => (sent.map (uuid, ·), .error e)
      | .ok () =>
        let (more, result) := stopDataflows s replies uuids
        (sent.map (uuid, ·) ++ more, result)

/-- What a destroy request sends, and its result. -/
structure Destroyed where
  stopsSent : List (Uuid × DaemonId)
  destroysSent : Finset DaemonId
  result : Except String Unit

/-- `handle_destroy`, `handlers.rs:159-195`. All daemons get the destroy command before the first
error among the replies is returned; `handlers.rs:659-675`. -/
def handleDestroy (s : State) (replies : StopReplies) (destroyReplies : Except String Unit) :
    Destroyed :=
  match stopDataflows s replies s.runningDataflows.keys with
  | (stopsSent, .error e) => ⟨stopsSent, ∅, .error e⟩
  | (stopsSent, .ok ()) => ⟨stopsSent, s.daemonConnections, destroyReplies⟩

/-- Every connected daemon that runs a dataflow is told to stop it, and every connected daemon gets
the destroy command. -/
structure ReachesAll (s : State) (d : Destroyed) : Prop where
  stops : ∀ uuid df, s.runningDataflows[uuid]? = some df → ∀ daemon ∈ df.daemons,
    daemon ∈ s.daemonConnections → (uuid, daemon) ∈ d.stopsSent
  destroys : ∀ daemon ∈ s.daemonConnections, daemon ∈ d.destroysSent

/-- Every daemon that is listed for a running dataflow is connected and takes the stop command. -/
def AllStop (s : State) (replies : StopReplies) : Prop :=
  ∀ uuid df, s.runningDataflows[uuid]? = some df → ∀ daemon ∈ df.daemons,
    daemon ∈ s.daemonConnections ∧ replies uuid daemon = .ok ()

/-! ## What is sent -/

variable {s : State} {replies : StopReplies} {connections : Finset DaemonId}

private theorem sendStops_eq_ok {replies : DaemonId → Except String Unit}
    {daemons : List DaemonId} :
    (sendStops connections replies daemons).2 = .ok () ↔
      ∀ daemon ∈ daemons, daemon ∈ connections ∧ replies daemon = .ok () := by
  induction daemons with
  | nil => simp [sendStops]
  | cons daemon daemons ih =>
    rw [sendStops, forall_mem_cons, ← ih]
    split
    · next hc =>
      cases hr : replies daemon <;> simp [hc]
    · next hc => simp [hc]

private theorem sendStops_sent {replies : DaemonId → Except String Unit} {daemons : List DaemonId}
    (h : (sendStops connections replies daemons).2 = .ok ()) :
    (sendStops connections replies daemons).1 = daemons := by
  induction daemons with
  | nil => rfl
  | cons daemon daemons ih =>
    rw [sendStops] at h ⊢
    split at h
    · next hc =>
      rw [if_pos hc]
      cases hr : replies daemon with
      | error e => simp [hr] at h
      | ok u =>
        simp only [hr] at h
        simp [ih h]
    · simp at h

private theorem stopDataflows_eq_ok {uuids : List Uuid}
    (hu : ∀ uuid ∈ uuids, uuid ∈ s.runningDataflows) :
    (stopDataflows s replies uuids).2 = .ok () ↔ ∀ uuid ∈ uuids, ∀ df ∈ s.runningDataflows[uuid]?,
      ∀ daemon ∈ df.daemons, daemon ∈ s.daemonConnections ∧ replies uuid daemon = .ok () := by
  induction uuids with
  | nil => simp [stopDataflows]
  | cons uuid uuids ih =>
    have hrest := ih fun u h => hu u (mem_cons_of_mem _ h)
    have hmem := hu uuid mem_cons_self
    rw [← Std.ExtTreeMap.isSome_getElem?_iff_mem, Option.isSome_iff_exists] at hmem
    obtain ⟨df, hdf⟩ := hmem
    have hfirst : (sendStops s.daemonConnections (replies uuid) df.daemons).2 = .ok () ↔ _ :=
      sendStops_eq_ok
    simp only [stopDataflows, hdf, forall_mem_cons, Option.mem_some_iff, forall_eq', ← hrest,
      ← hfirst]
    cases (sendStops s.daemonConnections (replies uuid) df.daemons).2 <;> simp

private theorem stopDataflows_sent {uuids : List Uuid}
    (h : (stopDataflows s replies uuids).2 = .ok ())
    {uuid : Uuid} (hu : uuid ∈ uuids) {df : RunningDataflow}
    (hdf : s.runningDataflows[uuid]? = some df) {daemon : DaemonId} (hd : daemon ∈ df.daemons) :
    (uuid, daemon) ∈ (stopDataflows s replies uuids).1 := by
  induction uuids with
  | nil => exact absurd hu not_mem_nil
  | cons first uuids ih =>
    rw [stopDataflows] at h ⊢
    cases hfirst : s.runningDataflows[first]? with
    | none => simp [hfirst] at h
    | some df' =>
      simp only [hfirst] at h ⊢
      cases hstop : (sendStops s.daemonConnections (replies first) df'.daemons).2 with
      | error e => simp [hstop] at h
      | ok u =>
        simp only [hstop] at h ⊢
        rw [sendStops_sent hstop]
        rcases mem_cons.mp hu with rfl | hu
        · obtain rfl := Option.some.inj (hdf.symm.trans hfirst)
          exact mem_append_left _ (mem_map_of_mem hd)
        · exact mem_append_right _ (ih h hu)

private theorem mem_keys_of_getElem? {uuid : Uuid} {df : RunningDataflow}
    (hdf : s.runningDataflows[uuid]? = some df) : uuid ∈ s.runningDataflows.keys := by
  rw [Std.ExtTreeMap.mem_keys, ← Std.ExtTreeMap.isSome_getElem?_iff_mem, hdf]
  rfl

private theorem stopDataflows_keys :
    (stopDataflows s replies s.runningDataflows.keys).2 = .ok () ↔ AllStop s replies := by
  rw [stopDataflows_eq_ok fun _ h => Std.ExtTreeMap.mem_keys.mp h]
  exact ⟨fun h uuid df hdf => h uuid (mem_keys_of_getElem? hdf) df hdf,
    fun h uuid _ df hdf => h uuid df hdf⟩

private theorem ReachesAll.allStop {destroyReplies : Except String Unit}
    (h : ReachesAll s (handleDestroy s replies destroyReplies)) {daemon : DaemonId}
    (hd : daemon ∈ s.daemonConnections) : AllStop s replies := by
  rw [← stopDataflows_keys]
  have hsent := h.destroys daemon hd
  rw [handleDestroy] at hsent
  split at hsent
  · exact absurd hsent (Finset.notMem_empty _)
  · next hstop => rw [hstop]

private theorem AllStop.reachesAll (h : AllStop s replies) (destroyReplies : Except String Unit) :
    ReachesAll s (handleDestroy s replies destroyReplies) := by
  have hok := stopDataflows_keys.mpr h
  cases hstop : stopDataflows s replies s.runningDataflows.keys with
  | mk stopsSent result =>
    rw [hstop] at hok
    obtain rfl : result = .ok () := hok
    simp only [handleDestroy, hstop]
    refine ⟨fun uuid df hdf daemon hd _ => ?_, fun _ hd => hd⟩
    have hsent := stopDataflows_sent (by rw [hstop]) (mem_keys_of_getElem? hdf) hdf hd
    rwa [hstop] at hsent

/-- A destroy request reaches all daemons if and only if none is connected or no stop command
fails. -/
theorem handleDestroy_reachesAll_iff (s : State) (replies : StopReplies)
    (destroyReplies : Except String Unit) :
    ReachesAll s (handleDestroy s replies destroyReplies) ↔
      s.daemonConnections = ∅ ∨ AllStop s replies := by
  constructor
  · intro h
    rcases s.daemonConnections.eq_empty_or_nonempty with hnone | ⟨daemon, hd⟩
    · exact .inl hnone
    · exact .inr (h.allStop hd)
  · rintro (hnone | hall)
    · constructor <;> simp [hnone]
    · exact hall.reachesAll destroyReplies

/-- A dataflow runs on one of two daemons. -/
def busyAndIdle : State where
  runningDataflows := (∅ : Std.ExtTreeMap Uuid RunningDataflow).insert nilUuid
    { daemons := [⟨some "a", nilUuid⟩] }
  daemonConnections := {⟨some "a", nilUuid⟩, ⟨some "b", nilUuid⟩}

/-- If the daemon does not answer the stop command, both hear nothing of the destroy request. -/
theorem silentDaemon_not_reachesAll :
    ¬ ReachesAll busyAndIdle (handleDestroy busyAndIdle
      (fun _ _ => .error "timeout waiting for daemon WS reply") (.ok ())) := by
  intro h
  have hb : ⟨some "b", nilUuid⟩ ∈ busyAndIdle.daemonConnections := by simp [busyAndIdle]
  have hall := h.allStop hb
  have hstop := hall nilUuid { daemons := [⟨some "a", nilUuid⟩] } (by simp [busyAndIdle]) _
    mem_cons_self
  exact nomatch hstop.2

end DoraSpec.Coordinator.Lifecycle
