import DoraSpec.Coordinator.Lifecycle

/-!
# What an answered stop request means

The coordinator takes a dataflow for stopped as soon as one daemon has reported a result for it,
and it gives up on the remaining daemons of a stop request at the first one that fails. Apart from
that, the tables tell on which daemons a dataflow runs.
-/

namespace DoraSpec.Coordinator.Lifecycle
open Base Store Function List State
open Recording (Uuid)

variable {s : State} {uuid : Uuid} {daemon : DaemonId} {replies : DaemonId → Except String Unit}
  {r : NodeResults} {u : Uuid}

/-- No daemon that runs the dataflow has a reported result next to it, and every connected daemon
that runs it comes after daemons that are connected and take the stop command. -/
structure StopsReach (s : State) (uuid : Uuid) (replies : DaemonId → Except String Unit) : Prop where
  unreported : uuid ∈ s.dataflowResults → s.active uuid = ∅
  reached : ∀ df ∈ s.runningDataflows[uuid]?, ∀ front daemon back,
    df.daemons = front ++ daemon :: back → daemon ∈ s.active uuid →
    daemon ∈ s.daemonConnections → ∀ d ∈ front, d ∈ s.daemonConnections ∧ replies d = .ok ()

/-- The event neither asks to stop a dataflow out of turn nor makes the coordinator forget a daemon
that runs a dataflow. -/
def Orderly (s : State) : Event → Prop
  | .stop _ uuid replies => StopsReach s uuid replies
  | .stopByName _ name replies => ∀ uuid, resolveName s name = .ok uuid → StopsReach s uuid replies
  | .restart _ uuid _ spawned => spawned.isOk = true → s.active uuid = ∅
  | .heartbeatInterval disconnected => ∀ daemon ∈ disconnected, ∀ uuid, daemon ∉ s.active uuid
  | _ => True

/-! ## The tables -/

private def Inv (s : State) : Prop :=
  ∀ uuid, ∀ daemon ∈ s.active uuid, ∃ df ∈ s.runningDataflows[uuid]?, daemon ∈ df.daemons

private theorem Inv.active_eq_empty (h : Inv s) (hn : s.runningDataflows[uuid]? = none) :
    s.active uuid = ∅ := by
  refine Finset.eq_empty_of_forall_notMem fun d hd => ?_
  obtain ⟨df, hdf, -⟩ := h uuid d hd
  simp [hn] at hdf

private theorem Inv.of_entry (h : Inv s) (uuid : Uuid) {s' : State}
    (hother : ∀ u, u ≠ uuid → s'.active u ⊆ s.active u ∧
      s'.runningDataflows[u]? = s.runningDataflows[u]?)
    (hentry : ∀ d ∈ s'.active uuid, ∃ df ∈ s'.runningDataflows[uuid]?, d ∈ df.daemons) : Inv s' := by
  intro u d hd
  by_cases hu : u = uuid
  · subst hu
    exact hentry d hd
  · obtain ⟨hactive, hrunning⟩ := hother u hu
    rw [hrunning]
    exact h u d (hactive hd)

private theorem Inv.deactivate (h : Inv s) : Inv (s.deactivate uuid daemon) := by
  refine h.of_entry uuid (fun u hu => ⟨?_, rfl⟩) fun d hd => ?_
  · simp only [State.deactivate, update_of_ne hu]
    exact Finset.Subset.refl _
  · simp only [State.deactivate, update_self, Finset.mem_erase] at hd
    exact h uuid d hd.2

private theorem active_deactivate_of_ne (hu : u ≠ uuid) :
    (s.deactivate uuid daemon).active u = s.active u := by
  simp [deactivate, update_of_ne hu]

private theorem Inv.mem_filter (h : Inv s) {df : RunningDataflow}
    (hdf : s.runningDataflows[uuid]? = some df) {d : DaemonId}
    (hd : d ∈ (s.deactivate uuid daemon).active uuid) : d ∈ df.daemons.filter (· ≠ daemon) := by
  simp only [State.deactivate, update_self, Finset.mem_erase] at hd
  obtain ⟨df', hdf', hmem⟩ := h uuid d hd.2
  cases hdf.symm.trans hdf'
  exact List.mem_filter.mpr ⟨hmem, by simpa using hd.1⟩

private theorem Inv.finishedOnDaemon (h : Inv s) (result : NodeResults) :
    Inv (s.finishedOnDaemon uuid daemon result).1 := by
  simp only [State.finishedOnDaemon]
  split
  · exact h.deactivate
  · next df hdf =>
    split
    · next hempty =>
      refine h.of_entry uuid (fun u hu => ⟨(active_deactivate_of_ne hu).subset, ?_⟩) fun d hd => ?_
      · exact (OrderedTable.getElem?_erase _ _ _).trans (if_neg hu.symm)
      · have := h.mem_filter hdf hd
        rw [isEmpty_iff.mp hempty] at this
        exact absurd this not_mem_nil
    · refine h.of_entry uuid (fun u hu => ⟨(active_deactivate_of_ne hu).subset, ?_⟩) fun d hd => ?_
      · exact (OrderedTable.getElem?_insert _ _ _ _).trans (if_neg hu.symm)
      · exact ⟨_, (OrderedTable.getElem?_insert _ _ _ _).trans (if_pos rfl), h.mem_filter hdf hd⟩

private theorem finished_stopped (h : Inv s) (result : NodeResults) {client : Client}
    (hmem : (client, .ok (.dataflowStopped u r)) ∈
      (s.finishedOnDaemon uuid daemon result).2.answers) :
    (s.finishedOnDaemon uuid daemon result).1.active u = ∅ := by
  simp only [finishedOnDaemon] at hmem ⊢
  split at hmem
  · simp at hmem
  · next df hdf =>
    split at hmem
    · next hempty =>
      simp only [mem_map, Prod.mk.injEq, Except.ok.injEq,
        ControlRequestReply.dataflowStopped.injEq] at hmem
      obtain ⟨-, -, -, rfl, -⟩ := hmem
      simp only [hempty, ↓reduceIte]
      refine Finset.eq_empty_of_forall_notMem fun d hd => ?_
      have := h.mem_filter hdf hd
      rw [isEmpty_iff.mp hempty] at this
      exact absurd this not_mem_nil
    · simp at hmem

/-! ## Stop requests -/

private theorem mem_sendStops {connections : Finset DaemonId} {front back : List DaemonId}
    (hd : daemon ∈ connections) (hfront : ∀ d ∈ front, d ∈ connections ∧ replies d = .ok ()) :
    daemon ∈ (sendStops connections replies (front ++ daemon :: back)).1 := by
  induction front with
  | nil =>
    simp only [nil_append, sendStops, hd, ↓reduceIte]
    split <;> exact mem_cons_self
  | cons d front ih =>
    obtain ⟨hconn, hreply⟩ := hfront d mem_cons_self
    simp only [cons_append, sendStops, hconn, ↓reduceIte, hreply]
    exact mem_cons_of_mem d (ih fun d' h => hfront d' (mem_cons_of_mem d h))

private theorem Inv.stop (h : Inv s) (client : Client) :
    Inv (s.stop client uuid replies).1 ∧ (s.stop client uuid replies).1.active = s.active := by
  fun_cases s.stop client uuid replies with
  | case3 _ df hdf =>
    refine ⟨h.of_entry uuid (fun u hu => ⟨Finset.Subset.refl _, ?_⟩) fun d hd => ?_, rfl⟩
    · exact (OrderedTable.getElem?_insert _ _ _ _).trans (if_neg hu.symm)
    · obtain ⟨df', hdf', hmem⟩ := h uuid d hd
      cases hdf.symm.trans hdf'
      exact ⟨_, (OrderedTable.getElem?_insert _ _ _ _).trans (if_pos rfl), hmem⟩
  | _ => exact ⟨h, rfl⟩

private theorem stop_stopped (hs : StopsReach s uuid replies) {client c : Client}
    (hmem : (c, .ok (.dataflowStopped u r)) ∈ (s.stop client uuid replies).2.answers) :
    s.active u = ∅ := by
  simp only [stop] at hmem
  split at hmem
  · next results hresults =>
    simp only [mem_singleton, Prod.mk.injEq, Except.ok.injEq,
      ControlRequestReply.dataflowStopped.injEq] at hmem
    obtain ⟨-, rfl, -⟩ := hmem
    exact hs.unreported (Std.ExtTreeMap.mem_iff_isSome_getElem?.mpr (by simp [hresults]))
  · split at hmem
    · simp at hmem
    · split at hmem <;> simp at hmem

private theorem stop_forwarded (h : Inv s) (hs : StopsReach s uuid replies) {client : Client}
    (hactive : daemon ∈ s.active uuid) (hconn : daemon ∈ s.daemonConnections) :
    (uuid, daemon) ∈ (s.stop client uuid replies).2.stopsSent := by
  obtain ⟨df, hdf, hmem⟩ := h uuid daemon hactive
  obtain ⟨front, back, hsplit⟩ := append_of_mem hmem
  have hsent : daemon ∈ (sendStops s.daemonConnections replies df.daemons).1 := by
    rw [hsplit]
    exact mem_sendStops hconn (hs.reached df hdf front daemon back hsplit hactive hconn)
  have hnone : s.dataflowResults[uuid]? = none := by
    by_contra hsome
    have hempty := hs.unreported
      (Std.ExtTreeMap.mem_iff_isSome_getElem?.mpr (Option.isSome_iff_ne_none.mpr hsome))
    simp [hempty] at hactive
  simp only [stop, hnone, Option.mem_def.mp hdf]
  split <;> exact mem_map.mpr ⟨daemon, hsent, rfl⟩

/-! ## Other events -/

private theorem Inv.start (h : Inv s) (name : Option String) (daemons : List DaemonId) :
    Inv (s.start uuid name daemons) := by
  refine h.of_entry uuid (fun u hu => ⟨?_, ?_⟩) fun d hd => ?_
  · exact (update_of_ne hu _ _).subset
  · exact (OrderedTable.getElem?_insert _ _ _ _).trans (if_neg hu.symm)
  · simp only [State.start, update_self, mem_toFinset] at hd
    exact ⟨_, (OrderedTable.getElem?_insert _ _ _ _).trans (if_pos rfl), hd⟩

private theorem Inv.erase (h : Inv s) (hempty : s.active uuid = ∅) :
    Inv { s with runningDataflows := s.runningDataflows.erase uuid } := by
  refine h.of_entry uuid (fun u hu => ⟨Finset.Subset.refl _, ?_⟩) fun d hd => ?_
  · exact (OrderedTable.getElem?_erase _ _ _).trans (if_neg hu.symm)
  · simp [hempty] at hd

private theorem Inv.restart (h : Inv s) (client : Client)
    {spawned : Except String (Uuid × List DaemonId)}
    (hempty : spawned.isOk = true → s.active uuid = ∅) :
    Inv (s.restart client uuid replies spawned).1 := by
  fun_cases s.restart client uuid replies spawned with
  | case4 => exact (h.erase (hempty rfl)).start _ _
  | _ => exact h

private theorem restart_answers (client : Client) (spawned : Except String (Uuid × List DaemonId))
    {c : Client} :
    (c, .ok (.dataflowStopped u r)) ∉ (s.restart client uuid replies spawned).2.answers := by
  fun_cases s.restart client uuid replies spawned <;> simp

private theorem Inv.disconnect (h : Inv s) {disconnected : List DaemonId}
    (hd : ∀ daemon ∈ disconnected, ∀ uuid, daemon ∉ s.active uuid) :
    Inv (s.disconnect disconnected) := by
  intro u d hactive
  obtain ⟨df, hdf, hmem⟩ := h u d hactive
  refine ⟨{ df with daemons := df.daemons.filter (· ∉ disconnected) }, ?_, ?_⟩
  · simp [State.disconnect, Std.ExtTreeMap.getElem?_map, Option.mem_def.mp hdf]
  · exact List.mem_filter.mpr ⟨hmem, by simpa using fun hmem => hd d hmem u hactive⟩

private theorem Inv.recover (h : Inv s) {df : RunningDataflow}
    (hdf : s.runningDataflows[uuid]? = some df) (hmem : daemon ∈ df.daemons) :
    Inv { s with active := update s.active uuid (insert daemon (s.active uuid)) } := by
  refine h.of_entry uuid (fun u hu => ⟨(update_of_ne hu _ _).subset, rfl⟩) fun d hd => ?_
  simp only [update_self, Finset.mem_insert] at hd
  rcases hd with rfl | hd
  · exact ⟨df, hdf, hmem⟩
  · exact h uuid d hd

/-! ## Every run -/

private theorem Inv.step (h : Inv s) (event : Event) (ho : Orderly s event) :
    Inv (Lifecycle.step s event).1 := by
  fun_cases Lifecycle.step s event with
  | case1 client uuid name daemons => exact h.start name daemons
  | case3 uuid daemon result => exact h.finishedOnDaemon result
  | case4 client | case5 client => exact (h.stop client).1
  | case7 client => exact h.restart client ho
  | case11 => exact h.disconnect ho
  | case13 uuid daemon df hdf hmem => exact h.recover hdf hmem
  | case15 daemon =>
    intro u d hd
    exact h u d (Finset.mem_of_mem_erase hd)
  | _ => exact h

private theorem right_of_silent {event : Event} (ha : (step s event).2.answers = [])
    (ht : stopTarget s event = none) : Right s event := by
  refine ⟨fun c u r hmem => ?_, fun u hu => ?_⟩
  · simp [ha] at hmem
  · simp [ht] at hu

private theorem Inv.right (h : Inv s) (event : Event) (ho : Orderly s event) : Right s event := by
  cases event with
  | stop client uuid replies =>
    refine ⟨fun c u r hmem => ?_, fun u hu daemon hactive hconn => ?_⟩
    · rw [Lifecycle.step, (h.stop client).2]
      exact stop_stopped ho hmem
    · cases hu
      exact stop_forwarded h ho hactive hconn
  | stopByName client name replies =>
    cases hname : resolveName s name with
    | error e =>
      refine ⟨fun c u r hmem => ?_, fun u hu => ?_⟩
      · simp [Lifecycle.step, hname] at hmem
      · simp [stopTarget, hname, Except.toOption] at hu
    | ok uuid =>
      have hs := ho uuid hname
      refine ⟨fun c u r hmem => ?_, fun u hu daemon hactive hconn => ?_⟩
      · simp only [Lifecycle.step, hname] at hmem ⊢
        rw [(h.stop client).2]
        exact stop_stopped hs hmem
      · simp only [stopTarget, hname, Except.toOption, Option.mem_def, Option.some.injEq] at hu
        subst hu
        simp only [Lifecycle.step, hname]
        exact stop_forwarded h hs hactive hconn
  | dataflowFinishedOnDaemon uuid daemon result =>
    exact ⟨fun c u r hmem => finished_stopped h result hmem, fun u hu => by cases hu⟩
  | restart client uuid replies spawned =>
    exact ⟨fun c u r hmem => absurd hmem (restart_answers client spawned), fun u hu => by cases hu⟩
  | check client uuid =>
    refine ⟨fun c u r hmem => ?_, fun u hu => by cases hu⟩
    simp only [Lifecycle.step, check, mem_singleton, Prod.mk.injEq, Except.ok.injEq]
      at hmem ⊢
    obtain ⟨-, hreply⟩ := hmem
    split at hreply
    · cases hreply
    · next hnot =>
      cases hreply
      exact h.active_eq_empty (Std.ExtTreeMap.getElem?_eq_none hnot)
  | start client uuid name daemons =>
    refine ⟨fun c u r hmem => ?_, fun u hu => by cases hu⟩
    simp only [Lifecycle.step] at hmem
    split at hmem <;> simp at hmem
  | register | daemonExit | heartbeatInterval | dropDataflows => exact right_of_silent rfl rfl
  | recover uuid daemon =>
    refine right_of_silent ?_ rfl
    simp only [Lifecycle.step]
    split
    · rfl
    · split <;> rfl

end DoraSpec.Coordinator.Lifecycle
