import DoraSpec.Coordinator.Lifecycle

/-!
# The list of dataflows

Source `binaries/coordinator/src/lib.rs:973-1001`. The list has the running dataflows and, after
them, all dataflows for which a daemon has reported a result. A dataflow that has finished on some
of its daemons is in both tables.
-/

namespace DoraSpec.Coordinator.Lifecycle
open Base Store List State
open Recording (Uuid)

/-! ## The reply -/

/-- `coordinator_to_cli.rs:223-227`. -/
inductive DataflowStatus where
  | running | finished | failed
  deriving DecidableEq

/-- `coordinator_to_cli.rs:217-233`. -/
structure DataflowListEntry where
  uuid : Uuid
  name : Option String
  status : DataflowStatus

/-- Dataflows are sorted by name and identifier; `lib.rs:975`. -/
def entryLe (a b : Uuid × RunningDataflow) : Bool :=
  ((compare a.2.name b.2.name).then (compare a.1 b.1)).isLE

/-- Entry of a running dataflow; `lib.rs:977-983`. -/
def runningEntry (entry : Uuid × RunningDataflow) : DataflowListEntry :=
  ⟨entry.1, entry.2.name, .running⟩

/-- Entry of a dataflow with results; `lib.rs:984-996`. -/
def finishedEntry (archived : List (Uuid × Option String))
    (entry : Uuid × Std.ExtTreeMap DaemonId NodeResults) : DataflowListEntry where
  uuid := entry.1
  name := (archived.lookup entry.1).join
  status :=
    if entry.2.toList.all fun r => r.2.toList.all fun n => n.2.isOk then .finished else .failed

/-- Reply to a list request; `lib.rs:973-1001`. -/
def list (s : State) : List DataflowListEntry :=
  (s.runningDataflows.toList.mergeSort entryLe).map runningEntry ++
    s.dataflowResults.toList.map (finishedEntry s.archivedDataflows)

/-- The coordinator has the dataflow in one of its tables. -/
def Known (s : State) (uuid : Uuid) : Prop :=
  uuid ∈ s.runningDataflows ∨ uuid ∈ s.dataflowResults ∨ uuid ∈ s.archivedDataflows.map Prod.fst

/-- Each known dataflow is listed once, as running if and only if a daemon runs it. -/
structure ListedRight (s : State) : Prop where
  once : ∀ uuid, Known s uuid → ((list s).map (·.uuid)).count uuid = 1
  running : ∀ entry ∈ list s, entry.status = .running ↔ (s.active entry.uuid).Nonempty

/-- The event leaves no dataflow in the table that runs on no daemon, and no daemon of a dataflow
that has a result. -/
def KeepsList (s : State) : Event → Prop
  | .start _ uuid _ daemons => s.Unused uuid → daemons ≠ []
  | .dataflowFinishedOnDaemon uuid daemon _ => ∀ df ∈ s.runningDataflows[uuid]?,
      df.daemons.filter (· ≠ daemon) = [] ∧ (s.active uuid).erase daemon = ∅
  | .restart _ uuid replies spawned => ∀ df ∈ s.runningDataflows[uuid]?,
      (sendStops s.daemonConnections replies df.daemons).2 = .ok () →
        ∀ r ∈ spawned.toOption, s.Unused r.1 → r.2 ≠ []
  | .dropDataflows daemon => ∀ uuid ∈ s.runningDataflows, ((s.active uuid).erase daemon).Nonempty
  | _ => True

/-! ## The tables -/

variable {s : State}

private theorem mem_of_getElem? {uuid : Uuid} {df : RunningDataflow}
    (h : s.runningDataflows[uuid]? = some df) : uuid ∈ s.runningDataflows := by
  simp [← Std.ExtTreeMap.isSome_getElem?_iff_mem, h]

private theorem count_keys {β : Type} (t : Std.ExtTreeMap Uuid β) (uuid : Uuid) :
    (t.toList.map Prod.fst).count uuid = if uuid ∈ t then 1 else 0 := by
  rw [(OrderedTable.nodup_keys t).count, Std.ExtTreeMap.map_fst_toList_eq_keys]
  simp only [Std.ExtTreeMap.mem_keys]

private theorem count_list (s : State) (uuid : Uuid) :
    ((list s).map (·.uuid)).count uuid =
      (if uuid ∈ s.runningDataflows then 1 else 0) + if uuid ∈ s.dataflowResults then 1 else 0 := by
  rw [← count_keys, ← count_keys, list, map_append, count_append, map_map,
    map_map]
  congr 1
  exact ((mergeSort_perm s.runningDataflows.toList entryLe).map Prod.fst).count_eq uuid

private theorem mem_iff_exists {β : Type} (t : Std.ExtTreeMap Uuid β) (uuid : Uuid) :
    uuid ∈ t ↔ ∃ v, (uuid, v) ∈ t.toList := by
  simp only [Std.ExtTreeMap.mem_toList_iff_getElem?_eq_some,
    ← Std.ExtTreeMap.isSome_getElem?_iff_mem, Option.isSome_iff_exists]

private theorem status_finishedEntry (archived : List (Uuid × Option String))
    (entry : Uuid × Std.ExtTreeMap DaemonId NodeResults) :
    (finishedEntry archived entry).status ≠ .running := by
  rw [finishedEntry]
  split <;> simp

private theorem running_list (s : State) :
    (∀ entry ∈ list s, entry.status = .running ↔ (s.active entry.uuid).Nonempty) ↔
      (∀ uuid ∈ s.runningDataflows, (s.active uuid).Nonempty) ∧
        ∀ uuid ∈ s.dataflowResults, s.active uuid = ∅ := by
  simp only [list, forall_mem_append, forall_mem_map, mem_iff_exists,
    mem_mergeSort]
  refine and_congr ⟨?_, ?_⟩ ⟨?_, ?_⟩
  · rintro h uuid ⟨df, hdf⟩
    exact (h _ hdf).mp rfl
  · rintro h ⟨uuid, df⟩ hdf
    exact ⟨fun _ => h uuid ⟨df, hdf⟩, fun _ => rfl⟩
  · rintro h uuid ⟨results, hr⟩
    exact Finset.not_nonempty_iff_eq_empty.mp
      fun hactive => status_finishedEntry _ _ ((h _ hr).mpr hactive)
  · rintro h ⟨uuid, results⟩ hr
    refine iff_of_false (status_finishedEntry _ _) ?_
    rw [finishedEntry, h uuid ⟨results, hr⟩]
    exact Finset.not_nonempty_empty

private def Archived (s : State) : Prop :=
  ∀ uuid ∈ s.archivedDataflows.map Prod.fst, uuid ∈ s.dataflowResults

private structure Tables (s : State) : Prop where
  running : ∀ uuid ∈ s.runningDataflows, (s.active uuid).Nonempty
  finished : ∀ uuid ∈ s.dataflowResults, s.active uuid = ∅

private theorem listedRight_iff_tables (h : Archived s) : ListedRight s ↔ Tables s := by
  constructor
  · intro hl
    obtain ⟨hrunning, hfinished⟩ := (running_list s).mp hl.running
    exact ⟨hrunning, hfinished⟩
  · intro ht
    refine ⟨fun uuid hknown => ?_, (running_list s).mpr ⟨ht.running, ht.finished⟩⟩
    rw [count_list]
    have hapart : uuid ∈ s.runningDataflows → uuid ∉ s.dataflowResults := fun hr hf =>
      (ht.running uuid hr).ne_empty (ht.finished uuid hf)
    rcases hknown with hr | hf | ha
    · simp [hr, hapart hr]
    · have hr : uuid ∉ s.runningDataflows := fun hr => hapart hr hf
      simp [hr, hf]
    · have hf := h uuid ha
      have hr : uuid ∉ s.runningDataflows := fun hr => hapart hr hf
      simp [hr, hf]

/-! ## Steps -/

private theorem Tables.of_same {s' : State} (h : Tables s) (hactive : s'.active = s.active)
    (hrunning : ∀ uuid, uuid ∈ s'.runningDataflows ↔ uuid ∈ s.runningDataflows)
    (hresults : s'.dataflowResults = s.dataflowResults) : Tables s' := by
  constructor
  · intro uuid hu
    rw [hactive]
    exact h.running uuid ((hrunning uuid).mp hu)
  · intro uuid hu
    rw [hactive]
    exact h.finished uuid (hresults ▸ hu)

private theorem tables_start (h : Tables s) {uuid : Uuid} (hu : s.Unused uuid)
    (name : Option String) (daemons : List DaemonId) :
    Tables (s.start uuid name daemons) ↔ daemons ≠ [] := by
  constructor
  · rintro ht rfl
    have := ht.running uuid (by simp [start])
    simp [start] at this
  · intro hne
    constructor
    · intro u hmem
      by_cases he : u = uuid
      · subst he
        simpa [start, Finset.nonempty_iff_ne_empty] using hne
      · have hrunning : u ∈ s.runningDataflows := by
          simpa [start, Ne.symm he] using hmem
        simpa [start, Function.update_of_ne he] using h.running u hrunning
    · intro u hmem
      have he : u ≠ uuid := fun he => hu.2.1 (he ▸ hmem)
      simpa [start, Function.update_of_ne he] using h.finished u hmem

private theorem Tables.erase (h : Tables s) (uuid : Uuid) :
    Tables { s with runningDataflows := s.runningDataflows.erase uuid } :=
  ⟨fun u hu => h.running u (Std.ExtTreeMap.mem_erase.mp hu).2, h.finished⟩

private theorem Tables.stop (h : Tables s) (client : Client) (uuid : Uuid)
    (replies : DaemonId → Except String Unit) : Tables (s.stop client uuid replies).1 := by
  fun_cases s.stop client uuid replies with
  | case3 _ df hdf =>
    refine h.of_same rfl (fun u => ?_) rfl
    simp only [Std.ExtTreeMap.mem_insert, Std.LawfulEqCmp.compare_eq_iff_eq, or_iff_right_iff_imp]
    rintro rfl
    exact mem_of_getElem? hdf
  | _ => exact h

private theorem tables_finished (h : Tables s) (uuid : Uuid) (daemon : DaemonId)
    (result : NodeResults) : Tables (s.finishedOnDaemon uuid daemon result).1 ↔
      ∀ df ∈ s.runningDataflows[uuid]?,
        df.daemons.filter (· ≠ daemon) = [] ∧ (s.active uuid).erase daemon = ∅ := by
  have hactive (u : Uuid) (hu : u ≠ uuid) : (s.deactivate uuid daemon).active u = s.active u := by
    simp [deactivate, Function.update_of_ne hu]
  cases hdf : s.runningDataflows[uuid]? with
  | none =>
    have hnot : uuid ∉ s.runningDataflows := by
      simp [← Std.ExtTreeMap.isSome_getElem?_iff_mem, hdf]
    refine iff_of_true ?_ (by simp)
    rw [finishedOnDaemon, hdf]
    constructor
    · intro u hu
      have hne : u ≠ uuid := fun he => hnot (he ▸ hu)
      exact hactive u hne ▸ h.running u hu
    · intro u hu
      have hsub : (s.deactivate uuid daemon).active u ⊆ s.active u := by
        by_cases hne : u = uuid
        · subst hne
          simpa [deactivate] using Finset.erase_subset _ _
        · rw [hactive u hne]
      exact Finset.subset_empty.mp (h.finished u hu ▸ hsub)
  | some df =>
    simp only [finishedOnDaemon, hdf, Option.mem_some_iff, forall_eq', List.isEmpty_iff]
    split
    · next hempty =>
      rw [and_iff_right hempty]
      constructor
      · intro ht
        simpa [deactivate] using ht.finished uuid (by simp)
      · intro hnone
        constructor
        · intro u hu
          obtain ⟨hne, hu⟩ : uuid ≠ u ∧ u ∈ s.runningDataflows := by
            simpa [deactivate] using hu
          exact hactive u hne.symm ▸ h.running u hu
        · intro u hu
          by_cases hne : u = uuid
          · subst hne
            simpa [deactivate] using hnone
          · have hu : u ∈ s.dataflowResults := by simpa [Ne.symm hne] using hu
            exact hactive u hne ▸ h.finished u hu
    · next hleft =>
      refine iff_of_false (fun ht => ?_) fun hc => hleft hc.1
      exact (ht.running uuid (by simp)).ne_empty (ht.finished uuid (by simp))

private theorem tables_step (h : Tables s) (event : Event) :
    KeepsList s event ↔ Tables (step s event).1 := by
  cases event with
  | start client uuid name daemons =>
    simp only [KeepsList, step]
    split
    · next hu => simp [tables_start h hu, hu]
    · next hu => simp [hu, h]
  | dataflowFinishedOnDaemon uuid daemon result => exact (tables_finished h uuid daemon result).symm
  | stop client uuid replies => exact iff_of_true trivial (h.stop client uuid replies)
  | stopByName client name replies =>
    refine iff_of_true trivial ?_
    rw [step]
    split
    · exact h.stop client _ replies
    · exact h
  | restart client uuid replies spawned =>
    simp only [KeepsList, step, restart]
    cases hdf : s.runningDataflows[uuid]? with
    | none => simp [h]
    | some df =>
      simp only [Option.mem_some_iff, forall_eq']
      cases hstop : (sendStops s.daemonConnections replies df.daemons).2 with
      | error e => simp [h]
      | ok u =>
        cases spawned with
        | error e => simp [h, Except.toOption]
        | ok r =>
          obtain ⟨newUuid, daemons⟩ := r
          simp only [Except.toOption, Option.mem_some_iff, forall_eq', forall_const]
          split
          · next hu =>
            have herase : Tables { s with runningDataflows := s.runningDataflows.erase uuid } :=
              h.erase uuid
            have hunused : State.Unused
                { s with runningDataflows := s.runningDataflows.erase uuid } newUuid := by
              refine ⟨fun hmem => hu.1 ?_, hu.2⟩
              exact (Std.ExtTreeMap.mem_erase.mp hmem).2
            simp [tables_start herase hunused, hu]
          · next hu => simp [hu, h]
  | check client uuid => exact iff_of_true trivial h
  | register | daemonExit => exact iff_of_true trivial (h.of_same rfl (fun _ => .rfl) rfl)
  | heartbeatInterval disconnected =>
    exact iff_of_true trivial (h.of_same rfl (by simp [step, disconnect]) rfl)
  | recover uuid daemon =>
    refine iff_of_true trivial ?_
    rw [step]
    split
    · exact h
    · next df hdf =>
      have hmem := mem_of_getElem? hdf
      split
      · constructor
        · intro u hu
          by_cases he : u = uuid
          · subst he
            simp
          · simpa [Function.update_of_ne he] using h.running u hu
        · intro u hu
          have he : u ≠ uuid := by
            rintro rfl
            exact (h.running u hmem).ne_empty (h.finished u hu)
          simpa [Function.update_of_ne he] using h.finished u hu
      · exact h
  | dropDataflows daemon =>
    refine ⟨fun hkeep => ⟨hkeep, fun u hu => ?_⟩, fun ht => ht.running⟩
    simp [step, h.finished u hu]

private theorem Archived.of_same {s' : State} (h : Archived s)
    (harchived : s'.archivedDataflows = s.archivedDataflows)
    (hresults : s'.dataflowResults = s.dataflowResults) : Archived s' := by
  rw [Archived, harchived, hresults]
  exact h

private theorem mem_archive {archived : List (Uuid × Option String)} {uuid u : Uuid}
    {name : Option String} (h : u ∈ (archive archived uuid name).map Prod.fst) :
    u = uuid ∨ u ∈ archived.map Prod.fst := by
  obtain ⟨e, he, rfl⟩ := mem_map.mp h
  have he := mem_of_mem_drop he
  split at he
  · exact .inr (mem_map_of_mem he)
  · rcases mem_append.mp he with he | he
    · exact .inr (mem_map_of_mem he)
    · exact .inl (congrArg Prod.fst (mem_singleton.mp he))

private theorem Archived.finished (h : Archived s) (uuid : Uuid) (daemon : DaemonId)
    (result : NodeResults) : Archived (s.finishedOnDaemon uuid daemon result).1 := by
  rw [finishedOnDaemon]
  split
  · exact h.of_same rfl rfl
  · dsimp only
    split
    · intro u hu
      dsimp only [deactivate] at hu
      rw [Std.ExtTreeMap.mem_insert]
      refine (mem_archive hu).imp (fun he => ?_) (h u)
      exact he ▸ Std.ReflCmp.compare_self
    · intro u hu
      rw [Std.ExtTreeMap.mem_insert]
      exact .inr (h u hu)

private theorem Archived.stop (h : Archived s) (client : Client) (uuid : Uuid)
    (replies : DaemonId → Except String Unit) : Archived (s.stop client uuid replies).1 := by
  fun_cases s.stop client uuid replies with
  | case3 => exact h.of_same rfl rfl
  | _ => exact h

private theorem Archived.step (h : Archived s) (event : Event) :
    Archived (Lifecycle.step s event).1 := by
  fun_cases Lifecycle.step s event with
  | case3 uuid daemon result => exact h.finished uuid daemon result
  | case4 client uuid replies => exact h.stop client uuid replies
  | case5 client name replies => exact h.stop client _ replies
  | case7 client uuid replies spawned =>
    fun_cases s.restart client uuid replies spawned with
    | case4 => exact h.of_same rfl rfl
    | _ => exact h
  | _ => exact h.of_same rfl rfl

/-- In every state of a run the list is right if and only if every event keeps it right. -/
theorem listedRight_iff (events : List Event) :
    (∀ pre, pre <+: events → ListedRight (Machine.run step {} pre).1) ↔
      Machine.Along step KeepsList {} events := by
  have harchived (pre : List Event) : Archived (Machine.run step {} pre).1 :=
    Machine.always step Archived (fun _ event h => h.step event) (by simp [Archived]) pre
  rw [Machine.along_iff_forall_prefix step Tables (fun _ event h => tables_step h event) events
    ⟨by simp, by simp⟩]
  exact forall₂_congr fun pre _ => listedRight_iff_tables (harchived pre)

private def machineA : DaemonId := ⟨some "a", nilUuid⟩

private def machineB : DaemonId := ⟨some "b", nilUuid⟩

/-- A dataflow on two daemons, of which one has finished, is listed twice. -/
theorem finishedOnOne_not_listedRight :
    ¬ ListedRight (Machine.run step {} [.register machineA, .register machineB,
      .start 0 nilUuid none [machineA, machineB],
      .dataflowFinishedOnDaemon nilUuid machineA ∅]).1 := by
  intro h
  have hone := h.once nilUuid (.inl (by decide))
  rw [count_list] at hone
  exact absurd hone (by decide)

end DoraSpec.Coordinator.Lifecycle
