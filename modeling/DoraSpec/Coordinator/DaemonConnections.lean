import Mathlib.Data.Finset.Basic
import DoraSpec.Base.Machine
import DoraSpec.Store.CoordinatorStore

/-!
# Connections of daemons

Source `binaries/coordinator/src/ws_daemon.rs`, `state.rs:19-77` and `lib.rs:339-399, 1646-1695,
1818-1824`. A task for each connection reads the messages of a daemon and puts events into the
channel of the main loop, which gives identifiers to daemons and stores their connections. Events
carry the identifier of the daemon, not the connection. Connections have numbers here, and events
know where they come from for the statements only.
-/

namespace DoraSpec.Coordinator.DaemonConnections
open Std List
open Base Store
open Recording (Uuid)

/-! ## State -/

/-- Event of a daemon, of which only the kind matters here; `daemon_to_coordinator.rs:96-130`. -/
inductive DaemonEvent where
  | allNodesReady | allNodesFinished | heartbeat | log | exit | nodeMetrics | topicDebugData
  | buildResult | spawnResult | statusReport | stateCatchUpAck
  deriving DecidableEq

/-- Message of a daemon. -/
inductive Message where
  | register (machineId : Option String) (versionCheckResult : Except String Unit)
  | event (daemonId : DaemonId) (event : DaemonEvent)
  /-- An answer to a command, or a text that is not understood. -/
  | ignored

/-- Event of the main loop. -/
inductive Event where
  | register (machineId : Option String) (versionCheckResult : Except String Unit)
  | daemonExit (daemonId : DaemonId)
  | daemon (daemonId : DaemonId) (event : DaemonEvent)
  /-- An event that does not say which daemon sent it. -/
  | anonymous (event : DaemonEvent)

/-- `translate_daemon_event`, `ws_daemon.rs:189-252`. -/
def translateDaemonEvent (daemonId : DaemonId) : DaemonEvent → Event
  | .exit => .daemonExit daemonId
  | .log => .anonymous .log
  | .nodeMetrics => .anonymous .nodeMetrics
  | .topicDebugData => .anonymous .topicDebugData
  | event => .daemon daemonId event

/-- Entry of the channel, with the connection that it came from and the daemon on whose behalf. -/
structure Entry where
  connection : Nat
  behalf : Option DaemonId
  event : Event

/-- Task of a connection; `ws_daemon.rs:21-97`. -/
structure Task where
  trackedDaemonId : Option DaemonId := none
  waiting : Bool := false
  ended : Bool := false

/-- Tasks, the channel and the table of the main loop. For the statements: the identifiers that were
given to connections, in order, and which of these connections have left since. -/
structure State where
  tasks : Nat → Option Task := fun _ => none
  connections : Nat := 0
  events : List Entry := []
  daemons : ExtTreeMap DaemonId Nat := ∅
  assigned : List (Nat × DaemonId) := []
  left : Finset (Nat × DaemonId) := ∅

/-- What can happen. -/
inductive Action where
  | connect
  | message (connection : Nat) (message : Message)
  /-- The task sees that the connection is closed. -/
  | close (connection : Nat)
  /-- The main loop takes the next event. An identifier may be made up, and the answer to a
  registration may fail to be sent. -/
  | handle (uuid : Uuid) (sent : Bool)
  /-- Daemons whose heartbeat is overdue. -/
  | heartbeatInterval (disconnected : List DaemonId)

/-! ## Tasks -/

namespace State

/-- Change the task of a connection. -/
def setTask (s : State) (connection : Nat) (task : Task) : State :=
  { s with tasks := Function.update s.tasks connection (some task) }

/-- Put an event into the channel. -/
def send (s : State) (entry : Entry) : State := { s with events := s.events ++ [entry] }

/-- The task ends; `ws_daemon.rs:91-97`. -/
def endTask (s : State) (connection : Nat) (task : Task) : State :=
  let s := s.setTask connection { task with ended := true }
  match task.trackedDaemonId with
  | some daemonId => s.send ⟨connection, some daemonId, .daemonExit daemonId⟩
  | none => s

/-- `handle_daemon_request`, `ws_daemon.rs:110-187`. -/
def handleDaemonRequest (s : State) (connection : Nat) (task : Task) : Message → State
  | .register machineId versionCheckResult =>
    if task.trackedDaemonId.isSome then s.endTask connection task
    else if machineId.any (256 < ·.utf8ByteSize) then s.endTask connection task
    else
      (s.setTask connection { task with waiting := true }).send
        ⟨connection, none, .register machineId versionCheckResult⟩
  | .event daemonId event =>
    if task.trackedDaemonId.any (· ≠ daemonId) then s.endTask connection task
    else s.send ⟨connection, some daemonId, translateDaemonEvent daemonId event⟩
  | .ignored => s

/-- The task of the connection, if it reads. -/
def reading (s : State) (connection : Nat) : Option Task :=
  (s.tasks connection).filter fun task => !task.waiting && !task.ended

/-! ## Main loop -/

/-- `get_matching_daemon_id` and `unnamed`, `state.rs:36-40, 60-62`. -/
def existing (s : State) : Option String → Option DaemonId
  | some machineId => s.daemons.keys.find? (·.matchesMachineId machineId)
  | none => s.daemons.keys.find? (·.machineId.isNone)

/-- A daemon registers; `lib.rs:339-399`. -/
def register (s : State) (connection : Nat) (machineId : Option String)
    (versionCheckResult : Except String Unit) (uuid : Uuid) (sent : Bool) : State :=
  let daemonId := (s.existing machineId).getD ⟨machineId, uuid⟩
  let task := (s.tasks connection).getD {}
  match versionCheckResult, sent with
  | .ok (), true =>
    { s.setTask connection { task with waiting := false, trackedDaemonId := some daemonId } with
      daemons := s.daemons.insert daemonId connection
      assigned := s.assigned ++ [(connection, daemonId)]
      left := s.left.erase (connection, daemonId) }
  | _, _ => s.setTask connection { task with waiting := false }

/-- A daemon leaves; `lib.rs:1818-1824`. -/
def daemonExit (s : State) (connection : Nat) (daemonId : DaemonId) : State :=
  { s with
    daemons := s.daemons.erase daemonId
    left := insert (connection, daemonId) s.left }

/-- The main loop handles an event. -/
def handle (s : State) (entry : Entry) (uuid : Uuid) (sent : Bool) : State :=
  match entry.event with
  | .register machineId versionCheckResult =>
    s.register entry.connection machineId versionCheckResult uuid sent
  | .daemonExit daemonId => s.daemonExit entry.connection daemonId
  | .daemon _ _ | .anonymous _ => s

/-- The watchdog drops a daemon; `lib.rs:1672-1680`. -/
def drop (s : State) (daemonId : DaemonId) : State :=
  match s.daemons[daemonId]? with
  | some connection => s.daemonExit connection daemonId
  | none => s

end State

/-- One action, and the event that the main loop has handled. -/
def step (s : State) : Action → State × Option Entry
  | .connect => ({ s.setTask s.connections {} with connections := s.connections + 1 }, none)
  | .message connection message =>
    (match s.reading connection with
      | some task => s.handleDaemonRequest connection task message
      | none => s, none)
  | .close connection =>
    (match s.reading connection with
      | some task => s.endTask connection task
      | none => s, none)
  | .handle uuid sent =>
    match s.events with
    | [] => (s, none)
    | entry :: events => ({ s with events }.handle entry uuid sent, some entry)
  | .heartbeatInterval disconnected => (disconnected.foldl State.drop s, none)

/-! ## The stored connection -/

/-- The last connection that was given the identifier and has not left. -/
def State.newest (s : State) (daemonId : DaemonId) : Option Nat :=
  ((s.assigned.filter fun a => a.2 = daemonId ∧ a ∉ s.left).getLast?).map Prod.fst

/-- Every identifier has the last connection that has not left. -/
def State.Current (s : State) : Prop := ∀ daemonId, s.daemons[daemonId]? = s.newest daemonId

/-- No other connection of the daemon is left. -/
def State.Alone (s : State) (connection : Nat) (daemonId : DaemonId) : Prop :=
  ∀ other, (other, daemonId) ∈ s.assigned → (other, daemonId) ∉ s.left → other = connection

/-- Whenever a daemon leaves or is dropped, it has no other connection. -/
def LeavesAlone (s : State) : Action → Prop
  | .handle _ _ =>
    match s.events with
    | ⟨connection, _, .daemonExit daemonId⟩ :: _ => s.Alone connection daemonId
    | _ => True
  | .heartbeatInterval disconnected => ∀ daemonId ∈ disconnected, ∀ connection,
    s.daemons[daemonId]? = some connection → s.Alone connection daemonId
  | _ => True

variable {versionCheckResult : Except String Unit}

section

variable {s : State} {connection : Nat} {daemonId : DaemonId}

private theorem newest_eq_none_iff : s.newest daemonId = none ↔
    ∀ other, (other, daemonId) ∈ s.assigned → (other, daemonId) ∈ s.left := by
  simp only [State.newest, Option.map_eq_none_iff, getLast?_eq_none_iff, filter_eq_nil_iff,
    decide_eq_true_eq, not_and, not_not]
  constructor
  · exact fun h other hmem => h (other, daemonId) hmem rfl
  · rintro h ⟨other, id⟩ hmem rfl
    exact h other hmem

private theorem newest_congr (s t : State) (hassigned : t.assigned = s.assigned)
    (hleft : ∀ other, (other, daemonId) ∈ t.left ↔ (other, daemonId) ∈ s.left) :
    t.newest daemonId = s.newest daemonId := by
  unfold State.newest
  rw [hassigned]
  congr 2
  refine filter_congr fun a _ => ?_
  by_cases ha : a.2 = daemonId
  · subst ha
    simp [hleft a.1]
  · simp [ha]

private theorem current_register (h : s.Current) {machineId : Option String} {uuid : Uuid}
    {sent : Bool} :
    (s.register connection machineId versionCheckResult uuid sent).Current := by
  unfold State.register
  dsimp only
  split
  · intro daemonId
    generalize (s.existing machineId).getD ⟨machineId, uuid⟩ = newId
    rw [OrderedTable.getElem?_insert]
    split
    · next heq =>
      subst heq
      simp [State.newest]
    · next hne =>
      rw [h daemonId]
      have hleft (other : Nat) : (other, daemonId) ∈ s.left.erase (connection, newId) ↔
          (other, daemonId) ∈ s.left := by
        simp [Ne.symm hne]
      rw [← newest_congr s { s with left := s.left.erase (connection, newId) } rfl hleft]
      simp [State.newest, filter_append, hne]
  · exact h

private theorem current_daemonExit (h : s.Current) :
    (s.daemonExit connection daemonId).Current ↔ s.Alone connection daemonId := by
  have hid : (s.daemonExit connection daemonId).daemons[daemonId]? = none := by
    simp [State.daemonExit]
  have hnone : (s.daemonExit connection daemonId).newest daemonId = none ↔
      s.Alone connection daemonId := by
    rw [newest_eq_none_iff]
    refine forall_congr' fun other => imp_congr_right fun _ => ?_
    simp only [State.daemonExit, Finset.mem_insert, Prod.mk.injEq, and_true]
    tauto
  constructor
  · exact fun hcurrent => hnone.mp ((hcurrent daemonId).symm.trans hid)
  · intro halone id
    by_cases hne : daemonId = id
    · subst hne
      rw [hid, hnone.mpr halone]
    · have hleft (other : Nat) : (other, id) ∈ (s.daemonExit connection daemonId).left ↔
          (other, id) ∈ s.left := by
        simp [State.daemonExit, Ne.symm hne]
      rw [newest_congr s (s.daemonExit connection daemonId) rfl hleft, ← h id]
      simp [State.daemonExit, OrderedTable.getElem?_erase, hne]

private theorem daemons_drop (s : State) (daemonId id : DaemonId) :
    (s.drop daemonId).daemons[id]? = if daemonId = id then none else s.daemons[id]? := by
  unfold State.drop
  split
  · exact OrderedTable.getElem?_erase s.daemons daemonId id
  · next hnone =>
    split
    · next heq => rw [← heq, hnone]
    · rfl

private theorem mem_left_drop {s : State} {daemonId : DaemonId} {a : Nat × DaemonId} :
    a ∈ (s.drop daemonId).left ↔ a ∈ s.left ∨ a.2 = daemonId ∧ s.daemons[daemonId]? = some a.1 := by
  unfold State.drop
  split
  · next connection hc =>
    simp only [State.daemonExit, Finset.mem_insert, Prod.ext_iff, hc, Option.some.injEq]
    tauto
  · next hnone => simp [hnone]

private theorem assigned_drop (s : State) (daemonId : DaemonId) :
    (s.drop daemonId).assigned = s.assigned := by
  unfold State.drop
  split <;> rfl

private theorem foldl_drop (s : State) (disconnected : List DaemonId) :
    (disconnected.foldl State.drop s).assigned = s.assigned ∧
      (∀ id, (disconnected.foldl State.drop s).daemons[id]? =
        if id ∈ disconnected then none else s.daemons[id]?) ∧
      ∀ a, a ∈ (disconnected.foldl State.drop s).left ↔
        a ∈ s.left ∨ a.2 ∈ disconnected ∧ s.daemons[a.2]? = some a.1 := by
  induction disconnected generalizing s with
  | nil => simp
  | cons daemonId disconnected ih =>
    obtain ⟨hassigned, hdaemons, hleft⟩ := ih (s.drop daemonId)
    refine ⟨hassigned.trans (assigned_drop s daemonId), fun id => ?_, fun a => ?_⟩
    · rw [foldl_cons, hdaemons, daemons_drop]
      by_cases hid : daemonId = id
      · simp [hid]
      · simp [hid, Ne.symm hid]
    · rw [foldl_cons, hleft, mem_left_drop, daemons_drop]
      by_cases hid : daemonId = a.2
      · subst hid
        simp
      · simp [hid, Ne.symm hid]

private theorem current_heartbeatInterval (h : s.Current) (disconnected : List DaemonId) :
    (disconnected.foldl State.drop s).Current ↔
      LeavesAlone s (.heartbeatInterval disconnected) := by
  obtain ⟨hassigned, hdaemons, hleft⟩ := foldl_drop s disconnected
  have hnone (id : DaemonId) (hid : id ∈ disconnected) :
      (disconnected.foldl State.drop s).newest id = none ↔
        ∀ connection, s.daemons[id]? = some connection → s.Alone connection id := by
    rw [newest_eq_none_iff, hassigned]
    simp only [hleft, hid, true_and]
    constructor
    · intro hall connection hc other hmem hnot
      exact Option.some.inj (((hall other hmem).resolve_left hnot).symm.trans hc)
    · intro halone other hmem
      by_cases hother : (other, id) ∈ s.left
      · exact .inl hother
      · cases hc : s.daemons[id]? with
        | none => exact absurd (newest_eq_none_iff.mp ((h id).symm.trans hc) other hmem) hother
        | some connection => exact .inr (congrArg some (halone connection hc other hmem hother).symm)
  constructor
  · intro hcurrent id hid
    refine (hnone id hid).mp ?_
    rw [← hcurrent id, hdaemons, if_pos hid]
  · intro halone id
    rw [hdaemons]
    split
    · next hid => exact ((hnone id hid).mpr (halone id hid)).symm
    · next hid =>
      rw [newest_congr s _ hassigned fun other => by simp [hleft, hid]]
      exact h id

private theorem current_of_eq {t : State} (hdaemons : t.daemons = s.daemons)
    (hassigned : t.assigned = s.assigned)
    (hleft : t.left = s.left) : t.Current ↔ s.Current := by
  refine forall_congr' fun id => ?_
  rw [hdaemons, newest_congr s t hassigned fun other => by rw [hleft]]

private theorem endTask_fields (s : State) (connection : Nat) (task : Task) :
    (s.endTask connection task).daemons = s.daemons ∧
      (s.endTask connection task).assigned = s.assigned ∧
      (s.endTask connection task).left = s.left := by
  unfold State.endTask
  dsimp only
  split <;> exact ⟨rfl, rfl, rfl⟩

private theorem handleDaemonRequest_fields (s : State) (connection : Nat) (task : Task)
    (message : Message) :
    (s.handleDaemonRequest connection task message).daemons = s.daemons ∧
      (s.handleDaemonRequest connection task message).assigned = s.assigned ∧
      (s.handleDaemonRequest connection task message).left = s.left := by
  fun_cases s.handleDaemonRequest connection task message with
  | case1 | case2 | case4 => exact endTask_fields s connection task
  | _ => exact ⟨rfl, rfl, rfl⟩

private theorem current_step (h : s.Current) (a : Action) :
    (step s a).1.Current ↔ LeavesAlone s a := by
  cases a with
  | connect => exact iff_of_true ((current_of_eq rfl rfl rfl).mpr h) True.intro
  | message connection message =>
    refine iff_of_true ?_ True.intro
    simp only [step]
    split
    · next task _ =>
      obtain ⟨hd, ha, hl⟩ := handleDaemonRequest_fields s connection task message
      exact (current_of_eq hd ha hl).mpr h
    · exact h
  | close connection =>
    refine iff_of_true ?_ True.intro
    simp only [step]
    split
    · next task _ =>
      obtain ⟨hd, ha, hl⟩ := endTask_fields s connection task
      exact (current_of_eq hd ha hl).mpr h
    · exact h
  | handle uuid sent =>
    simp only [step, LeavesAlone]
    cases hevents : s.events with
    | nil => exact iff_of_true h True.intro
    | cons entry events =>
      have hnext : { s with events }.Current := (current_of_eq rfl rfl rfl).mpr h
      obtain ⟨connection, behalf, event⟩ := entry
      cases event with
      | register machineId versionCheckResult => exact iff_of_true (current_register hnext) True.intro
      | daemonExit daemonId => exact current_daemonExit hnext
      | daemon | anonymous => exact iff_of_true hnext True.intro
  | heartbeatInterval disconnected => exact current_heartbeatInterval h disconnected

end

private theorem current_start : State.Current {} := fun daemonId => by simp [State.newest]

/-- In every run: the connection stored for a daemon is always the last one that has not left, exactly if
daemons leave or are dropped only when they have no other connection. -/
theorem stored_newest_iff (actions : List Action) :
    Machine.Along step (fun s a => (step s a).1.Current) {} actions ↔
      Machine.Along step LeavesAlone {} actions := by
  constructor
  · exact Machine.Along.imp step State.Current
      (fun s a h hs => ⟨(current_step h a).mp hs, hs⟩) current_start
  · exact Machine.Along.imp step State.Current
      (fun s a h hs => ⟨(current_step h a).mpr hs, (current_step h a).mpr hs⟩) current_start

/-- A daemon comes back over a second connection before the first is seen to be closed. -/
def reconnect : List Action :=
  [.connect, .message 0 (.register (some "robot") (.ok ())), .handle nilUuid true,
    .connect, .message 1 (.register (some "robot") (.ok ())), .handle nilUuid true,
    .close 0, .handle nilUuid true]

/-- The late closing of the first connection removes the second. -/
theorem reconnect_not_newest :
    ¬ Machine.Along step (fun s a => (step s a).1.Current) {} reconnect := by
  rintro ⟨-, -, -, -, -, -, -, h, -⟩
  have hstored := h ⟨some "robot", nilUuid⟩
  exact absurd hstored (by decide)

/-! ## Events on behalf of daemons -/

/-- What the main loop handles on behalf of a daemon came over a connection that was given its
identifier. -/
def Authentic (s : State) (a : Action) : Prop :=
  ∀ entry ∈ (step s a).2, ∀ daemonId ∈ entry.behalf, (entry.connection, daemonId) ∈ s.assigned

/-- Events come over connections that have registered. -/
def Registered (s : State) : Action → Prop
  | .message connection (.event _ _) => ∀ task ∈ s.reading connection, task.trackedDaemonId.isSome
  | _ => True

/-- Tasks and the events under way know the identifiers that were given to their connections. -/
structure State.Known (s : State) : Prop where
  tasks : ∀ connection, ∀ task ∈ s.tasks connection, ∀ daemonId ∈ task.trackedDaemonId,
    (connection, daemonId) ∈ s.assigned
  events : ∀ entry ∈ s.events, ∀ daemonId ∈ entry.behalf, (entry.connection, daemonId) ∈ s.assigned

section

variable {s : State} {connection : Nat} {task : Task}

private theorem State.Known.setTask (h : s.Known)
    (htask : ∀ daemonId ∈ task.trackedDaemonId, (connection, daemonId) ∈ s.assigned) :
    (s.setTask connection task).Known where
  tasks other task' htask' := by
    simp only [State.setTask] at htask'
    by_cases hother : other = connection
    · subst hother
      rw [Function.update_self] at htask'
      cases htask'
      exact htask
    · rw [Function.update_of_ne hother] at htask'
      exact h.tasks other task' htask'
  events := h.events

private theorem State.Known.send (h : s.Known) {entry : Entry}
    (hentry : ∀ daemonId ∈ entry.behalf, (entry.connection, daemonId) ∈ s.assigned) :
    (s.send entry).Known where
  tasks := h.tasks
  events entry' hmem := by
    rcases mem_append.mp hmem with hmem | hmem
    · exact h.events entry' hmem
    · cases mem_singleton.mp hmem
      exact hentry

private theorem mem_tasks_of_reading (h : task ∈ s.reading connection) :
    task ∈ s.tasks connection :=
  (Option.mem_filter_iff.mp h).1

private theorem State.Known.endTask (h : s.Known) (htask : task ∈ s.tasks connection) :
    (s.endTask connection task).Known := by
  have htracked := h.tasks connection task htask
  have hset : (s.setTask connection { task with ended := true }).Known := h.setTask htracked
  unfold State.endTask
  dsimp only
  split
  · next daemonId hid =>
    refine hset.send ?_
    rintro _ ⟨⟩
    exact htracked daemonId hid
  · exact hset

private theorem State.Known.handleDaemonRequest (h : s.Known) (htask : task ∈ s.reading connection)
    {message : Message} (hreg : Registered s (.message connection message)) :
    (s.handleDaemonRequest connection task message).Known := by
  have hmem := mem_tasks_of_reading htask
  fun_cases s.handleDaemonRequest connection task message with
  | case1 | case2 | case4 => exact h.endTask hmem
  | case3 =>
    have hset : (s.setTask connection { task with waiting := true }).Known :=
      h.setTask (h.tasks connection task hmem)
    exact hset.send fun _ hid => nomatch hid
  | case5 daemonId event hsame =>
    refine h.send ?_
    rintro _ ⟨⟩
    obtain ⟨tracked, htracked⟩ := Option.isSome_iff_exists.mp (hreg task htask)
    have heq : tracked = daemonId := by simpa [htracked] using hsame
    exact h.tasks connection task hmem daemonId (heq ▸ htracked)
  | case6 => exact h

private theorem State.Known.register (h : s.Known) {machineId : Option String} {uuid : Uuid}
    {sent : Bool} :
    (s.register connection machineId versionCheckResult uuid sent).Known := by
  have htask : ∀ daemonId ∈ ((s.tasks connection).getD {}).trackedDaemonId,
      (connection, daemonId) ∈ s.assigned := by
    intro daemonId hid
    cases ht : s.tasks connection with
    | none => simp [ht] at hid
    | some task => exact h.tasks connection task ht daemonId (by simpa [ht] using hid)
  unfold State.register
  dsimp only
  split
  · generalize (s.existing machineId).getD ⟨machineId, uuid⟩ = newId
    have hgrown : State.Known { s with
        daemons := s.daemons.insert newId connection
        assigned := s.assigned ++ [(connection, newId)]
        left := s.left.erase (connection, newId) } :=
      ⟨fun other task ht id hid => mem_append_left _ (h.tasks other task ht id hid),
        fun entry he id hid => mem_append_left _ (h.events entry he id hid)⟩
    refine hgrown.setTask ?_
    rintro _ ⟨⟩
    exact mem_append_right _ mem_cons_self
  · exact h.setTask htask

private theorem State.Known.drop (h : s.Known) (daemonId : DaemonId) : (s.drop daemonId).Known := by
  unfold State.drop
  split <;> exact ⟨h.tasks, h.events⟩

private theorem known_step (h : s.Known) (a : Action) (hreg : Registered s a) :
    (step s a).1.Known := by
  cases a with
  | connect =>
    have hset : (s.setTask s.connections {}).Known := h.setTask fun _ hid => nomatch hid
    exact ⟨hset.tasks, hset.events⟩
  | message connection message =>
    simp only [step]
    split
    · next task htask => exact h.handleDaemonRequest htask hreg
    · exact h
  | close connection =>
    simp only [step]
    split
    · next task htask => exact h.endTask (mem_tasks_of_reading htask)
    · exact h
  | handle uuid sent =>
    simp only [step]
    split
    · exact h
    · next entry events hevents =>
      have hnext : State.Known { s with events } :=
        ⟨h.tasks, fun e he => h.events e (hevents ▸ mem_cons_of_mem entry he)⟩
      unfold State.handle
      split
      · exact hnext.register
      · exact ⟨hnext.tasks, hnext.events⟩
      all_goals exact hnext
  | heartbeatInterval disconnected =>
    exact foldlRecOn (motive := State.Known) disconnected State.drop h fun s hs id _ => hs.drop id

private theorem authentic_of_known (h : s.Known) (a : Action) : Authentic s a := by
  intro entry hentry
  cases a with
  | handle uuid sent =>
    simp only [step] at hentry
    split at hentry
    · cases hentry
    · next events hevents =>
      cases hentry
      exact h.events entry (by simp [hevents])
  | _ => cases hentry

end

/-- In every run in which events come over registered connections only, what is handled on behalf of a
daemon came over a connection that was given its identifier. -/
theorem events_authentic (actions : List Action) (hreg : Machine.Along step Registered {} actions) :
    Machine.Along step Authentic {} actions :=
  Machine.Along.imp step State.Known (fun _ a h hreg => ⟨authentic_of_known h a, known_step h a hreg⟩)
    ⟨fun _ _ htask => (nomatch htask), fun _ hmem => (nomatch hmem)⟩ hreg

/-- A daemon registers and says that it leaves. -/
def goodbye : List Action :=
  [.connect, .message 0 (.register (some "robot") (.ok ())), .handle nilUuid true,
    .message 0 (.event ⟨some "robot", nilUuid⟩ .exit), .handle nilUuid true]

/-- A daemon registers and leaves. -/
theorem goodbye_authentic : Machine.Along step Authentic {} goodbye := by
  refine events_authentic goodbye ⟨True.intro, True.intro, True.intro, ?_, True.intro, True.intro⟩
  rintro task ⟨⟩
  rfl

/-- The registration of a second connection is rejected, and it says that the daemon leaves. -/
def rejected : List Action :=
  [.connect, .message 0 (.register (some "robot") (.ok ())), .handle nilUuid true,
    .connect, .message 1 (.register (some "robot") (.error "version mismatch")), .handle nilUuid true,
    .message 1 (.event ⟨some "robot", nilUuid⟩ .exit), .handle nilUuid true]

/-- The main loop does what the rejected connection says. -/
theorem rejected_not_authentic : ¬ Machine.Along step Authentic {} rejected := by
  rintro ⟨-, -, -, -, -, -, -, h, -⟩
  have hassigned := h ⟨1, some ⟨some "robot", nilUuid⟩, .daemonExit ⟨some "robot", nilUuid⟩⟩ rfl _ rfl
  exact absurd hassigned (by decide)

end DoraSpec.Coordinator.DaemonConnections
