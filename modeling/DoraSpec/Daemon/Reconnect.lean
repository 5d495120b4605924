import DoraSpec.Daemon.EventLoop

/-!
# Reconnecting to the coordinator

Source `binaries/daemon/src/lib.rs:506-595, 769-873` and `running_dataflow.rs:142-163`. Each connection
is served by an event loop with a state of its own. The state is dropped when the loop ends, and with
it the handles of the processes, which kills those that are still running.
-/

namespace DoraSpec.Daemon.Reconnect
open Base Message
open Recording (Uuid)

/-- The loop of `run_with_builds`. -/
structure State where
  /-- The daemon while it is connected. -/
  daemon : Option EventLoop.State := none
  killed : List (Uuid × NodeId) := []
  returned : Bool := false

inductive Event where
  | connect
  | handle (event : EventLoop.Event)
  /-- A message to the coordinator cannot be sent. -/
  | sendFails

/-- Processes with a handle, which are those of nodes that are not dynamic. -/
def processes (daemon : EventLoop.State) : List (Uuid × NodeId) :=
  daemon.running.entries.flatMap fun e =>
    (e.2.runningNodes.entries.filter fun node => !node.2).map (e.1, ·.1)

/-- The daemon goes on, or is dropped with its result; `lib.rs:562-585`. -/
def State.settle (s : State) (daemon : EventLoop.State) : State :=
  match daemon.status with
  | .running => { s with daemon := some daemon }
  | .exited => { daemon := none, killed := s.killed ++ processes daemon, returned := true }
  | .failed _ => { s with daemon := none, killed := s.killed ++ processes daemon }

def step (s : State) (e : Event) : State × Unit :=
  match e, s.daemon with
  | .connect, none => (if s.returned then s else { s with daemon := some {} }, ())
  | .handle event, some daemon => (s.settle (EventLoop.step daemon event).1, ())
  | .sendFails, some daemon => (s.settle (daemon.fail (.other "failed to send")).1, ())
  | _, _ => (s, ())

/-- The connection is lost, or the coordinator is silent for too long. -/
def Loses (s : State) (e : Event) : Prop :=
  (e = .sendFails ∨ ∃ elapsed, e = .handle (.heartbeatInterval elapsed)) ∧ (step s e).1.daemon = none

/-- The next connection finds the dataflows as they were, with all their processes. -/
def KeepsDataflows (s : State) (e : Event) : Prop :=
  ∀ daemon ∈ s.daemon, Loses s e →
    (step (step s e).1 .connect).1.daemon.map (·.running) = some daemon.running ∧
      (step s e).1.killed = s.killed

def NoneRunning (s : State) (e : Event) : Prop :=
  ∀ daemon ∈ s.daemon, Loses s e → daemon.running = ∅

private theorem running_of_run (events : List Event) :
    ∀ daemon ∈ (Machine.run step {} events).1.daemon,
      daemon.status = .running ∧ (Machine.run step {} events).1.returned = false := by
  refine Machine.always step
    (fun s => ∀ daemon ∈ s.daemon, daemon.status = .running ∧ s.returned = false)
    (fun s e h => ?_) (by nofun) events
  have hsettle (d : EventLoop.State) (hs : s.returned = false) :
      ∀ daemon ∈ (s.settle d).daemon, daemon.status = .running ∧ (s.settle d).returned = false := by
    unfold State.settle
    split
    · rintro _ ⟨⟩
      exact ⟨by assumption, hs⟩
    · nofun
    · nofun
  unfold step
  split
  · split
    · exact h
    · next hs =>
      rintro _ ⟨⟩
      exact ⟨rfl, by simpa using hs⟩
  · next hdaemon => exact hsettle _ (h _ hdaemon).2
  · next hdaemon => exact hsettle _ (h _ hdaemon).2
  · exact h

private theorem step_of_loses {s : State} {e : Event} {daemon : EventLoop.State}
    (hdaemon : s.daemon = some daemon) (hrunning : daemon.status = .running) (h : Loses s e) :
    (step s e).1 = { s with daemon := none, killed := s.killed ++ processes daemon } := by
  obtain ⟨rfl | ⟨elapsed, rfl⟩, hnone⟩ := h
  · simp [step, hdaemon, State.settle, EventLoop.State.fail, processes]
  · simp only [step, hdaemon, EventLoop.step, hrunning, EventLoop.State.handle,
      EventLoop.State.heartbeatInterval] at hnone ⊢
    split at hnone
    · simp [*, State.settle, EventLoop.State.fail, processes]
    · simp [State.settle, hrunning] at hnone

/-- In every run, dataflows survive a lost connection exactly if there are none. -/
theorem keepsDataflows_iff_noneRunning (events : List Event) (e : Event) :
    KeepsDataflows (Machine.run step {} events).1 e ↔
      NoneRunning (Machine.run step {} events).1 e := by
  refine forall₃_congr fun daemon hdaemon hloses => ?_
  obtain ⟨hrunning, hreturned⟩ := running_of_run events daemon hdaemon
  rw [step_of_loses hdaemon hrunning hloses]
  constructor
  · intro h
    simpa [step, hreturned, eq_comm] using h.1
  · intro h
    simp [step, hreturned, processes, h]

/-- One node of one dataflow. -/
def oneNode : List Event :=
  [.connect, .handle (.spawn .nil [{ id := ⟨"camera"⟩ }] false (.ok ()) (.ok ())),
    .handle (.spawnNodeResult .nil ⟨"camera"⟩ false (.ok ()))]

/-- The coordinator is silent for 21 seconds. -/
theorem silentCoordinator_not_keepsDataflows :
    ¬ KeepsDataflows (Machine.run step {} oneNode).1 (.handle (.heartbeatInterval 21000000000)) := by
  intro h
  have hkilled := (h _ rfl ⟨.inr ⟨_, rfl⟩, rfl⟩).2
  exact absurd hkilled (by decide)

end DoraSpec.Daemon.Reconnect
