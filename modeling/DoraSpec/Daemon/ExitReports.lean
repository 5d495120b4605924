import DoraSpec.Daemon.RestartLoop

/-!
# The last report of a restart loop

The daemon forgets a node when it gets a report without restart. The report for an exit is sent
before the loop waits and starts the process again, and nothing is sent if that does not happen.
-/

namespace DoraSpec.Daemon.RestartLoop
open Base

/-- The restart flag of a report. -/
def LoopEvent.restart? : LoopEvent → Option Bool
  | .spawnedNodeResult _ restart _ => some restart
  | .processHandleReplaced => none

/-- Restart flag of the last report. -/
def lastReport (sent : List LoopEvent) : Option Bool := (sent.filterMap LoopEvent.restart?).getLast?

/-- The last report says that the node is gone, and it is. -/
def LoopState.Final (s : LoopState) : Prop := lastReport s.sent = some false ∧ s.processes = 0

section

variable (policy : RestartPolicy) (config : RestartConfig)

/-- A restart is granted for the exit. -/
def granted (s : LoopState) (x : Exit) : Bool := (decideRestart policy config s x).2

/-- The delay after so many restarts can be computed, restarts are not disabled in the meantime and
the process is started. -/
def Restarts (windowCount : UInt32) (x : Exit) : Prop :=
  ∃ delay, backoff config windowCount = .ok delay ∧
    (delay.isSome → x.disabledLater = false) ∧ x.respawn = .spawned

/-- The turn of a running loop is an exit, and if a restart is granted for it then the node is
restarted. -/
def Smooth (s : LoopState) (t : Turn) : Prop :=
  s.ended = false →
    match t with
    | .lost => False
    | .exit x => granted policy config s x = true →
      Restarts config (decideRestart policy config s x).1.windowCount x

end

/-! ## One turn -/

section

variable {policy : RestartPolicy} {config : RestartConfig} {s : LoopState}

@[simp] private theorem lastReport_append_report (sent : List LoopEvent) (status : NodeExitStatus)
    (restart : Bool) (count : UInt32) :
    lastReport (sent ++ [.spawnedNodeResult status restart count]) = some restart := by
  simp [lastReport, LoopEvent.restart?]

private theorem not_final (h : lastReport s.sent = some true) : ¬ s.Final := by
  rintro ⟨hlast, -⟩
  rw [h] at hlast
  cases hlast

private theorem decideRestart_fields (policy : RestartPolicy) (config : RestartConfig)
    (s : LoopState)
    (x : Exit) :
    (decideRestart policy config s x).1.processes = s.processes - 1 ∧
      (decideRestart policy config s x).1.sent = s.sent ∧
      (decideRestart policy config s x).1.ended = s.ended := by
  unfold decideRestart
  split
  · unfold countRestart
    split <;> exact ⟨rfl, rfl, rfl⟩
  · exact ⟨rfl, rfl, rfl⟩

private theorem turn_of_ended (h : s.ended = true) (t : Turn) :
    (turn policy config s t).1 = s := by
  simp [turn, h]

private theorem restart_cases (x : Exit) (hrun : s.ended = false)
    (hproc : s.processes = 0) (hsent : lastReport s.sent = some true) :
    ((restart x s).ended = false ∧ (restart x s).processes = 1 ∧ x.respawn = .spawned) ∨
      ((restart x s).ended = true ∧ ¬ (restart x s).Final ∧ x.respawn ≠ .spawned) := by
  unfold restart
  cases x.respawn with
  | spawned => exact .inl ⟨hrun, by simp [hproc], rfl⟩
  | dynamic | failed => exact .inr ⟨rfl, not_final hsent, nofun⟩

private theorem delayedRestart_cases (config : RestartConfig) (x : Exit) (hrun : s.ended = false)
    (hproc : s.processes = 0) (hsent : lastReport s.sent = some true) :
    ((delayedRestart config x s).ended = false ∧ (delayedRestart config x s).processes = 1 ∧
        Restarts config s.windowCount x) ∨
      ((delayedRestart config x s).ended = true ∧ ¬ (delayedRestart config x s).Final ∧
        ¬ Restarts config s.windowCount x) := by
  unfold delayedRestart
  cases hdelay : backoff config s.windowCount with
  | err | panic => exact .inr ⟨rfl, not_final hsent, fun ⟨_, h, _⟩ => nomatch hdelay.symm.trans h⟩
  | ok delay =>
    have hrestarts : Restarts config s.windowCount x ↔
        (delay.isSome → x.disabledLater = false) ∧ x.respawn = .spawned := by
      simp [Restarts, hdelay]
    rw [hrestarts]
    cases delay with
    | none =>
      refine (restart_cases x (s := { s with now := s.now + x.overhead }) hrun hproc hsent).imp ?_ ?_
      · exact fun ⟨hrun', hproc', hspawn⟩ => ⟨hrun', hproc', nofun, hspawn⟩
      · exact fun ⟨hend, hfinal, hspawn⟩ => ⟨hend, hfinal, fun h => hspawn h.2⟩
    | some delay =>
      cases hdisabled : x.disabledLater with
      | true => exact .inr ⟨rfl, not_final hsent, fun h => nomatch h.1 rfl⟩
      | false =>
        refine (restart_cases x (s := { s with now := s.now + delay + x.overhead }) hrun hproc
          hsent).imp ?_ ?_
        · exact fun ⟨hrun', hproc', hspawn⟩ => ⟨hrun', hproc', fun _ => rfl, hspawn⟩
        · exact fun ⟨hend, hfinal, hspawn⟩ => ⟨hend, hfinal, fun h => hspawn h.2⟩

/-- A running loop has one process, and its turn either goes on with the next one or ends. Then the
last report is final exactly if nothing went wrong. -/
theorem turn_cases (policy : RestartPolicy) (config : RestartConfig)
    (hrun : s.ended = false) (hproc : s.processes = 1) (t : Turn) :
    ((turn policy config s t).1.ended = false ∧ (turn policy config s t).1.processes = 1 ∧
        Smooth policy config s t) ∨
      ((turn policy config s t).1.ended = true ∧
        ((turn policy config s t).1.Final ↔ Smooth policy config s t)) := by
  simp only [turn, hrun, Bool.false_eq_true, if_false]
  cases t with
  | lost =>
    refine .inr ⟨rfl, iff_of_false (fun h => ?_) fun h => h hrun⟩
    simp [LoopState.Final, hproc] at h
  | exit x =>
    obtain ⟨hproc', hsent', hended'⟩ := decideRestart_fields policy config s x
    simp only [handleExit]
    cases hgranted : (decideRestart policy config s x).2 with
    | false =>
      refine .inr ⟨rfl, iff_of_true ⟨lastReport_append_report _ _ _ _, ?_⟩ fun _ h => ?_⟩
      · simp [report, hproc', hproc]
      · simp [granted, hgranted] at h
    | true =>
      rcases delayedRestart_cases config x
        (s := report x true (decideRestart policy config s x).1) (hended'.trans hrun)
        (by simp [report, hproc', hproc]) (lastReport_append_report _ _ _ _) with h | h
      · exact .inl ⟨h.1, h.2.1, fun _ _ => h.2.2⟩
      · exact .inr ⟨h.1, iff_of_false h.2.1 fun hsmooth => h.2.2 (hsmooth hrun hgranted)⟩

/-! ## Whole runs -/

private theorem run_of_ended (h : s.ended = true) (turns : List Turn) :
    (Machine.run (turn policy config) s turns).1 = s := by
  induction turns with
  | nil => rfl
  | cons t turns ih => rw [Machine.run_cons, turn_of_ended h, ih]

private theorem smooth_of_ended (h : s.ended = true) (turns : List Turn) :
    Machine.Along (turn policy config) (Smooth policy config) s turns := by
  induction turns with
  | nil => exact True.intro
  | cons t turns ih =>
    refine ⟨fun hrun => ?_, ?_⟩
    · rw [h] at hrun
      cases hrun
    · rwa [turn_of_ended h]

private theorem run_final_iff (hrun : s.ended = false) (hproc : s.processes = 1)
    (turns : List Turn) :
    ((Machine.run (turn policy config) s turns).1.ended = true →
        (Machine.run (turn policy config) s turns).1.Final) ↔
      Machine.Along (turn policy config) (Smooth policy config) s turns := by
  induction turns generalizing s with
  | nil => simp [Machine.Along, hrun]
  | cons t turns ih =>
    rw [Machine.run_cons]
    rcases turn_cases policy config hrun hproc t with ⟨hrun', hproc', hsmooth⟩ | ⟨hend, hfinal⟩
    · exact (ih hrun' hproc').trans ⟨fun h => ⟨hsmooth, h⟩, fun h => h.2⟩
    · rw [run_of_ended hend]
      exact ⟨fun h => ⟨hfinal.mp (h hend), smooth_of_ended hend turns⟩, fun h _ => hfinal.mpr h.1⟩

end

/-- In every run of the loop: if it has ended, then the last report is final and no process is left,
exactly when the settings can be converted and all turns went well. -/
theorem restartLoop_final_iff (settings : RestartSettings) (now : Nat) (turns : List Turn) :
    ((restartLoop settings now turns).ended = true → (restartLoop settings now turns).Final) ↔
      ∃ config, restartConfig settings = .ok config ∧
        Machine.Along (turn settings.restartPolicy config) (Smooth settings.restartPolicy config)
          (.start now) turns := by
  unfold restartLoop
  cases hconfig : restartConfig settings with
  | ok config =>
    refine (run_final_iff (s := .start now) rfl rfl turns).trans ⟨fun h => ⟨config, rfl, h⟩, ?_⟩
    rintro ⟨_, ⟨⟩, h⟩
    exact h
  | err | panic => exact iff_of_false (fun h => nomatch (h rfl).1) fun ⟨_, h, _⟩ => nomatch h

/-- A failing node whose process cannot be started again. -/
def failedRespawn : List Turn :=
  [.exit { runtime := 1, status := .exitCode 1, respawn := .failed false }]

/-- The loop is over, and the daemon waits for the node. -/
theorem failedRespawn_not_final :
    (restartLoop { restartPolicy := .onFailure } 0 failedRespawn).ended = true ∧
      ¬ (restartLoop { restartPolicy := .onFailure } 0 failedRespawn).Final := by
  refine ⟨by decide, fun h => ?_⟩
  exact absurd h.1 (by decide)

end DoraSpec.Daemon.RestartLoop
