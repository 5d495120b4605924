import DoraSpec.Base.Machine
import DoraSpec.Base.SlidingWindow
import DoraSpec.Message.Duration

/-!
# The restart loop of a node

Source `binaries/daemon/src/spawn/prepared.rs`: after each exit of its process a node is reported
to the daemon and perhaps started again. Restarts are counted in windows of time that start with
the loop and with the first exit after the last window is over. The loop of a dynamic node, which
has no process, ends at once and is left out. Times and delays are in nanoseconds.
-/

namespace DoraSpec.Daemon.RestartLoop
open Base Message

/-! ## Settings -/

/-- How a process ended; `common.rs:206-212`. -/
inductive NodeExitStatus where
  | success
  | ioError (message : String)
  | exitCode (code : Int32)
  | signal (number : Int32)
  | unknown
  deriving DecidableEq

/-- `is_success`, `common.rs:215-217`. -/
def NodeExitStatus.isSuccess : NodeExitStatus → Bool
  | .success => true
  | .ioError _ | .exitCode _ | .signal _ | .unknown => false

/-- When a node is restarted; `descriptor.rs:167-180`. -/
inductive RestartPolicy where
  | never
  | onFailure
  | always
  deriving DecidableEq

/-- Settings of a custom node, in seconds; `descriptor.rs:1044-1061`. Nodes with operators have the
defaults. -/
structure RestartSettings where
  restartPolicy : RestartPolicy := .never
  maxRestarts : UInt32 := 0
  restartDelay : Option Float := none
  maxRestartDelay : Option Float := none
  restartWindow : Option Float := none

/-- `prepared.rs:72-77`. -/
structure RestartConfig where
  maxRestarts : UInt32
  restartDelay : Option Duration := none
  maxRestartDelay : Option Duration := none
  restartWindow : Option Duration := none

/-- `restart_config`, `prepared.rs:155-165`. The conversions panic on a negative number. -/
def restartConfig (settings : RestartSettings) : Outcome String RestartConfig := do
  let restartDelay ← Outcome.mapOption Duration.fromSecsF64 settings.restartDelay
  let maxRestartDelay ← Outcome.mapOption Duration.fromSecsF64 settings.maxRestartDelay
  let restartWindow ← Outcome.mapOption Duration.fromSecsF64 settings.restartWindow
  pure { maxRestarts := settings.maxRestarts, restartDelay, maxRestartDelay, restartWindow }

/-- Length in nanoseconds. -/
def asNanos (d : Duration) : Nat := 1000000000 * d.secs + d.nanos

/-- `Duration::as_secs_f64`. -/
def asSecsF64 (d : Duration) : Float := Float.ofNat d.secs + Float.ofNat d.nanos / 1e9

/-- `Duration::mul_f64`, which panics on an overflow. -/
def mulF64 (d : Duration) (factor : Float) : Outcome String Duration :=
  Duration.fromSecsF64 (factor * asSecsF64 d)

/-- Delay before a restart, which doubles with the count; `prepared.rs:265-270`. -/
def backoff (config : RestartConfig) (windowCount : UInt32) : Outcome String (Option Nat) :=
  match config.restartDelay with
  | none => .ok none
  | some base => do
    let exp := min (windowCount - 1).toNat 16
    let delay ← mulF64 base (Float.ofNat (2 ^ exp))
    pure (some (config.maxRestartDelay.elim (asNanos delay) fun max => min (asNanos delay) (asNanos max)))

/-! ## The loop -/

/-- Events that the loop sends to the daemon; `prepared.rs:239-247` and `prepared.rs:346-351`. -/
inductive LoopEvent where
  | spawnedNodeResult (exitStatus : NodeExitStatus) (restart : Bool) (restartCount : UInt32)
  | processHandleReplaced
  deriving DecidableEq

/-- What starting the process again leads to; `spawn_inner`, `prepared.rs:384-700`. An error may come
before or after the process was created. -/
inductive Respawn where
  | spawned
  | dynamic
  | failed (processLeft : Bool)
  deriving DecidableEq

/-- End of a process and what follows: how long it ran, how it ended, whether restarts are disabled
when this is noticed and after the delay, the time beyond the delay until the next process is
started, and what comes of it. -/
structure Exit where
  runtime : Nat
  status : NodeExitStatus
  disabled : Bool := false
  disabledLater : Bool := false
  overhead : Nat := 0
  respawn : Respawn := .spawned

/-- What the loop waits for: the end of the process, or the loss of the task that waits for it. -/
inductive Turn where
  | lost
  | exit (x : Exit)

/-- State of the loop, with the events it has sent, the times of the restarts so far, newest first,
and the number of processes of the node. -/
structure LoopState where
  now : Nat
  restartCount : UInt32 := 0
  windowStart : Nat
  windowCount : UInt32 := 0
  processes : Nat := 1
  sent : List LoopEvent := []
  restarts : List Nat := []
  ended : Bool := false

/-- The loop starts with the first process; `prepared.rs:176-179`. -/
def LoopState.start (now : Nat) : LoopState := { now, windowStart := now }

section Turns

variable (policy : RestartPolicy) (config : RestartConfig)

/-- The process has ended. -/
def exited (s : LoopState) (x : Exit) : LoopState :=
  { s with now := s.now + x.runtime, processes := s.processes - 1 }

/-- `prepared.rs:193-213`. -/
def wantsRestart (x : Exit) : Bool :=
  (match policy with
    | .always => true
    | .onFailure => !x.status.isSuccess
    | .never => false) && !x.disabled

/-- The window is over; `prepared.rs:217-219`. -/
def expired (s : LoopState) : Bool := config.restartWindow.any (asNanos · < s.now - s.windowStart)

/-- Count a restart; `prepared.rs:216-223`. -/
def countRestart (s : LoopState) : LoopState :=
  if expired config s then { s with windowStart := s.now, windowCount := 1 }
  else { s with windowCount := s.windowCount + 1 }

/-- The restart is over the limit; `prepared.rs:226`. -/
def exceeded (s : LoopState) : Bool := 0 < config.maxRestarts && config.maxRestarts < s.windowCount

/-- Report the end of the process; `prepared.rs:239-253`. -/
def report (x : Exit) (restart : Bool) (s : LoopState) : LoopState :=
  { s with sent := s.sent ++ [.spawnedNodeResult x.status restart s.restartCount] }

/-- Start the process again; `prepared.rs:297-376`. -/
def restart (x : Exit) (s : LoopState) : LoopState :=
  let s := { s with restartCount := s.restartCount + 1, restarts := s.now :: s.restarts }
  match x.respawn with
  | .spawned => { s with processes := s.processes + 1, sent := s.sent ++ [.processHandleReplaced] }
  | .dynamic => { s with ended := true }
  | .failed processLeft => { s with ended := true, processes := s.processes + processLeft.toNat }

/-- Wait and start the process again; `prepared.rs:255-295`. -/
def delayedRestart (x : Exit) (s : LoopState) : LoopState :=
  match backoff config s.windowCount with
  | .ok none => restart x { s with now := s.now + x.overhead }
  | .ok (some delay) =>
    if x.disabledLater then { s with now := s.now + delay, ended := true }
    else restart x { s with now := s.now + delay + x.overhead }
  -- the task of the loop ends with the panic
  | .err _ | .panic _ => { s with ended := true }

/-- State after an exit is counted, and whether the node is to be restarted; `prepared.rs:193-237`. -/
def decideRestart (s : LoopState) (x : Exit) : LoopState × Bool :=
  if wantsRestart policy x then
    (countRestart config (exited s x), !exceeded config (countRestart config (exited s x)))
  else (exited s x, false)

/-- One exit; `prepared.rs:193-380`. -/
def handleExit (s : LoopState) (x : Exit) : LoopState :=
  let (s, again) := decideRestart policy config s x
  if again then delayedRestart config x (report x true s)
  else { report x false s with ended := true }

/-- One turn of the loop, `prepared.rs:181-381`. -/
def turn (s : LoopState) (t : Turn) : LoopState × Unit :=
  if s.ended then (s, ())
  else
    match t with
    | .lost => ({ s with ended := true }, ())
    | .exit x => (handleExit policy config s x, ())

end Turns

/-- `restart_loop`, `prepared.rs:168-382`. -/
def restartLoop (settings : RestartSettings) (now : Nat) (turns : List Turn) : LoopState :=
  match restartConfig settings with
  | .ok config =>
    (Machine.run (turn settings.restartPolicy config) (.start now) turns).1
  | .err _ | .panic _ => { LoopState.start now with ended := true }

/-! ## Restarts in time -/

/-- No interval of a window's length holds more restarts than the bound; without windows there are no
more than the limit in all. -/
def LimitedBy (config : RestartConfig) (bound : Nat) (restarts : List Nat) : Prop :=
  match config.restartWindow with
  | none => restarts.length ≤ config.maxRestarts.toNat
  | some window => SlidingWindow.AtMost (asNanos window) bound restarts

/-- No interval of a window's length holds more restarts than the limit. -/
def Limited (config : RestartConfig) (restarts : List Nat) : Prop :=
  LimitedBy config config.maxRestarts.toNat restarts

/-- If the window is over at an exit, the restarts that were counted in it are all more than a window's
length ago. -/
def CountsAnew (policy : RestartPolicy) (config : RestartConfig) (s : LoopState) : Turn → Prop
  | .lost => True
  | .exit x => s.ended = false → wantsRestart policy x → expired config (exited s x) →
      ∀ w ∈ config.restartWindow, ∀ t ∈ s.restarts, t + asNanos w < (exited s x).now

/-- The restarts of the current window, of the one before if it may reach into the same interval, and
of all others, newest first. -/
structure Windows (config : RestartConfig) (bound now windowStart : Nat)
    (restarts current previous older : List Nat) : Prop where
  split : restarts = current ++ (previous ++ older)
  current_le : current.length ≤ config.maxRestarts.toNat
  previous_le : config.maxRestarts.toNat + previous.length ≤ bound
  start_le : windowStart ≤ now
  not_later : ∀ t ∈ restarts, t ≤ now
  of_current : ∀ t ∈ current, windowStart ≤ t
  of_previous : ∀ t ∈ previous, t ≤ windowStart
  of_older : ∀ w ∈ config.restartWindow, ∀ t ∈ older, t + asNanos w < windowStart
  bounded : ∀ w ∈ config.restartWindow, SlidingWindow.AtMost (asNanos w) bound (previous ++ older)
  one_window : config.restartWindow = none → previous ++ older = []

namespace Windows

variable {config : RestartConfig} {bound now windowStart : Nat}
  {restarts current previous older : List Nat}

variable (h : Windows config bound now windowStart restarts current previous older)
include h

private theorem bounded_all {w : Duration} (hw : w ∈ config.restartWindow) :
    SlidingWindow.AtMost (asNanos w) bound restarts := by
  have hc := h.current_le
  have hp := h.previous_le
  rw [h.split]
  refine (h.bounded w hw).append (by omega) fun t ht u hu => ?_
  exact (h.of_older w hw u hu).trans_le (h.of_current t ht)

private theorem limitedBy : LimitedBy config bound restarts := by
  unfold LimitedBy
  split
  · next hnone =>
    rw [h.split, h.one_window hnone, List.append_nil]
    exact h.current_le
  · next w hw => exact h.bounded_all hw

private theorem later {now' : Nat} (hle : now ≤ now') :
    Windows config bound now' windowStart restarts current previous older :=
  { h with
    start_le := h.start_le.trans hle
    not_later := fun t ht => (h.not_later t ht).trans hle }

private theorem next {w : Duration} (hw : config.restartWindow = some w)
    (hover : windowStart + asNanos w < now) (hbound : 2 * config.maxRestarts.toNat ≤ bound) :
    Windows config bound now now restarts [] current (previous ++ older) where
  split := h.split
  current_le := Nat.zero_le _
  previous_le := by
    have := h.current_le
    omega
  start_le := le_rfl
  not_later := h.not_later
  of_current := by simp
  of_previous := fun t ht => h.not_later t (by simp [h.split, ht])
  of_older := by
    intro w' hw' t ht
    obtain rfl : w' = w := Option.some.inj (hw'.symm.trans hw)
    rcases List.mem_append.mp ht with ht | ht
    · have := h.of_previous t ht
      omega
    · have := h.of_older w' hw' t ht
      omega
  bounded := fun w' hw' => h.split ▸ h.bounded_all hw'
  one_window := fun hnone => by simp [hw] at hnone

private theorem anew (hw : config.restartWindow ≠ none)
    (hold : ∀ w ∈ config.restartWindow, ∀ t ∈ restarts, t + asNanos w < now) :
    Windows config bound now now restarts [] [] restarts where
  split := rfl
  current_le := Nat.zero_le _
  previous_le := (Nat.le_add_right _ _).trans h.previous_le
  start_le := le_rfl
  not_later := h.not_later
  of_current := by simp
  of_previous := by simp
  of_older := hold
  bounded := fun w hw => h.bounded_all hw
  one_window := fun hnone => absurd hnone hw

private theorem restarted (hlt : current.length < config.maxRestarts.toNat) :
    Windows config bound now windowStart (now :: restarts) (now :: current) previous older :=
  { h with
    split := by rw [h.split, List.cons_append]
    current_le := hlt
    not_later := List.forall_mem_cons.mpr ⟨le_rfl, h.not_later⟩
    of_current := List.forall_mem_cons.mpr ⟨h.start_le, h.of_current⟩ }

end Windows

/-- What holds between the turns of the loop. -/
def WindowInv (config : RestartConfig) (bound : Nat) (s : LoopState) : Prop :=
  ∃ current previous older,
    Windows config bound s.now s.windowStart s.restarts current previous older ∧
      (s.ended = false → current.length ≤ s.windowCount.toNat ∧
        s.windowCount.toNat ≤ config.maxRestarts.toNat)

section Bound

variable {policy : RestartPolicy} {config : RestartConfig} {bound : Nat}
  {current previous older : List Nat} {s : LoopState}

private theorem toNat_add_one {n : UInt32} (h : n.toNat + 1 < 2 ^ 32) :
    (n + 1).toNat = n.toNat + 1 := by
  rw [UInt32.toNat_add, UInt32.toNat_one, Nat.mod_eq_of_lt h]

private theorem windowInv_start (hbound : config.maxRestarts.toNat ≤ bound) (now : Nat) :
    WindowInv config bound (.start now) := by
  refine ⟨[], [], [], ⟨rfl, ?_, ?_, le_rfl, ?_, ?_, ?_, ?_, ?_, ?_⟩, fun _ => ⟨?_, ?_⟩⟩ <;>
    simp [LoopState.start, SlidingWindow.atMost_of_length_le, hbound]

private theorem expired_eq_true (h : expired config s = true) :
    ∃ w, config.restartWindow = some w ∧ s.windowStart + asNanos w < s.now := by
  unfold expired at h
  cases hw : config.restartWindow with
  | none => simp [hw] at h
  | some w => exact ⟨w, rfl, Nat.lt_sub_iff_add_lt'.mp (by simpa [hw] using h)⟩

private theorem windows_countRestart (hmax : config.maxRestarts.toNat + 1 < 2 ^ 32)
    (h : Windows config bound s.now s.windowStart s.restarts current previous older)
    (hnew : expired config s = true → ∃ previous older,
      Windows config bound s.now s.now s.restarts [] previous older)
    (hcount : current.length ≤ s.windowCount.toNat)
    (hle : s.windowCount.toNat ≤ config.maxRestarts.toNat) :
    ∃ current previous older,
      Windows config bound (countRestart config s).now (countRestart config s).windowStart
          (countRestart config s).restarts current previous older ∧
        current.length < (countRestart config s).windowCount.toNat := by
  unfold countRestart
  split
  · next hexp =>
    obtain ⟨previous, older, hnew⟩ := hnew hexp
    exact ⟨[], previous, older, hnew, by simp⟩
  · have hlt : current.length < (s.windowCount + 1).toNat := by
      rw [toNat_add_one (Nat.lt_of_le_of_lt (Nat.add_le_add_right hle 1) hmax)]
      exact Nat.lt_succ_of_le hcount
    exact ⟨current, previous, older, h, hlt⟩

private theorem windowInv_delayedRestart (x : Exit)
    (h : Windows config bound s.now s.windowStart s.restarts current previous older)
    (hcount : current.length < s.windowCount.toNat)
    (hle : s.windowCount.toNat ≤ config.maxRestarts.toNat) :
    WindowInv config bound (delayedRestart config x s) := by
  have hrestart {now' : Nat} (hnow : s.now ≤ now') :
      WindowInv config bound (restart x { s with now := now' }) := by
    have hnew := (h.later hnow).restarted (by omega)
    unfold restart
    cases x.respawn with
    | spawned => exact ⟨_, _, _, hnew, fun _ => ⟨hcount, hle⟩⟩
    | dynamic | failed => exact ⟨_, _, _, hnew, nofun⟩
  unfold delayedRestart
  split
  · exact hrestart (by omega)
  · next delay _ =>
    split
    · exact ⟨_, _, _, h.later (Nat.le_add_right s.now delay), nofun⟩
    · exact hrestart (by omega)
  · exact ⟨_, _, _, h, nofun⟩
  · exact ⟨_, _, _, h, nofun⟩

private theorem windowInv_turn (hlimit : 0 < config.maxRestarts)
    (hmax : config.maxRestarts.toNat + 1 < 2 ^ 32) (t : Turn)
    (hnew : 2 * config.maxRestarts.toNat ≤ bound ∨ CountsAnew policy config s t)
    (h : WindowInv config bound s) : WindowInv config bound (turn policy config s t).1 := by
  unfold turn
  split
  · exact h
  next hrunning =>
  have hrunning : s.ended = false := by simpa using hrunning
  obtain ⟨current, previous, older, hwin, hcounted⟩ := h
  obtain ⟨hcount, hle⟩ := hcounted hrunning
  cases t with
  | lost => exact ⟨current, previous, older, hwin, nofun⟩
  | exit x =>
    have hexited : Windows config bound (exited s x).now (exited s x).windowStart
        (exited s x).restarts current previous older := hwin.later (Nat.le_add_right _ _)
    dsimp only [handleExit, decideRestart]
    split
    · next hwants =>
      have hwindow (hexp : expired config (exited s x) = true) : ∃ previous older,
          Windows config bound (exited s x).now (exited s x).now (exited s x).restarts []
            previous older := by
        obtain ⟨w, hw, hover⟩ := expired_eq_true hexp
        rcases hnew with hbound | hanew
        · exact ⟨_, _, hexited.next hw hover hbound⟩
        · exact ⟨_, _, hexited.anew (by simp [hw]) (hanew hrunning hwants hexp)⟩
      obtain ⟨current', previous', older', hwin', hcount'⟩ :=
        windows_countRestart hmax hexited hwindow hcount hle
      cases hover : exceeded config (countRestart config (exited s x)) with
      | true => exact ⟨current', previous', older', hwin', nofun⟩
      | false =>
        refine windowInv_delayedRestart x hwin' hcount' ?_
        simp only [exceeded, Bool.and_eq_false_iff, decide_eq_false_iff_not] at hover
        exact UInt32.le_iff_toNat_le.mp
          (UInt32.not_lt.mp (hover.resolve_left (not_not.mpr hlimit)))
    · exact ⟨current, previous, older, hexited, nofun⟩

/-- Within a window's time there are at most the restarts of two windows, and without windows at
most as many as the limit in all. -/
theorem restarts_bounded (hlimit : 0 < config.maxRestarts)
    (hmax : config.maxRestarts.toNat + 1 < 2 ^ 32) (now : Nat) (turns : List Turn) :
    LimitedBy config (2 * config.maxRestarts.toNat)
      (Machine.run (turn policy config) (.start now) turns).1.restarts := by
  obtain ⟨_, _, _, hwin, -⟩ := Machine.always (turn policy config)
    (WindowInv config (2 * config.maxRestarts.toNat))
    (fun s t h => windowInv_turn hlimit hmax t (.inl le_rfl) h)
    (windowInv_start (by omega) now) turns
  exact hwin.limitedBy

/-- If no window is over while a restart in it is still recent, every interval of a window's length
holds at most as many restarts as the limit. -/
theorem restarts_limited (hlimit : 0 < config.maxRestarts)
    (hmax : config.maxRestarts.toNat + 1 < 2 ^ 32) (now : Nat) (turns : List Turn)
    (hanew : Machine.Along (turn policy config) (CountsAnew policy config) (.start now) turns) :
    Limited config (Machine.run (turn policy config) (.start now) turns).1.restarts := by
  obtain ⟨_, _, _, hwin, -⟩ := Machine.invariant (turn policy config)
    (WindowInv config config.maxRestarts.toNat)
    (fun s t h hanew => windowInv_turn hlimit hmax t (.inr hanew) h)
    (.start now) turns (windowInv_start le_rfl now) hanew
  exact hwin.limitedBy

end Bound

/-- One restart in ten seconds. -/
def onceInTenSeconds : RestartConfig where
  maxRestarts := 1
  restartWindow := some (Duration.fromSecs 10)

/-- A process runs for a while, and the next one for another. -/
def twoFailures (first second : Nat) : List Turn :=
  [.exit { runtime := first, status := .exitCode 1 },
    .exit { runtime := second, status := .exitCode 1 }]

/-- Two failures eleven seconds apart. -/
theorem twoFailures_limited :
    (Machine.run (turn .onFailure onceInTenSeconds) (.start 0)
      (twoFailures 11000000000 11000000000)).1.restarts = [22000000000, 11000000000] ∧
    Limited onceInTenSeconds (Machine.run (turn .onFailure onceInTenSeconds) (.start 0)
      (twoFailures 11000000000 11000000000)).1.restarts :=
  ⟨by decide, restarts_limited (by decide) (by decide) 0 _
    ⟨fun _ _ _ => by simp [LoopState.start], fun _ _ _ => by
      rintro w ⟨⟩ t ht
      obtain rfl : t = 11000000000 := List.mem_singleton.mp ht
      decide, trivial⟩⟩

/-- The window started with the loop and is over right after the first restart, which is not counted
any more. -/
theorem twoFailures_not_limited : ¬ Limited onceInTenSeconds
    (Machine.run (turn .onFailure onceInTenSeconds) (.start 0)
      (twoFailures 10000000000 1)).1.restarts := by
  intro h
  have hrestarts : (Machine.run (turn .onFailure onceInTenSeconds) (.start 0)
      (twoFailures 10000000000 1)).1.restarts = [10000000001, 10000000000] := by decide
  have := h 10000000000
  rw [hrestarts] at this
  exact absurd this (by decide)

end DoraSpec.Daemon.RestartLoop
