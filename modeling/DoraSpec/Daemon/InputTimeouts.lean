import DoraSpec.Daemon.ClosedInputs
import DoraSpec.Node.Output

/-!
# Time limits of inputs

Source `binaries/daemon/src/lib.rs:1946-1983, 3351-3400, 4054-4110`, `running_dataflow.rs:42-73` and
`apis/rust/node/src/node/mod.rs:964-1028`. The time limit of an input starts again when the daemon
forwards a message to it. Large messages go from node to node over zenoh, and ticks and log lines are
sent by other handlers of the daemon, so they do not start it again. The events of the daemon are
those of `Inputs`.
-/

namespace DoraSpec.Daemon.InputTimeouts
open Base Message Daemon.Inputs List State
open Node (DoraNode SendEnv DataMessage Shmem)
open Daemon.DropTokens (EventChannel controlEventHeadroom)
open Daemon.RestartLoop (asNanos)

/-! ## Messages and their ways -/

/-- The channel of a node after a message was put into it, if it takes one; `lib.rs:4038-4056` and
`event_types.rs:186-219`. -/
def accepts (s : Inputs.State) (key : InputKey) : Option EventChannel :=
  match s.subscribeChannels key.1 with
  | none => none
  | some channel =>
    if channel.capacity < controlEventHeadroom then none
    else channel.trySend.toOption

/-- Inputs that a message is delivered to. -/
def deliveredTo (now : Nat) (acc : Inputs.State × List NodeId) : List InputKey → List InputKey
  | [] => []
  | key :: keys =>
    let rest := deliveredTo now (Inputs.State.deliver now acc key).1 keys
    if (accepts acc.1 key).isSome then key :: rest else rest

/-- The inputs of a dataflow, the outputs on which messages were published over zenoh and, for the
statements only, the time of the last message of each input. -/
structure State where
  inputs : Inputs.State
  published : List OutputId := []
  lastDelivered : InputKey → Option Nat := fun _ => none

inductive Event where
  /-- An event of the daemon. -/
  | daemon (event : Inputs.Event)
  /-- A node sends a message; `send_output_sample`, `mod.rs:964-1028`. -/
  | send (sender : NodeId) (node : DoraNode) (env : SendEnv) (outputId : DataId)
      (metadata : Metadata) (data : Option DataMessage) (shmem : Option Shmem) (now : Nat)
  /-- A message that was published over zenoh gets to an input. -/
  | arrive (output : OutputId) (key : InputKey) (now : Nat)
  /-- A tick or a log line for an input; `lib.rs:3351-3400`. -/
  | tick (key : InputKey) (now : Nat)

namespace State

/-- The daemon forwards a message; `lib.rs:4018-4138`. -/
def forward (s : State) (output : OutputId) (now : Nat) : State × List Effect :=
  let reached := deliveredTo now (s.inputs, []) (s.inputs.receivers (· = output))
  let r := Inputs.step s.inputs (.output output now)
  ({ s with
      inputs := r.1
      lastDelivered := fun key => if key ∈ reached then some now else s.lastDelivered key }, r.2)

/-- A message is delivered past the forwarding. -/
def record (s : State) (key : InputKey) (now : Nat) : State :=
  { s with lastDelivered := Function.update s.lastDelivered key (some now) }

/-- The time limit of the input runs. -/
def Armed (s : State) (key : InputKey) : Prop :=
  ∃ deadline ∈ s.inputs.inputDeadlines.lookup key, deadline.lastReceived ≠ none

end State

/-- One event. -/
def step (s : State) : Event → State × List Effect
  | .daemon (.output output now) => s.forward output now
  | .daemon event =>
    let r := Inputs.step s.inputs event
    ({ s with inputs := r.1 }, r.2)
  | .send sender node env outputId metadata data shmem now =>
    match node.route env outputId metadata data shmem with
    | .ok (.daemon ..) => s.forward (sender, outputId) now
    | .ok (.zenoh ..) => ({ s with published := (sender, outputId) :: s.published }, [])
    | .error _ => (s, [])
  | .arrive output key now => if output ∈ s.published then (s.record key now, []) else (s, [])
  | .tick key now =>
    match accepts s.inputs key with
    | none => (s, [])
    | some channel =>
      ({ s.record key now with inputs := s.inputs.modifyChannel key.1 fun _ => channel }, [])

/-- An input is marked only if its last message was delivered longer ago than its time limit. -/
def MarksSilent (s : State) : Event → Prop
  | .daemon (.checkInputTimeouts now) => ∀ entry ∈ s.inputs.timedOut now,
      ∃ t, s.lastDelivered entry.1 = some t ∧ asNanos entry.2 < now - t
  | _ => True

/-- A message that is not forwarded by the daemon finds no time limit that runs. -/
def Unlimited (s : State) : Event → Prop
  | .arrive output key _ => output ∈ s.published → ¬s.Armed key
  | .tick key _ => (accepts s.inputs key).isSome → ¬s.Armed key
  | _ => True

/-! ## Time limits in the table -/

/-- Time limits run from the last message. -/
def Synced (s : State) : Prop :=
  ∀ key deadline t, s.inputs.inputDeadlines.lookup key = some deadline →
    deadline.lastReceived = some t → s.lastDelivered key = some t

section Deadlines

variable {s : Inputs.State} {key k : InputKey} {deadline : InputDeadline} {now : Nat}
  {acc : Inputs.State × List NodeId}

private theorem mem_kreplace {l : List (Σ _ : InputKey, InputDeadline)} {value : InputDeadline}
    (hl : l.NodupKeys)
    (h : (⟨k, deadline⟩ : Σ _ : InputKey, InputDeadline) ∈ List.kreplace key value l) :
    (k = key → deadline = value) ∧ (k ≠ key → ⟨k, deadline⟩ ∈ l) := by
  induction l with
  | nil => cases h
  | cons entry l ih =>
    obtain ⟨hnew, hl⟩ := nodupKeys_cons.mp hl
    by_cases heq : key = entry.1
    · have hcons : kreplace key value (entry :: l) = ⟨key, value⟩ :: l :=
        lookmap_cons_some _ _ (if_pos heq)
      rw [hcons] at h
      rcases mem_cons.mp h with hhead | htail
      · cases hhead
        exact ⟨fun _ => rfl, fun hne => absurd rfl hne⟩
      · refine ⟨?_, fun _ => .tail _ htail⟩
        rintro rfl
        exact absurd (heq ▸ mem_keys_of_mem htail) hnew
    · have hcons : kreplace key value (entry :: l) = entry :: kreplace key value l :=
        lookmap_cons_none _ _ (if_neg heq)
      rw [hcons] at h
      rcases mem_cons.mp h with rfl | htail
      · exact ⟨fun hk => absurd hk.symm heq, fun _ => .head _⟩
      · obtain ⟨hsame, hother⟩ := ih hl htail
        exact ⟨hsame, fun hne => .tail _ (hother hne)⟩

private theorem lookup_replace {t : AList fun _ : InputKey => InputDeadline} {value : InputDeadline}
    (h : (t.replace key value).lookup k = some deadline) :
    (k = key → deadline = value) ∧ (k ≠ key → t.lookup k = some deadline) := by
  obtain ⟨hsame, hother⟩ := mem_kreplace t.nodupKeys (AList.mem_lookup_iff.mp h)
  exact ⟨hsame, fun hne => AList.mem_lookup_iff.mpr (hother hne)⟩

private theorem lookup_arm (h : (s.arm now key).inputDeadlines.lookup k = some deadline) :
    (k = key → deadline.lastReceived = some now) ∧
      (k ≠ key → s.inputDeadlines.lookup k = some deadline) := by
  unfold Inputs.State.arm at h
  split at h
  · next hnone =>
    refine ⟨?_, fun _ => h⟩
    rintro rfl
    rw [hnone] at h
    cases h
  · obtain ⟨hsame, hother⟩ := lookup_replace h
    exact ⟨fun hk => by rw [hsame hk], hother⟩

private theorem lookup_received
    (h : (s.received now key).1.inputDeadlines.lookup k = some deadline) :
    (k = key → deadline.lastReceived = some now) ∧
      (k ≠ key → s.inputDeadlines.lookup k = some deadline) := by
  unfold Inputs.State.received at h
  dsimp only at h
  split at h
  · exact lookup_arm h
  · next timeout _ =>
    rw [inputDeadlines_eq (tables_tell _ _ _)] at h
    replace h : (AList.insert key { timeout, lastReceived := some now }
      (s.arm now key).inputDeadlines).lookup k = some deadline := h
    by_cases hk : k = key
    · subst hk
      rw [AList.lookup_insert, Option.some.injEq] at h
      exact ⟨fun _ => by rw [← h], fun hne => absurd rfl hne⟩
    · rw [AList.lookup_insert_ne hk] at h
      exact ⟨fun heq => absurd heq hk, fun _ => (lookup_arm h).2 hk⟩

private theorem lookup_deliver
    (h : (State.deliver now acc key).1.1.inputDeadlines.lookup k = some deadline) :
    ((accepts acc.1 key).isSome ∧ k = key → deadline.lastReceived = some now) ∧
      (¬((accepts acc.1 key).isSome ∧ k = key) →
        acc.1.inputDeadlines.lookup k = some deadline) := by
  unfold deliver at h
  unfold accepts
  cases hchannel : acc.1.subscribeChannels key.1 with
  | none =>
    rw [hchannel] at h
    exact ⟨by simp, fun _ => h⟩
  | some channel =>
    simp only [hchannel] at h ⊢
    by_cases hfull : channel.capacity < controlEventHeadroom
    · simp only [hfull, if_true] at h ⊢
      exact ⟨by simp, fun _ => h⟩
    · simp only [hfull, if_false] at h ⊢
      cases hsend : channel.trySend with
      | ok next =>
        simp only [hsend] at h
        have hreceived : (k = key → deadline.lastReceived = some now) ∧
            (k ≠ key → acc.1.inputDeadlines.lookup k = some deadline) :=
          lookup_received (s := acc.1.modifyChannel key.1 fun _ => next) h
        simpa [Except.toOption] using hreceived
      | error cause =>
        refine ⟨by simp [Except.toOption], fun _ => ?_⟩
        simp only [hsend] at h
        cases cause <;> exact h

private theorem lookup_delivers {keys : List InputKey}
    (h : (Machine.run (State.deliver now) acc keys).1.1.inputDeadlines.lookup k = some deadline) :
    (k ∈ deliveredTo now acc keys → deadline.lastReceived = some now) ∧
      (k ∉ deliveredTo now acc keys → acc.1.inputDeadlines.lookup k = some deadline) := by
  induction keys generalizing acc with
  | nil => exact ⟨nofun, fun _ => h⟩
  | cons key keys ih =>
    rw [Machine.run_cons] at h
    obtain ⟨hlater, hnever⟩ := ih h
    have hmem : k ∈ deliveredTo now acc (key :: keys) ↔ (accepts acc.1 key).isSome ∧ k = key ∨
        k ∈ deliveredTo now (deliver now acc key).1 keys := by
      rw [deliveredTo]
      by_cases haccepts : (accepts acc.1 key).isSome <;> simp [haccepts]
    rw [hmem]
    by_cases hrest : k ∈ deliveredTo now (deliver now acc key).1 keys
    · exact ⟨fun _ => hlater hrest, fun hnot => absurd (.inr hrest) hnot⟩
    · obtain ⟨hsame, hother⟩ := lookup_deliver (hnever hrest)
      exact ⟨fun hk => hsame (hk.resolve_right hrest), fun hnot => hother fun hk => hnot (.inl hk)⟩

private theorem lookup_registerInputs {node : NodeId} {inputs : List NodeInput}
    (h : (inputs.foldl (State.registerInput node) s).inputDeadlines.lookup k = some deadline) :
    deadline.lastReceived = none ∨ s.inputDeadlines.lookup k = some deadline := by
  have hone {s : Inputs.State} {input : NodeInput}
      (h : (registerInput node s input).inputDeadlines.lookup k = some deadline) :
      deadline.lastReceived = none ∨ s.inputDeadlines.lookup k = some deadline := by
    unfold registerInput at h
    dsimp only at h
    split at h
    · next mapping _ =>
      cases htimeout : input.inputTimeout with
      | none =>
        simp only [htimeout] at h
        exact .inr h
      | some timeout =>
        simp only [htimeout] at h
        by_cases hk : k = (node, input.id)
        · subst hk
          rw [AList.lookup_insert, Option.some.injEq] at h
          exact .inl (by rw [← h])
        · rw [AList.lookup_insert_ne hk] at h
          exact .inr h
    · exact .inr h
    · exact .inr h
  induction inputs generalizing s with
  | nil => exact .inr h
  | cons input inputs ih => exact (ih h).elim .inl hone

private theorem inputDeadlines_timeOut (entry : InputKey × Duration) :
    (s.timeOut entry).1.inputDeadlines = s.inputDeadlines := by
  unfold timeOut
  rcases tables_breakInput
    (s := { s with brokenInputs := s.brokenInputs.insert entry.1 entry.2 }) entry.1 with h | h
  · rw [inputDeadlines_eq h]
  · rw [inputDeadlines_eq h]
    rfl

private theorem lookup_checkInputTimeouts
    (h : (s.checkInputTimeouts now).1.inputDeadlines.lookup k = some deadline) :
    s.inputDeadlines.lookup k = some deadline := by
  have herase (entries : List (InputKey × Duration))
      (table : AList fun _ : InputKey => InputDeadline)
      (h : (entries.foldl (fun table entry => table.erase entry.1) table).lookup k =
        some deadline) : table.lookup k = some deadline := by
    induction entries generalizing table with
    | nil => exact h
    | cons entry entries ih =>
      have hnext := ih _ h
      by_cases hk : k = entry.1
      · rw [hk, AList.lookup_erase] at hnext
        cases hnext
      · rwa [AList.lookup_erase_ne hk] at hnext
  have hmarked := herase _ _ h
  rwa [forEach_keeps timeOut inputDeadlines (fun _ => inputDeadlines_timeOut)] at hmarked

private theorem lookup_step {e : Inputs.Event} (he : ∀ output now, e ≠ .output output now)
    (h : (Inputs.step s e).1.inputDeadlines.lookup k = some deadline) :
    deadline.lastReceived = none ∨ s.inputDeadlines.lookup k = some deadline := by
  replace h : (handle s e).1.inputDeadlines.lookup k = some deadline := h
  cases e with
  | addNode node descriptor policy inputs => exact lookup_registerInputs h
  | output output now => exact absurd rfl (he output now)
  | checkInputTimeouts now => exact .inr (lookup_checkInputTimeouts h)
  | removeNode node =>
    have hstop : (s.stopNode node).inputDeadlines = s.inputDeadlines :=
      inputDeadlines_eq (tables_stopNode node)
    have hclose := inputDeadlines_closeInputs (s := { s.stopNode node with
      mappings := (s.stopNode node).mappings.filter (·.1.1 ≠ node) }) (s.receivers (·.1 = node))
    exact .inr ((hclose.trans hstop) ▸ h)
  | removeMapping source target =>
    exact .inr (inputDeadlines_closeInputs
      (s := { s with mappings := s.mappings.filter (· ≠ (source, target)) }) _ ▸ h)
  | closeOutputs _ _ | outputsDone _ | outputClosed _ | nodeStopped _ =>
    exact .inr (inputDeadlines_closeInputs _ ▸ h)
  | subscribe node channel =>
    exact .inr (inputDeadlines_eq (tables_subscribe node channel) ▸ h)
  | stopNode node => exact .inr (inputDeadlines_eq (tables_stopNode node) ▸ h)
  | restartNode node => exact .inr (inputDeadlines_eq (tables_restartNode node) ▸ h)
  | spawned _ _ | addMapping _ _ | stopDataflow | eventStreamDropped _ | channel _ _ =>
    exact .inr h

end Deadlines

/-! ## Runs -/

section Runs

variable {s : State}

private theorem Synced.forward (h : Synced s) (output : OutputId) (now : Nat) :
    Synced (s.forward output now).1 := by
  intro key deadline t hdeadline ht
  obtain ⟨hreached, hother⟩ := @lookup_delivers key deadline now (s.inputs, [])
    (s.inputs.receivers (· = output)) hdeadline
  by_cases hkey : key ∈ deliveredTo now (s.inputs, []) (s.inputs.receivers (· = output))
  · rw [State.forward]
    simp only [hkey, if_true]
    rw [← hreached hkey, ht]
  · rw [State.forward]
    simp only [hkey, if_false]
    exact h key deadline t (hother hkey) ht

private theorem Synced.record (h : Synced s) {key : InputKey} (hkey : ¬s.Armed key) (now : Nat) :
    Synced (s.record key now) := by
  intro other deadline t hdeadline ht
  have hne : other ≠ key := by
    rintro rfl
    exact hkey ⟨deadline, hdeadline, by simp [ht]⟩
  have hlast : (s.record key now).lastDelivered other = s.lastDelivered other :=
    Function.update_of_ne hne _ _
  rw [hlast]
  exact h other deadline t hdeadline ht

private theorem Synced.step (h : Synced s) {e : Event} (he : Unlimited s e) :
    Synced (InputTimeouts.step s e).1 := by
  fun_cases InputTimeouts.step s e with
  | case1 | case3 => exact h.forward _ _
  | case2 event houtput =>
    intro key deadline t hdeadline ht
    rcases lookup_step houtput hdeadline with hnone | hbefore
    · rw [hnone] at ht
      cases ht
    · exact h key deadline t hbefore ht
  | case6 output key now hpublished => exact h.record (he hpublished) now
  | case9 key now channel haccepts => exact h.record (he (by rw [haccepts]; rfl)) now
  | _ => exact h

private theorem Synced.marksSilent (h : Synced s) (e : Event) : MarksSilent s e := by
  cases e with
  | daemon event =>
    cases event with
    | checkInputTimeouts now =>
      intro entry hentry
      obtain ⟨limit, hlimit, rfl⟩ := mem_map.mp hentry
      obtain ⟨hmem, htimedOut⟩ := mem_filter.mp hlimit
      simp only [decide_eq_true_eq, InputDeadline.isTimedOut, Option.any_eq_true] at htimedOut
      obtain ⟨-, t, ht, hlate⟩ := htimedOut
      exact ⟨t, h limit.1 limit.2 t (AList.mem_lookup_iff.mpr hmem) ht, by simpa using hlate⟩
    | _ => exact True.intro
  | _ => exact True.intro

private theorem synced_start (descriptor : List Node) (nodes : List (NodeId × List NodeInput)) :
    Synced { inputs := start descriptor nodes } := by
  have hregister {inputs : Inputs.State} {node : NodeId × List NodeInput}
      (hinputs : ∀ key deadline, inputs.inputDeadlines.lookup key = some deadline →
        deadline.lastReceived = none) (key : InputKey) (deadline : InputDeadline)
      (hdeadline : (registerNode inputs node).inputDeadlines.lookup key = some deadline) :
      deadline.lastReceived = none :=
    (lookup_registerInputs hdeadline).elim id (hinputs key deadline)
  have hall (inputs : Inputs.State)
      (hinputs : ∀ key deadline, inputs.inputDeadlines.lookup key = some deadline →
        deadline.lastReceived = none) (key : InputKey) (deadline : InputDeadline) :
      (nodes.foldl registerNode inputs).inputDeadlines.lookup key = some deadline →
        deadline.lastReceived = none := by
    induction nodes generalizing inputs with
    | nil => exact hinputs key deadline
    | cons node nodes ih => exact ih _ (hregister hinputs)
  intro key deadline t hdeadline ht
  rw [hall { descriptor } (by simp) key deadline hdeadline] at ht
  cases ht

end Runs

/-- In every run in which all messages to inputs with a running time limit are forwarded by the
daemon, an input is marked only if its last message was delivered longer ago than its limit. -/
theorem marksSilent_of_unlimited (descriptor : List Node)
    (nodes : List (NodeId × List NodeInput)) (events : List Event)
    (h : Machine.Along step Unlimited { inputs := start descriptor nodes } events) :
    Machine.Along step MarksSilent { inputs := start descriptor nodes } events :=
  h.imp step Synced (fun _ e hsynced he => ⟨hsynced.marksSilent e, hsynced.step he⟩)
    (synced_start descriptor nodes)

/-! ## A message over zenoh -/

/-- Identifier of the sample output and input. -/
def snapshot : DataId := ⟨"snapshot", by decide⟩

/-- Node with a zenoh session and the default threshold. -/
def camera : DoraNode where
  outputs := [snapshot]
  outputFraming := ∅
  zenohSession := true

/-- Nothing fails but the allocation of shared memory, which a node with a session does not use. -/
def plainEnv : SendEnv where
  timestamp := ⟨0, 0⟩
  allocateSharedMemory _ := .error "no shared memory"

/-- The camera sends a message of the given size. -/
def sendSnapshot (size now : Nat) : Event :=
  .send ⟨"camera"⟩ camera plainEnv snapshot
    { metadataVersion := 0
      timestamp := ⟨0, 0⟩
      typeInfo := ⟨.null, 0, 0, none, 0, [], [], none, none⟩
      parameters := ∅ }
    (some (.vec (List.replicate size 0))) none now

/-- Viewer that expects a message every second. -/
def viewer : NodeId × List NodeInput :=
  (⟨"viewer"⟩, [{ id := snapshot
                  mapping := .user { source := ⟨"camera"⟩, output := snapshot }
                  inputTimeout := some (.fromSecs 1) }])

/-- A small message at first and a large one after most of a second, which reaches the viewer. -/
def largeSnapshot : List Event :=
  [.daemon (.subscribe ⟨"viewer"⟩ {}), sendSnapshot 8 0, sendSnapshot 5000 800000000,
    .arrive (⟨"camera"⟩, snapshot) (⟨"viewer"⟩, snapshot) 900000000,
    .daemon (.checkInputTimeouts 1100000000)]

/-- A small message is forwarded by the daemon. -/
theorem marksSilent_smallSnapshot :
    Machine.Along step MarksSilent { inputs := start [] [viewer] }
      [.daemon (.subscribe ⟨"viewer"⟩ {}), sendSnapshot 8 0,
        .daemon (.checkInputTimeouts 1100000000)] :=
  marksSilent_of_unlimited [] [viewer] _ ⟨True.intro, True.intro, True.intro, True.intro⟩

/-- The input is marked 0.2 seconds after its last message. -/
theorem not_marksSilent_largeSnapshot :
    ¬Machine.Along step MarksSilent { inputs := start [] [viewer] } largeSnapshot := by
  intro h
  obtain ⟨-, -, -, -, hmarks, -⟩ := h
  obtain ⟨t, ht, hlate⟩ := hmarks ((⟨"viewer"⟩, snapshot), .fromSecs 1) (by decide +kernel)
  have hlast : some t = some 900000000 := ht.symm.trans (by decide +kernel)
  cases hlast
  revert hlate
  decide

end DoraSpec.Daemon.InputTimeouts
