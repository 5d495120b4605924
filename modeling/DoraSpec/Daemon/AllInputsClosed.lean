import DoraSpec.Daemon.Inputs

/-!
# Nodes that are told that their inputs are all closed

A node is told so, and is not restarted any more, when the last of its inputs is closed. The same is
done when a node subscribes without an open input, whether or not it has inputs and whether or not
one of them is only broken.
-/

namespace DoraSpec.Daemon.Inputs
open Base Message State List
open Daemon.DropTokens (EventChannel)

/-! ## Operations on the tables -/

section

variable {ι : Type} (f : State → ι → State × List Effect)

@[simp] private theorem forEach_nil (s : State) : forEach f s [] = (s, []) := rfl

/-- A loop starts with its first element. -/
theorem forEach_cons (s : State) (i : ι) (l : List ι) :
    forEach f s (i :: l) = andThen (f s i) (forEach f · l) := by
  simp [forEach, andThen]

/-- What each operation keeps is the same after all of them. -/
theorem forEach_keeps {α : Type} (g : State → α) (h : ∀ s i, g (f s i).1 = g s) (s : State)
    (l : List ι) : g (forEach f s l).1 = g s := by
  induction l generalizing s with
  | nil => rfl
  | cons i l ih =>
    rw [forEach_cons]
    exact (ih (f s i).1).trans (h s i)

end

namespace State

/-- The tables of the inputs. -/
def tables (s : State) :
    List (OutputId × InputKey) × (NodeId → Option (Finset DataId)) ×
      (AList fun _ : InputKey => InputDeadline) × (AList fun _ : InputKey => Duration) :=
  (s.mappings, s.openInputs, s.inputDeadlines, s.brokenInputs)

variable {s t : State}

private theorem mappings_eq (h : s.tables = t.tables) :
    s.mappings = t.mappings := congrArg Prod.fst h

/-- Open inputs are in the tables. -/
theorem openOf_eq (h : s.tables = t.tables) : s.openOf = t.openOf := by
  funext node
  exact congrArg (fun tables => (tables.2.1 node).getD ∅) h

/-- Deadlines are in the tables. -/
theorem inputDeadlines_eq (h : s.tables = t.tables) : s.inputDeadlines = t.inputDeadlines :=
  congrArg (·.2.2.1) h

/-- Broken inputs are in the tables. -/
theorem brokenInputs_eq (h : s.tables = t.tables) : s.brokenInputs = t.brokenInputs :=
  congrArg (·.2.2.2) h

variable (s) (node : NodeId) (key : InputKey)

/-- Channels are not in the tables. -/
@[simp] theorem tables_modifyChannel (f : EventChannel → EventChannel) :
    (s.modifyChannel node f).tables = s.tables := rfl

@[simp] private theorem tables_setDisableRestart (value : Bool) :
    (s.setDisableRestart node value).tables = s.tables := rfl

@[simp] private theorem tables_disableRestart : (s.disableRestart node).1.tables = s.tables := rfl

/-- Messages keep the tables. -/
@[simp] theorem tables_tell (effect : Effect) : (s.tell node effect).1.tables = s.tables := by
  unfold tell
  split <;> rfl

@[simp] private theorem tables_reportAllClosed : (s.reportAllClosed node).1.tables = s.tables := by
  unfold reportAllClosed
  split
  · simp [andThen]
  · rfl

/-- Closing erases the input. -/
theorem tables_closeInput : (s.closeInput key).1.tables = (s.eraseInput key).tables := by
  fun_cases closeInput s key with
  | case2 => split <;> simp +zetaDelta [andThen]
  | _ => rfl

/-- Open inputs of the other nodes stay. -/
theorem openOf_eraseOpen :
    (s.eraseOpen key).openOf node =
      if node = key.1 then (s.openOf node).erase key.2 else s.openOf node := by
  unfold openOf eraseOpen
  by_cases h : node = key.1
  · subst h
    cases s.openInputs key.1 <;> simp
  · simp [h]

/-- No broken input is the node's. -/
theorem hasBroken_eq_false : s.hasBroken node = false ↔ ∀ key ∈ s.brokenInputs, key.1 ≠ node := by
  simp [hasBroken, AList.mem_keys]

/-- No input of the node is open or broken. -/
def AllClosed : Prop := s.openOf node = ∅ ∧ ∀ key ∈ s.brokenInputs, key.1 ≠ node

private theorem AllClosed.closeInput {s : State} {node : NodeId} (h : s.AllClosed node)
    (key : InputKey) :
    (s.closeInput key).1.AllClosed node := by
  have htables := tables_closeInput s key
  refine ⟨?_, fun other hother => ?_⟩
  · rw [openOf_eq htables]
    change (s.eraseOpen key).openOf node = ∅
    rw [openOf_eraseOpen, h.1]
    simp
  · rw [brokenInputs_eq htables] at hother
    exact h.2 other (AList.mem_erase.mp hother).2

private theorem AllClosed.closeInputs {s : State} {node : NodeId} (h : s.AllClosed node)
    (keys : List InputKey) : (forEach State.closeInput s keys).1.AllClosed node := by
  induction keys generalizing s with
  | nil => exact h
  | cons key keys ih =>
    rw [forEach_cons]
    exact ih (h.closeInput key)

end State

/-! ## Reports -/

/-- Node that has no inputs left. -/
def Effect.ended? : Effect → Option NodeId
  | .inputClosed _ | .inputRecovered _ => none
  | .allInputsClosed node | .restartDisabled node => some node

/-- Nodes that some of the effects say have no inputs left. -/
def Ended (effects : List Effect) (node : NodeId) : Prop := ∃ x ∈ effects, x.ended? = some node

private theorem ended_append {l l' : List Effect} {node : NodeId} :
    Ended (l ++ l') node ↔ Ended l node ∨ Ended l' node := by
  simp [Ended, or_and_right, exists_or]

@[simp] private theorem not_ended_nil (node : NodeId) : ¬ Ended [] node := by simp [Ended]

variable {channel : EventChannel}

private theorem ended_of_offer {effect : Effect} {node : NodeId}
    (h : Ended (offer channel effect).2 node) :
    effect.ended? = some node := by
  unfold offer at h
  split at h
  · simpa [Ended] using h
  · simp at h

private theorem exists_of_ended_run {σ ι : Type} {f : σ → ι → σ × List Effect} {s : σ} {l : List ι}
    {node : NodeId} (h : Ended (Machine.run f s l).2.flatten node) :
    ∃ i ∈ l, ∃ t, Ended (f t i).2 node := by
  induction l generalizing s with
  | nil => simp at h
  | cons i l ih =>
    rw [Machine.run_cons, flatten_cons] at h
    rcases ended_append.mp h with h | h
    · exact ⟨i, by simp, s, h⟩
    · obtain ⟨j, hj, t, h⟩ := ih h
      exact ⟨j, mem_cons_of_mem i hj, t, h⟩

variable {m : OutputId × InputKey}

namespace State

variable {s : State} {node : NodeId}

variable {receiver : NodeId} {key : InputKey}

private theorem ended_of_tell {effect : Effect} (h : Ended (s.tell receiver effect).2 node) :
    effect.ended? = some node := by
  unfold tell at h
  split at h
  · simp at h
  · exact ended_of_offer h

private theorem ended_of_disableRestart (h : Ended (s.disableRestart receiver).2 node) :
    node = receiver := by
  unfold disableRestart at h
  dsimp only at h
  split at h
  · simpa [Ended, Effect.ended?, eq_comm] using h
  · simp at h

private theorem ended_of_reportAllClosed (h : Ended (s.reportAllClosed receiver).2 node) :
    node = receiver ∧ s.AllClosed node := by
  unfold reportAllClosed at h
  split at h
  · next hclosed =>
    have hnode : node = receiver := by
      rcases ended_append.mp h with h | h
      · exact ended_of_disableRestart h
      · exact (Option.some.inj (ended_of_tell h)).symm
    subst hnode
    exact ⟨rfl, hclosed.1, (hasBroken_eq_false s node).mp hclosed.2⟩
  · simp at h

/-- It depends on the tables only. -/
theorem AllClosed.congr {t : State} (h : s.AllClosed node) (htables : t.tables = s.tables) :
    t.AllClosed node := by
  unfold AllClosed
  rw [openOf_eq htables, brokenInputs_eq htables]
  exact h

private theorem ended_of_closeInput (h : Ended (s.closeInput key).2 node) :
    node = key.1 ∧ (s.closeInput key).1.AllClosed node := by
  have htables := tables_closeInput s key
  unfold closeInput at h
  dsimp only at h
  split at h
  · simp at h
  · split at h
    · rcases ended_append.mp h with h | h
      · split at h
        · cases ended_of_tell h
        · simp at h
      · obtain ⟨hnode, hclosed⟩ := ended_of_reportAllClosed h
        refine ⟨hnode, hclosed.congr (htables.trans ?_)⟩
        split <;> simp
    · simp at h

private theorem ended_of_closeInputs {keys : List InputKey}
    (h : Ended (forEach closeInput s keys).2 node) :
    (∃ key ∈ keys, key.1 = node) ∧ (forEach closeInput s keys).1.AllClosed node := by
  induction keys generalizing s with
  | nil => simp at h
  | cons key keys ih =>
    rw [forEach_cons] at h ⊢
    rcases ended_append.mp h with h | h
    · obtain ⟨hnode, hclosed⟩ := ended_of_closeInput h
      exact ⟨⟨key, by simp, hnode.symm⟩, hclosed.closeInputs keys⟩
    · obtain ⟨⟨other, hother, hnode⟩, hclosed⟩ := ih h
      exact ⟨⟨other, mem_cons_of_mem key hother, hnode⟩, hclosed⟩

private theorem not_ended_breakInput (hbroken : key ∈ s.brokenInputs) :
    ¬ Ended (s.breakInput key).2 node := by
  intro h
  unfold breakInput at h
  split at h
  · simp at h
  · dsimp only at h
    split at h
    · rcases ended_append.mp h with h | h
      · cases ended_of_tell h
      · obtain ⟨hnode, -, hnone⟩ := ended_of_reportAllClosed h
        rw [brokenInputs_eq (tables_tell _ _ _)] at hnone
        exact hnone key hbroken hnode.symm
    · simp at h

private theorem not_ended_received {now : Nat} : ¬ Ended (s.received now key).2 node := by
  intro h
  unfold received at h
  dsimp only at h
  split at h
  · simp at h
  · cases ended_of_tell h

private theorem not_ended_deliver {now : Nat} {acc : State × List NodeId} :
    ¬ Ended (deliver now acc key).2 node := by
  fun_cases deliver now acc key with
  | case3 => exact not_ended_received
  | _ => simp

private theorem ended_of_reportAtSubscribe
    (h : Ended (s.reportAtSubscribe receiver channel).2 node) :
    node = receiver ∧ s.openOf node = ∅ := by
  unfold reportAtSubscribe at h
  split at h
  · next hopen =>
    have hnode : node = receiver := by
      rcases ended_append.mp h with h | h
      · exact ended_of_disableRestart h
      · split at h
        · exact (Option.some.inj (ended_of_offer h)).symm
        · simp at h
    subst hnode
    exact ⟨rfl, hopen⟩
  · simp at h

private theorem ended_of_subscribe (h : Ended (s.subscribe receiver channel).2 node) :
    node = receiver ∧ s.openOf node = ∅ := by
  rcases ended_append.mp h with h | h
  · obtain ⟨effect, heffect, channel', h⟩ := exists_of_ended_run h
    obtain ⟨key, -, rfl⟩ := mem_map.mp heffect
    cases ended_of_offer h
  · exact ended_of_reportAtSubscribe h

/-! ## Connections -/

/-- Subscriptions keep the tables. -/
@[simp] theorem tables_subscribe (receiver : NodeId) (channel : EventChannel) :
    (s.subscribe receiver channel).1.tables = s.tables := by
  unfold subscribe reportAtSubscribe
  dsimp only
  split <;> split <;> rfl

/-- Stops keep the tables. -/
@[simp] theorem tables_stopNode (receiver : NodeId) : (s.stopNode receiver).tables = s.tables := by
  unfold stopNode
  split <;> rfl

/-- Restarts keep the tables. -/
@[simp] theorem tables_restartNode (receiver : NodeId) :
    (s.restartNode receiver).tables = s.tables := by
  unfold restartNode
  split <;> rfl

/-- An input that breaks was open or is left alone. -/
theorem tables_breakInput (key : InputKey) : (s.breakInput key).1.tables = s.tables ∨
    (s.breakInput key).1.tables = (s.eraseOpen key).tables := by
  fun_cases breakInput s key with
  | case1 => exact .inl rfl
  | _ => exact .inr (by simp +zetaDelta [andThen])

private theorem mappings_timeOut (entry : InputKey × Duration) :
    (s.timeOut entry).1.mappings = s.mappings := by
  unfold timeOut
  rcases tables_breakInput (s := { s with brokenInputs := s.brokenInputs.insert entry.1 entry.2 })
    entry.1 with h | h
  · rw [mappings_eq h]
  · rw [mappings_eq h]
    rfl

private theorem mappings_arm (now : Nat) (key : InputKey) :
    (s.arm now key).mappings = s.mappings := by
  unfold arm
  split <;> rfl

private theorem mappings_deliver (now : Nat) (acc : State × List NodeId) (key : InputKey) :
    (deliver now acc key).1.1.mappings = acc.1.mappings := by
  fun_cases deliver now acc key with
  | case3 _ _ _ _ _ r =>
    dsimp only [r, received]
    split
    · exact mappings_arm now key
    · exact (mappings_eq (tables_tell _ _ _)).trans (mappings_arm now key)
  | _ => rfl

private theorem mappings_sendOutputToLocalReceivers (now : Nat) (output : OutputId) :
    (s.sendOutputToLocalReceivers now output).1.mappings = s.mappings :=
  Machine.always (deliver now) (fun acc => acc.1.mappings = s.mappings)
    (fun acc key h => (mappings_deliver now acc key).trans h) rfl _

private theorem mappings_closeInputs (keys : List InputKey) :
    (forEach closeInput s keys).1.mappings = s.mappings :=
  forEach_keeps closeInput mappings
    (fun s key => mappings_eq (t := s.eraseInput key) (tables_closeInput s key)) s keys

private theorem mappings_removeNode (removed : NodeId) :
    (s.removeNode removed).1.mappings =
      (s.mappings.filter (·.1.1 ≠ removed)).filter (·.2.1 ≠ removed) := by
  simp only [removeNode, mappings_closeInputs, mappings_eq (tables_stopNode removed)]

private theorem mem_mappings_connect {source : OutputId} {target : InputKey}
    (h : m ∈ (s.connect source target).mappings) : m ∈ s.mappings ∨ m.2 = target := by
  unfold connect at h
  dsimp only at h
  split at h
  · exact .inl h
  · rcases mem_append.mp h with h | h
    · exact .inl h
    · exact .inr (by rw [mem_singleton.mp h])

private theorem mem_mappings_registerInput {input : NodeInput}
    (h : m ∈ (registerInput receiver s input).mappings) :
    m ∈ s.mappings ∨ m.2 = (receiver, input.id) := by
  unfold registerInput at h
  dsimp only at h
  split at h
  · exact mem_mappings_connect h
  · exact .inl h
  · exact .inl h

private theorem mem_mappings_registerInputs {inputs : List NodeInput}
    (h : m ∈ (inputs.foldl (registerInput receiver) s).mappings) :
    m ∈ s.mappings ∨ m.2 ∈ inputs.map fun input => (receiver, input.id) := by
  induction inputs generalizing s with
  | nil => exact .inl h
  | cons input inputs ih =>
    rcases ih h with h | h
    · rcases mem_mappings_registerInput h with h | h
      · exact .inl h
      · exact .inr (by simp [h])
    · exact .inr (mem_cons_of_mem _ h)

/-- Connections are to inputs of nodes. -/
def Connected (s : State) : Prop := ∀ m ∈ s.mappings, m.2 ∈ s.inputs

private theorem mem_inputs_of_receivers (h : s.Connected) {outputs : OutputId → Bool}
    (hkey : key ∈ s.receivers outputs) : key ∈ s.inputs := by
  obtain ⟨m, hm, rfl⟩ := mem_map.mp hkey
  exact h m (mem_of_mem_filter hm)

private theorem mem_inputs_of_closes (h : s.Connected) {e : Event} (hkey : key ∈ s.closes e) :
    key ∈ s.inputs := by
  cases e <;> simp only [closes, not_mem_nil] at hkey
  case closeOutputs | outputsDone =>
    split at hkey
    · cases hkey
    · exact mem_inputs_of_receivers h hkey
  case nodeStopped | removeNode | outputClosed => exact mem_inputs_of_receivers h hkey
  case removeMapping source target =>
    split at hkey
    · next hmem =>
      obtain rfl := mem_singleton.mp hkey
      exact h _ hmem
    · cases hkey

end State

private theorem mem_mappings_handle {s : State} {e : Event} (h : m ∈ (handle s e).1.mappings) :
    m ∈ s.mappings ∨ m.2 ∈ e.connects := by
  cases e with
  | addNode node descriptor policy inputs => exact mem_mappings_registerInputs h
  | addMapping source target =>
    exact (mem_mappings_connect h).imp_right mem_singleton.mpr
  | removeNode node =>
    dsimp only [handle] at h
    rw [mappings_removeNode] at h
    exact .inl (mem_of_mem_filter (mem_of_mem_filter h))
  | removeMapping source target =>
    dsimp only [handle] at h
    rw [mappings_closeInputs] at h
    exact .inl (mem_of_mem_filter h)
  | closeOutputs _ _ | outputsDone _ | outputClosed _ | nodeStopped _ =>
    exact .inl (mappings_closeInputs _ ▸ h)
  | subscribe node channel => exact .inl (mappings_eq (tables_subscribe _ _) ▸ h)
  | output output now => exact .inl (mappings_sendOutputToLocalReceivers now output ▸ h)
  | checkInputTimeouts now =>
    exact .inl (forEach_keeps timeOut mappings (fun _ => mappings_timeOut) s _ ▸ h)
  | stopNode node => exact .inl (mappings_eq (tables_stopNode _) ▸ h)
  | restartNode node => exact .inl (mappings_eq (tables_restartNode _) ▸ h)
  | spawned _ _ | stopDataflow | eventStreamDropped _ | channel _ _ => exact .inl h

/-! ## Runs -/

/-- A node that subscribes has an open input, or it has inputs and none of them is broken. -/
def SubscribesAlive (s : State) : Event → Prop
  | .subscribe node _ => s.openOf node ≠ ∅ ∨
      (∃ key ∈ s.inputs, key.1 = node) ∧ ∀ key ∈ s.brokenInputs, key.1 ≠ node
  | _ => True

/-- Every node that is told that its inputs are all closed, or is not restarted for it, has inputs
and none of them is open or broken. -/
def Justified (s : State) (e : Event) : Prop :=
  ∀ node, Ended (step s e).2 node →
    (∃ key ∈ s.inputs, key.1 = node) ∧ (step s e).1.AllClosed node

private theorem connected_step {s : State} (h : s.Connected) (e : Event) :
    (step s e).1.Connected := by
  intro m hm
  have hhandle := mem_mappings_handle (e := e) hm
  cases e with
  | removeNode node =>
    replace hm : m ∈ (s.removeNode node).1.mappings := hm
    rw [mappings_removeNode] at hm
    have hmem := h m (mem_of_mem_filter (mem_of_mem_filter hm))
    exact mem_filter.mpr ⟨hmem, (mem_filter.mp hm).2⟩
  | _ => exact mem_append.mpr (hhandle.imp_left (h m))

private theorem justified_step {s : State} {e : Event} (h : s.Connected)
    (halive : SubscribesAlive s e) :
    Justified s e := by
  -- inputs that the event closes are inputs of nodes
  have hcloses {t : State} {node : NodeId} (hend : Ended (forEach closeInput t (s.closes e)).2 node) :
      (∃ key ∈ s.inputs, key.1 = node) ∧
        (forEach closeInput t (s.closes e)).1.AllClosed node := by
    obtain ⟨⟨key, hkey, hnode⟩, hclosed⟩ := ended_of_closeInputs hend
    exact ⟨⟨key, mem_inputs_of_closes h hkey, hnode⟩, hclosed⟩
  intro node hend
  cases e with
  | subscribe receiver channel =>
    obtain ⟨rfl, hopen⟩ := ended_of_subscribe hend
    obtain ⟨hinput, hbroken⟩ := halive.resolve_left (not_not.mpr hopen)
    exact ⟨hinput, State.AllClosed.congr ⟨hopen, hbroken⟩ (tables_subscribe node channel)⟩
  | closeOutputs _ _ | outputsDone _ | outputClosed _ | nodeStopped _ | removeMapping _ _ =>
    exact hcloses hend
  | removeNode removed =>
    obtain ⟨hinput, hclosed⟩ := hcloses hend
    refine ⟨hinput, ?_, hclosed.2⟩
    by_cases hnode : node = removed
    · simp [step, handle, removeNode, openOf, hnode]
    · have hopen := hclosed.1
      simpa [step, handle, removeNode, openOf, closes, hnode] using hopen
  | output output now =>
    obtain ⟨key, -, acc, hend⟩ := exists_of_ended_run hend
    exact absurd hend not_ended_deliver
  | checkInputTimeouts now =>
    obtain ⟨entry, -, t, hend⟩ := exists_of_ended_run hend
    exact absurd hend (not_ended_breakInput (AList.mem_insert _ |>.mpr (.inl rfl)))
  | spawned _ _ | addNode _ _ _ _ | addMapping _ _ | stopNode _ | restartNode _ | stopDataflow
  | eventStreamDropped _ | channel _ _ => exact absurd hend (not_ended_nil node)

private theorem connected_start (descriptor : List Node) (nodes : List (NodeId × List NodeInput)) :
    (start descriptor nodes).Connected := by
  refine foldlRecOn (motive := State.Connected) nodes registerNode (fun m hm => nomatch hm) ?_
  intro s h node _ m hm
  exact mem_append.mpr ((mem_mappings_registerInputs hm).imp_left (h m))

/-- In every run in which nodes subscribe only with an input that is open, or with inputs of which
none is broken, nodes are told that their inputs are all closed, and are not restarted for it, only
if they are. -/
theorem allInputsClosed_justified (descriptor : List Node) (nodes : List (NodeId × List NodeInput))
    (events : List Event)
    (halive : Machine.Along step SubscribesAlive (start descriptor nodes) events) :
    Machine.Along step Justified (start descriptor nodes) events :=
  Machine.Along.imp step State.Connected
    (fun _ e h halive => ⟨justified_step h halive, connected_step h e⟩)
    (connected_start descriptor nodes) halive

/-- Output of a camera and input of its viewer. -/
def frames : DataId := ⟨"frames", by decide⟩

/-- A viewer of the frames of a camera. -/
def viewerInputs : List (NodeId × List NodeInput) :=
  [(⟨"viewer"⟩, [{ id := frames, mapping := .user ⟨⟨"webcam"⟩, frames⟩ }])]

/-- The only source of a viewer ends. -/
theorem viewer_justified :
    Machine.Along step Justified (start [] viewerInputs)
      [.subscribe ⟨"viewer"⟩ {}, .outputsDone ⟨"webcam"⟩] :=
  allInputsClosed_justified [] viewerInputs _ ⟨.inl (by decide), True.intro, True.intro⟩

/-- A camera that is always restarted is no longer once it has subscribed, and it has no inputs. -/
theorem source_not_justified :
    ¬ Machine.Along step Justified (start [] [(⟨"webcam"⟩, [])])
      [.spawned ⟨"webcam"⟩ .always, .subscribe ⟨"webcam"⟩ {}] := by
  intro h
  have hjustified := h.2.1 ⟨"webcam"⟩ ⟨.restartDisabled ⟨"webcam"⟩, by decide, rfl⟩
  obtain ⟨⟨key, hkey, -⟩, -⟩ := hjustified
  cases hkey

end DoraSpec.Daemon.Inputs
