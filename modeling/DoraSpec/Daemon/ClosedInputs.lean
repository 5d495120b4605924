import DoraSpec.Daemon.AllInputsClosed

/-!
# Inputs that are closed for good

An input whose source is gone is neither open nor broken any more. Its time limit stays in the table,
though, and when it is over the input counts as broken, which keeps its node from being told that
its inputs are all closed.
-/

namespace DoraSpec.Daemon.Inputs
open Base Message Function State List
open Daemon.DropTokens (EventChannel nodeEventChannelCapacity)

variable {node : NodeId} {keys : List InputKey}

namespace State

/-! ## Live inputs -/

/-- The input is in one of the tables. -/
def Live (s : State) (key : InputKey) : Prop :=
  key.2 ∈ s.openOf key.1 ∨ key ∈ s.brokenInputs ∨ key ∈ s.inputDeadlines

variable {s t : State} {key : InputKey} {entries : List (InputKey × Duration)}

private theorem Live.congr (h : s.Live key) (htables : t.tables = s.tables) : t.Live key := by
  unfold Live
  rw [openOf_eq htables, brokenInputs_eq htables, inputDeadlines_eq htables]
  exact h

private theorem live_of_eraseOpen {erased : InputKey} (h : (s.eraseOpen erased).Live key) :
    s.Live key := by
  refine h.imp_left fun hopen => ?_
  rw [openOf_eraseOpen] at hopen
  split at hopen
  · exact Finset.mem_of_mem_erase hopen
  · exact hopen

private theorem live_of_eraseInput {erased : InputKey} (h : (s.eraseInput erased).Live key) :
    s.Live key ∧ (key = erased → key ∈ s.inputDeadlines) := by
  obtain hopen | hbroken | hdeadline := h
  · replace hopen : key.2 ∈ (s.eraseOpen erased).openOf key.1 := hopen
    refine ⟨live_of_eraseOpen (.inl hopen), ?_⟩
    rintro rfl
    simp [openOf_eraseOpen] at hopen
  · obtain ⟨hne, hbroken⟩ := AList.mem_erase.mp hbroken
    exact ⟨.inr (.inl hbroken), fun h => absurd h hne⟩
  · exact ⟨.inr (.inr hdeadline), fun _ => hdeadline⟩

private theorem inputDeadlines_closeInput (closed : InputKey) :
    (s.closeInput closed).1.inputDeadlines = s.inputDeadlines :=
  inputDeadlines_eq (t := s.eraseInput closed) (tables_closeInput s closed)

private theorem live_of_closeInputs (h : (forEach closeInput s keys).1.Live key) :
    s.Live key ∧ (key ∈ keys → key ∈ s.inputDeadlines) := by
  induction keys generalizing s with
  | nil => exact ⟨h, nofun⟩
  | cons closed keys ih =>
    rw [forEach_cons] at h
    obtain ⟨hlive, hkeys⟩ := ih h
    obtain ⟨hlive, hclosed⟩ := live_of_eraseInput (hlive.congr (tables_closeInput s closed).symm)
    refine ⟨hlive, fun hmem => ?_⟩
    rcases mem_cons.mp hmem with heq | hmem
    · exact hclosed heq
    · exact inputDeadlines_closeInput closed ▸ hkeys hmem

private theorem live_of_timeOut {entry : InputKey × Duration} (h : (s.timeOut entry).1.Live key) :
    s.Live key ∨ key = entry.1 := by
  have hinsert (h : ({ s with brokenInputs := s.brokenInputs.insert entry.1 entry.2 }).Live key) :
      s.Live key ∨ key = entry.1 := by
    obtain hopen | hbroken | hdeadline := h
    · exact .inl (.inl hopen)
    · exact ((AList.mem_insert _).mp hbroken).symm.imp_left fun h => .inr (.inl h)
    · exact .inl (.inr (.inr hdeadline))
  rcases tables_breakInput (s := { s with brokenInputs := s.brokenInputs.insert entry.1 entry.2 })
    entry.1 with htables | htables
  · exact hinsert (h.congr htables.symm)
  · exact hinsert (live_of_eraseOpen (h.congr htables.symm))

private theorem live_of_timeOuts (h : (forEach timeOut s entries).1.Live key) :
    s.Live key ∨ key ∈ entries.map Prod.fst := by
  induction entries generalizing s with
  | nil => exact .inl h
  | cons entry entries ih =>
    rw [forEach_cons] at h
    rcases ih h with h | h
    · rcases live_of_timeOut h with h | rfl
      · exact .inl h
      · exact .inr mem_cons_self
    · exact .inr (mem_cons_of_mem _ h)

variable {now : Nat}

private theorem mem_inputDeadlines_of_timedOut (h : key ∈ (s.timedOut now).map Prod.fst) :
    key ∈ s.inputDeadlines := by
  simp only [timedOut, map_map, mem_map, comp_apply] at h
  obtain ⟨entry, hentry, rfl⟩ := h
  exact mem_map_of_mem (mem_of_mem_filter hentry)

private theorem mem_of_foldl_erase {table : AList fun _ : InputKey => InputDeadline}
    (h : key ∈ entries.foldl (fun table entry => table.erase entry.1) table) : key ∈ table := by
  induction entries generalizing table with
  | nil => exact h
  | cons entry entries ih => exact (AList.mem_erase.mp (ih h)).2

private theorem live_of_checkInputTimeouts (h : (s.checkInputTimeouts now).1.Live key) :
    s.Live key := by
  have h : (forEach timeOut s (s.timedOut now)).1.Live key :=
    h.imp_right (Or.imp_right mem_of_foldl_erase)
  exact (live_of_timeOuts h).elim id fun h => .inr (.inr (mem_inputDeadlines_of_timedOut h))

private theorem live_of_arm (now : Nat) (armed : InputKey) (h : (s.arm now armed).Live key) :
    s.Live key := by
  unfold arm at h
  split at h
  · exact h
  · exact h.imp_right (Or.imp_right AList.mem_replace.mp)

private theorem live_of_received {received : InputKey} (h : (s.received now received).1.Live key) :
    s.Live key := by
  unfold State.received at h
  dsimp only at h
  split at h
  · exact live_of_arm now received h
  · next timeout hlookup =>
    have hreceived : (s.arm now received).Live received :=
      .inr (.inl (AList.lookup_isSome.mp (Option.isSome_of_eq_some hlookup)))
    replace h := h.congr (tables_tell _ _ _).symm
    by_cases hkey : key = received
    · exact live_of_arm now received (hkey ▸ hreceived)
    · refine live_of_arm now received ?_
      obtain hopen | hbroken | hdeadline := h
      · left
        by_cases hnode : key.1 = received.1
        · simp only [openOf, hnode, update_self, Option.getD_some, Finset.mem_insert] at hopen
          rw [hnode]
          exact hopen.resolve_left fun hid => hkey (Prod.ext hnode hid)
        · simpa [openOf, hnode] using hopen
      · exact .inr (.inl (AList.mem_erase.mp hbroken).2)
      · exact .inr (.inr (((AList.mem_insert _).mp hdeadline).resolve_left hkey))

private theorem live_of_deliver {acc : State × List NodeId} {received : InputKey}
    (h : (deliver now acc received).1.1.Live key) : acc.1.Live key := by
  revert h
  fun_cases deliver now acc received with
  | case3 =>
    exact fun h => (live_of_received h).congr (tables_modifyChannel acc.1 received.1 _).symm
  | _ => exact id

private theorem live_of_sendOutputToLocalReceivers {output : OutputId}
    (h : (s.sendOutputToLocalReceivers now output).1.Live key) : s.Live key := by
  exact Machine.always (deliver now) (fun acc => acc.1.Live key → s.Live key)
    (fun acc received hacc h => hacc (live_of_deliver h)) id _ h

private theorem live_of_open {opened : InputKey} (h : (s.open_ opened).Live key) :
    s.Live key ∨ key = opened := by
  by_cases hkey : key = opened
  · exact .inr hkey
  · left
    refine h.imp_left fun hopen => ?_
    by_cases hnode : key.1 = opened.1
    · simp only [open_, openOf, hnode, update_self, Option.getD_some,
        Finset.mem_insert] at hopen
      rw [hnode]
      exact hopen.resolve_left fun hid => hkey (Prod.ext hnode hid)
    · simpa [open_, openOf, hnode] using hopen

private theorem live_of_registerInput {input : NodeInput}
    (h : (registerInput node s input).Live key) :
    s.Live key ∨ key = (node, input.id) := by
  unfold registerInput at h
  dsimp only at h
  split at h
  · obtain hopen | hbroken | hdeadline := h
    · exact live_of_open (.inl hopen)
    · exact .inl (.inr (.inl hbroken))
    · dsimp only at hdeadline
      split at hdeadline
      · exact ((AList.mem_insert _).mp hdeadline).symm.imp_left fun h => .inr (.inr h)
      · exact .inl (.inr (.inr hdeadline))
  · exact live_of_open h
  · exact live_of_open h

private theorem live_of_registerInputs {inputs : List NodeInput}
    (h : (inputs.foldl (registerInput node) s).Live key) :
    s.Live key ∨ key ∈ inputs.map fun input => (node, input.id) := by
  induction inputs generalizing s with
  | nil => exact .inl h
  | cons input inputs ih =>
    rcases ih h with h | h
    · rcases live_of_registerInput h with h | rfl
      · exact .inl h
      · exact .inr mem_cons_self
    · exact .inr (mem_cons_of_mem _ h)

private theorem mem_brokenInputs_of_closeInputs
    (h : key ∈ (forEach closeInput s keys).1.brokenInputs) :
    key ∈ s.brokenInputs := by
  induction keys generalizing s with
  | nil => exact h
  | cons closed keys ih =>
    rw [forEach_cons] at h
    have h := ih h
    rw [brokenInputs_eq (t := s.eraseInput closed) (tables_closeInput s closed)] at h
    exact (AList.mem_erase.mp h).2

/-- Closing inputs keeps the deadlines. -/
theorem inputDeadlines_closeInputs (keys : List InputKey) :
    (forEach closeInput s keys).1.inputDeadlines = s.inputDeadlines :=
  forEach_keeps closeInput inputDeadlines (fun _ => inputDeadlines_closeInput) s keys

private theorem live_of_removeNode (h : (s.removeNode node).1.Live key) :
    s.Live key ∧ (key ∈ s.receivers (·.1 = node) → key ∈ s.inputDeadlines) ∧
      (key.1 = node → key ∈ s.brokenInputs ∨ key ∈ s.inputDeadlines) := by
  let stopped : State :=
    { s.stopNode node with mappings := (s.stopNode node).mappings.filter (·.1.1 ≠ node) }
  have htables : (s.stopNode node).tables = s.tables := tables_stopNode node
  have hdeadlines : stopped.inputDeadlines = s.inputDeadlines :=
    inputDeadlines_eq (s := s.stopNode node) htables
  have hclose : (forEach closeInput stopped (s.receivers (·.1 = node))).1.Live key := by
    refine h.imp_left fun hopen => ?_
    by_cases hnode : key.1 = node
    · simp [removeNode, openOf, hnode] at hopen
    · replace hopen : key.2 ∈ (update
          (forEach closeInput stopped (s.receivers (·.1 = node))).1.openInputs node none key.1).getD ∅ :=
        hopen
      rwa [update_of_ne hnode] at hopen
  obtain ⟨hlive, hreceivers⟩ := live_of_closeInputs hclose
  refine ⟨Live.congr (s := s.stopNode node) hlive htables.symm,
    fun hkey => hdeadlines ▸ hreceivers hkey, fun hnode => ?_⟩
  obtain hopen | hbroken | hdeadline := h
  · simp [removeNode, openOf, hnode] at hopen
  · left
    rw [← brokenInputs_eq htables]
    exact mem_brokenInputs_of_closeInputs (s := stopped) hbroken
  · right
    rw [← hdeadlines, ← inputDeadlines_closeInputs (s.receivers (·.1 = node))]
    exact hdeadline

end State

/-! ## One event -/

variable {e : Event} {key : InputKey} {s : State}

private theorem live_of_handle (h : (handle s e).1.Live key) :
    key ∈ e.connects ∨ s.Live key ∧ (key ∈ s.closes e → key ∈ s.inputDeadlines) := by
  cases e with
  | addNode node descriptor policy inputs =>
    exact (live_of_registerInputs h).symm.imp_right fun h => ⟨h, nofun⟩
  | addMapping source target =>
    exact (live_of_open h).symm.imp mem_singleton.mpr fun h => ⟨h, nofun⟩
  | removeNode node =>
    obtain ⟨hlive, hreceivers, -⟩ := live_of_removeNode h
    exact .inr ⟨hlive, hreceivers⟩
  | removeMapping source target =>
    exact .inr (live_of_closeInputs
      (s := { s with mappings := s.mappings.filter (· ≠ (source, target)) }) h)
  | closeOutputs _ _ | outputsDone _ | outputClosed _ | nodeStopped _ =>
    exact .inr (live_of_closeInputs h)
  | subscribe node channel =>
    exact .inr ⟨h.congr (tables_subscribe _ _).symm, nofun⟩
  | output output now => exact .inr ⟨live_of_sendOutputToLocalReceivers h, nofun⟩
  | checkInputTimeouts now => exact .inr ⟨live_of_checkInputTimeouts h, nofun⟩
  | stopNode node => exact .inr ⟨h.congr (tables_stopNode _).symm, nofun⟩
  | restartNode node => exact .inr ⟨h.congr (tables_restartNode _).symm, nofun⟩
  | spawned _ _ | stopDataflow | eventStreamDropped _ | channel _ _ => exact .inr ⟨h, nofun⟩

/-- When a source ends or is disconnected, its inputs have no deadline and the channels of their nodes
have room for the news. When a node is removed, its own inputs have no deadline and are not broken. -/
def ClosesCleanly (s : State) (e : Event) : Prop :=
  (∀ key ∈ s.closes e, key ∉ s.inputDeadlines ∧
      ∀ channel ∈ s.subscribeChannels key.1,
        channel.closed = false ∧ (s.closes e).length < channel.capacity) ∧
    match e with
    | .removeNode node =>
      (∀ key ∈ s.inputDeadlines, key.1 ≠ node) ∧ ∀ key ∈ s.brokenInputs, key.1 ≠ node
    | _ => True

/-- Live inputs are inputs of nodes, and their sources are not gone. -/
def Tracked (s : State) : Prop := ∀ key, s.Live key → key ∈ s.inputs ∧ key ∉ s.closed

private theorem tracked_step (h : Tracked s) (hclean : ClosesCleanly s e) :
    Tracked (step s e).1 := by
  intro key hlive
  have hclosed {l : List InputKey} (hl : key ∉ l) : key ∉ l.filter (· ∉ e.connects) :=
    fun hmem => hl (mem_of_mem_filter hmem)
  rcases live_of_handle (e := e) hlive with hconnects | ⟨hbefore, hcloses⟩
  · refine ⟨?_, fun hmem => by simp [step, hconnects] at hmem⟩
    cases e with
    | removeNode node => cases hconnects
    | _ => exact mem_append_right _ hconnects
  · obtain ⟨hinput, hopen⟩ := h key hbefore
    have hnot : key ∉ s.closes e := fun hmem => (hclean.1 key hmem).1 (hcloses hmem)
    refine ⟨?_, hclosed (by simp [hopen, hnot])⟩
    cases e with
    | removeNode node =>
      refine mem_filter.mpr ⟨hinput, decide_eq_true fun hnode => ?_⟩
      rcases (live_of_removeNode hlive).2.2 hnode with hbroken | hdeadline
      · exact hclean.2.2 key hbroken hnode
      · exact hclean.2.1 key hdeadline hnode
    | _ => exact mem_append_left _ hinput

private theorem closed_registerInputs (node : NodeId) (inputs : List NodeInput) (s : State) :
    (inputs.foldl (registerInput node) s).closed = s.closed := by
  refine foldlRecOn (motive := fun t : State => t.closed = s.closed) inputs _ rfl
    fun t h input _ => ?_
  rw [← h]
  unfold registerInput
  dsimp only
  split <;> rfl

private theorem tracked_start (descriptor : List Node) (nodes : List (NodeId × List NodeInput)) :
    Tracked (start descriptor nodes) := by
  have hstart : (∀ key, (start descriptor nodes).Live key → key ∈ (start descriptor nodes).inputs) ∧
      (start descriptor nodes).closed = [] := by
    refine foldlRecOn (b := { descriptor })
      (motive := fun s : State => (∀ key, s.Live key → key ∈ s.inputs) ∧ s.closed = [])
      nodes registerNode ⟨fun key h => ?_, rfl⟩ fun s h node _ => ⟨fun key hlive => ?_, ?_⟩
    · simp [State.Live, openOf] at h
    · exact mem_append.mpr ((live_of_registerInputs hlive).imp_left (h.1 key))
    · exact (closed_registerInputs node.1 node.2 s).trans h.2
  exact fun key hlive => ⟨hstart.1 key hlive, by simp [hstart.2]⟩

/-! ## Last inputs -/

/-- The channel is open and has more than so many free places. -/
def Room (s : State) (node : NodeId) (n : Nat) : Prop :=
  ∃ channel, s.subscribeChannels node = some channel ∧ channel.closed = false ∧ n < channel.capacity

private theorem Room.mono {m n : Nat} (h : Room s node n) (hle : m ≤ n) :
    Room s node m := by
  obtain ⟨channel, hchannel, hopen, hroom⟩ := h
  exact ⟨channel, hchannel, hopen, hle.trans_lt hroom⟩

private theorem offer_spec (channel : EventChannel) (effect : Effect) :
    (offer channel effect).1.closed = channel.closed ∧
      channel.capacity ≤ (offer channel effect).1.capacity + 1 := by
  unfold offer
  split
  · next channel' h =>
    simp only [EventChannel.trySend] at h
    split at h
    · cases h
    · split at h
      · cases h
      · cases h
        refine ⟨rfl, ?_⟩
        simp only [EventChannel.capacity]
        omega
  · exact ⟨rfl, Nat.le_succ _⟩

namespace State

variable {s : State} {node : NodeId} {n : Nat}

private theorem mem_tell (h : Room s node 0) (effect : Effect) :
    effect ∈ (s.tell node effect).2 := by
  obtain ⟨channel, hchannel, hopen, hroom⟩ := h
  simp [tell, hchannel, offer, EventChannel.trySend, hopen, Nat.ne_of_gt hroom]

private theorem room_tell_of_ne (h : Room s node n) {receiver : NodeId} (hne : node ≠ receiver)
    (effect : Effect) : Room (s.tell receiver effect).1 node n := by
  unfold tell
  split
  · exact h
  · obtain ⟨channel, hchannel, hroom⟩ := h
    exact ⟨channel, by simp [hne, hchannel], hroom⟩

private theorem room_tell (h : Room s node (n + 1)) (receiver : NodeId) (effect : Effect) :
    Room (s.tell receiver effect).1 node n := by
  by_cases hnode : node = receiver
  · subst hnode
    obtain ⟨channel, hchannel, hopen, hroom⟩ := h
    obtain ⟨hclosed, hcapacity⟩ := offer_spec channel effect
    refine ⟨(offer channel effect).1, by simp [tell, hchannel], hclosed.trans hopen, ?_⟩
    omega
  · exact room_tell_of_ne (h.mono (Nat.le_succ n)) hnode effect

private theorem room_stopNode_of_ne (h : Room s node n) {stopped : NodeId} (hne : node ≠ stopped) :
    Room (s.stopNode stopped) node n := by
  unfold stopNode
  split
  · obtain ⟨channel, hchannel, hroom⟩ := h
    exact ⟨channel, by simp [modifyChannel, setDisableRestart, hne, hchannel], hroom⟩
  · exact h

private theorem room_reportAllClosed (h : Room s node n) (hlive : ¬ s.AllClosed node)
    (receiver : NodeId) :
    Room (s.reportAllClosed receiver).1 node n := by
  unfold reportAllClosed
  split
  · next hclosed =>
    refine room_tell_of_ne (s := (s.disableRestart receiver).1) h ?_ _
    rintro rfl
    exact hlive ⟨hclosed.1, (hasBroken_eq_false s node).mp hclosed.2⟩
  · exact h

private theorem mem_reportAllClosed (h : Room s node 0) (hclosed : s.AllClosed node) :
    .allInputsClosed node ∈ (s.reportAllClosed node).2 := by
  have hif : s.openOf node = ∅ ∧ s.hasBroken node = false :=
    ⟨hclosed.1, (hasBroken_eq_false s node).mpr hclosed.2⟩
  rw [reportAllClosed, if_pos hif]
  exact mem_append_right _ (mem_tell (s := (s.disableRestart node).1) h _)

private theorem allClosed_of_eraseInput (h : (s.eraseInput key).AllClosed node)
    (hkey : key.1 = node → key.2 ∉ s.openOf key.1 ∧ key ∉ s.brokenInputs) : s.AllClosed node := by
  have hopen : (s.eraseOpen key).openOf node = ∅ := h.1
  rw [openOf_eraseOpen] at hopen
  refine ⟨?_, fun other hother hnode => ?_⟩
  · split at hopen
    · next hnode =>
      rwa [hnode, Finset.erase_eq_of_notMem (hkey hnode.symm).1, ← hnode] at hopen
    · exact hopen
  · refine h.2 other (AList.mem_erase.mpr ⟨?_, hother⟩) hnode
    rintro rfl
    exact (hkey hnode).2 hother

private theorem mem_closeInput (hroom : Room s node 1) (hbefore : ¬ s.AllClosed node)
    (hafter : (s.closeInput key).1.AllClosed node) :
    .allInputsClosed node ∈ (s.closeInput key).2 := by
  have herased : (s.eraseInput key).AllClosed node := hafter.congr (tables_closeInput s key).symm
  have hkey : ¬ (key.1 = node → key.2 ∉ s.openOf key.1 ∧ key ∉ s.brokenInputs) :=
    fun h => hbefore (allClosed_of_eraseInput herased h)
  obtain ⟨rfl, hlive⟩ := Classical.not_imp.mp hkey
  have hroom' : Room (s.eraseInput key) key.1 1 := hroom
  have hsome : ((s.eraseInput key).subscribeChannels key.1).isSome := by
    obtain ⟨channel, hchannel, -⟩ := hroom'
    simp [hchannel]
  unfold closeInput
  dsimp only
  rw [if_neg hlive, if_pos hsome]
  refine mem_append_right _ (mem_reportAllClosed ?_ ?_)
  · split
    · exact room_tell hroom' _ _
    · exact hroom'.mono (Nat.zero_le 1)
  · refine herased.congr ?_
    split <;> simp

private theorem room_closeInput (hroom : Room s node (n + 1))
    (hafter : ¬ (s.closeInput key).1.AllClosed node) : Room (s.closeInput key).1 node n := by
  have hlive : ¬ (s.eraseInput key).AllClosed node :=
    fun h => hafter (h.congr (tables_closeInput s key))
  have hroom' : Room (s.eraseInput key) node (n + 1) := hroom
  fun_cases closeInput s key with
  | case2 =>
    refine room_reportAllClosed ?_ (fun h => hlive (h.congr ?_)) key.1
    · split
      · exact room_tell hroom' _ _
      · exact hroom'.mono (Nat.le_succ n)
    · split <;> simp +zetaDelta
  | _ => exact hroom'.mono (Nat.le_succ n)

private theorem mem_closeInputs (hroom : Room s node keys.length) (hbefore : ¬ s.AllClosed node)
    (hafter : (forEach closeInput s keys).1.AllClosed node) :
    .allInputsClosed node ∈ (forEach closeInput s keys).2 := by
  induction keys generalizing s with
  | nil => exact absurd hafter hbefore
  | cons key keys ih =>
    rw [forEach_cons] at hafter ⊢
    by_cases hclosed : (s.closeInput key).1.AllClosed node
    · refine mem_append_left _ (mem_closeInput (hroom.mono ?_) hbefore hclosed)
      simp
    · exact mem_append_right _ (ih (room_closeInput hroom hclosed) hclosed hafter)

end State

/-! ## Runs -/

/-- An input of a node that is open or broken. -/
def Alive (s : State) (key : InputKey) : Prop :=
  key ∈ s.inputs ∧ (key.2 ∈ s.openOf key.1 ∨ key ∈ s.brokenInputs)

/-- After the event no input whose source is gone is open or broken, unless it was connected again. -/
def StaysClosed (s : State) (e : Event) : Prop :=
  ∀ key ∈ (step s e).1.closed,
    key.2 ∉ (step s e).1.openOf key.1 ∧ key ∉ (step s e).1.brokenInputs

/-- A node that is and stays subscribed, and whose last input is closed by the event, is told so. -/
def LastTold (s : State) (e : Event) : Prop :=
  ∀ node, (s.subscribeChannels node).isSome → ((step s e).1.subscribeChannels node).isSome →
    (∃ key ∈ s.closes e, key.1 = node ∧ Alive s key) →
    (∀ key, key.1 = node → ¬ Alive (step s e).1 key) →
      .allInputsClosed node ∈ (step s e).2

private theorem staysClosed_of_tracked (h : Tracked (step s e).1) :
    StaysClosed s e := by
  intro key hkey
  exact ⟨fun hopen => (h key (.inl hopen)).2 hkey, fun hbroken => (h key (.inr (.inl hbroken))).2 hkey⟩

private theorem allClosed_of_not_alive (h : Tracked s)
    (hdead : ∀ key, key.1 = node → ¬ Alive s key) :
    s.AllClosed node := by
  refine ⟨Finset.eq_empty_of_forall_notMem fun id hid => ?_, fun key hbroken hnode => ?_⟩
  · exact hdead (node, id) rfl ⟨(h (node, id) (.inl hid)).1, .inl hid⟩
  · exact hdead key hnode ⟨(h key (.inr (.inl hbroken))).1, .inr hbroken⟩

private theorem not_allClosed_of_alive (h : Alive s key) :
    ¬ s.AllClosed key.1 := by
  rintro ⟨hopen, hbroken⟩
  rcases h.2 with h | h
  · simp [hopen] at h
  · exact hbroken key h rfl

private theorem room_of_closesCleanly (h : ClosesCleanly s e) (hkey : key ∈ s.closes e)
    (hsubscribed : (s.subscribeChannels key.1).isSome) :
    Room s key.1 (s.closes e).length := by
  obtain ⟨channel, hchannel⟩ := Option.isSome_iff_exists.mp hsubscribed
  exact ⟨channel, hchannel, (h.1 key hkey).2 channel hchannel⟩

private theorem lastTold_step (htracked : Tracked (step s e).1) (hclean : ClosesCleanly s e) :
    LastTold s e := by
  rintro node hbefore hafter ⟨key, hkey, rfl, halive⟩ hdead
  have hroom := room_of_closesCleanly hclean hkey hbefore
  have hlive := not_allClosed_of_alive halive
  have hclosed := allClosed_of_not_alive htracked hdead
  cases e with
  | closeOutputs _ _ | outputsDone _ | outputClosed _ | nodeStopped _ =>
    exact mem_closeInputs hroom hlive hclosed
  | removeMapping source target =>
    exact mem_closeInputs (s := { s with mappings := s.mappings.filter (· ≠ (source, target)) })
      hroom hlive hclosed
  | removeNode removed =>
    have hne : key.1 ≠ removed := by
      intro heq
      simp [step, handle, removeNode, heq] at hafter
    let stopped : State := { s.stopNode removed with
      mappings := (s.stopNode removed).mappings.filter (·.1.1 ≠ removed) }
    have hroom : Room stopped key.1 (s.receivers (·.1 = removed)).length :=
      room_stopNode_of_ne hroom hne
    have hlive : ¬ stopped.AllClosed key.1 := fun h => hlive (State.AllClosed.congr
      (s := s.stopNode removed) h (tables_stopNode removed).symm)
    refine mem_closeInputs hroom hlive ⟨?_, hclosed.2⟩
    have hopen : (update (forEach closeInput stopped
      (s.receivers (·.1 = removed))).1.openInputs removed none key.1).getD ∅ = ∅ := hclosed.1
    rwa [update_of_ne hne] at hopen
  | _ => cases hkey

/-- In every run in which sources end cleanly, inputs whose source is gone stay closed, and nodes whose
last input is closed are told so. -/
theorem closedInputs_final (descriptor : List Node) (nodes : List (NodeId × List NodeInput))
    (events : List Event)
    (hclean : Machine.Along step ClosesCleanly (start descriptor nodes) events) :
    Machine.Along step (fun s e => StaysClosed s e ∧ LastTold s e) (start descriptor nodes) events := by
  refine Machine.Along.imp step Tracked (fun s e htracked hclean => ?_) (tracked_start descriptor nodes)
    hclean
  have hnext := tracked_step htracked hclean
  exact ⟨⟨staysClosed_of_tracked hnext, lastTold_step hnext hclean⟩, hnext⟩

/-- The only source of a viewer ends. -/
theorem viewer_final :
    Machine.Along step (fun s e => StaysClosed s e ∧ LastTold s e) (start [] viewerInputs)
      [.subscribe ⟨"viewer"⟩ {}, .outputsDone ⟨"webcam"⟩] := by
  refine closedInputs_final [] viewerInputs _ ⟨⟨nofun, True.intro⟩, ⟨?_, True.intro⟩, True.intro⟩
  intro key hkey
  obtain rfl : key = (⟨"viewer"⟩, frames) := mem_singleton.mp hkey
  refine ⟨by decide, ?_⟩
  rintro channel ⟨⟩
  decide

/-- Input of a viewer that expects a frame every second. -/
def steadyFrames : NodeInput where
  id := frames
  mapping := .user ⟨⟨"webcam"⟩, frames⟩
  inputTimeout := some (Duration.fromSecs 1)

/-- The camera sends one frame and ends, and two seconds later the time limits are checked. -/
def lateCheck : List Event :=
  [.subscribe ⟨"viewer"⟩ {}, .output (⟨"webcam"⟩, frames) 0, .outputsDone ⟨"webcam"⟩,
    .checkInputTimeouts 2000000000]

/-- The input of a camera that is gone breaks. -/
theorem lateCheck_not_final :
    ¬ Machine.Along step (fun s e => StaysClosed s e ∧ LastTold s e)
      (start [] [(⟨"viewer"⟩, [steadyFrames])]) lateCheck := by
  intro h
  have hclosed := h.2.2.2.1.1 (⟨"viewer"⟩, frames) (by decide)
  exact hclosed.2 (by decide)

end DoraSpec.Daemon.Inputs
