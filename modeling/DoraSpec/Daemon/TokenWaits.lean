import DoraSpec.Daemon.DropNotices

/-!
# Whom pending drop tokens wait for

Source `binaries/daemon/src/lib.rs:1738-1781, 2811-2849, 3208-3289, 4018-4184` and
`running_dataflow.rs:531-565`. A token of a shared-memory region waits for the nodes that got the
message. Here the daemon's tables are looked at together with the nodes that have left: they have
exited for good, were removed, or their event channel is closed. Nothing takes such a node off the
tokens.
-/

namespace DoraSpec.Daemon.DropTokens
open Message Function State Finset
open Node (DataMessage)

/-! ## Tables -/

variable {s : State} {token : DropToken} {owner node : NodeId} {data : Option DataMessage}
  {e : Event}

/-- Nodes that have not given back the token. -/
def State.waiting (s : State) (token : DropToken) : Finset NodeId :=
  ((s.pendingDropTokens token).map DropTokenInformation.pendingNodes).getD ∅

/-- The channel of the node takes inputs; `lib.rs:4038-4054`. -/
def State.Accepts (s : State) (node : NodeId) : Prop :=
  ∃ channel ∈ s.subscribeChannels node,
    channel.closed = false ∧ controlEventHeadroom ≤ channel.capacity

/-- Every pending token waits for somebody. -/
def State.Awaited (s : State) : Prop :=
  ∀ token info, s.pendingDropTokens token = some info → info.pendingNodes.Nonempty

/-- Nodes that a message makes the token wait for. -/
def State.Adds (s : State) : Event → DropToken → NodeId → Prop
  | .sendOut output data _ _, token, node =>
    data.bind dropToken = some token ∧ s.owners token = none ∧
      node ∈ (s.mappings output).map Prod.fst ∧ s.Accepts node
  | _, _, _ => False

/-- No token waits for other nodes than before, and owners that listen are told of the tokens that
are gone. -/
structure Returns (s t : State) : Prop where
  dropChannels : t.dropChannels = s.dropChannels
  told : ∀ notice ∈ s.told, notice ∈ t.told
  pending : ∀ token info, t.pendingDropTokens token = some info →
    ∃ info', s.pendingDropTokens token = some info' ∧ info.owner = info'.owner ∧
      info.pendingNodes ⊆ info'.pendingNodes
  awaited : s.Awaited → t.Awaited
  notified : ∀ token info, s.pendingDropTokens token = some info →
    t.pendingDropTokens token = none → s.Listens info.owner → (info.owner, token) ∈ t.told

namespace Returns

private theorem of_eq {t : State} (hd : t.dropChannels = s.dropChannels) (hn : t.told = s.told)
    (hp : t.pendingDropTokens = s.pendingDropTokens) : Returns s t where
  dropChannels := hd
  told notice h := by rwa [hn]
  pending token info h := ⟨info, by rwa [hp] at h, rfl, subset_rfl⟩
  awaited h := by rwa [State.Awaited, hp]
  notified token info h hgone := by simp [hp, h] at hgone

private theorem trans {t u : State} (h : Returns s t) (h' : Returns t u) : Returns s u where
  dropChannels := h'.dropChannels.trans h.dropChannels
  told notice hn := h'.told notice (h.told notice hn)
  pending token info hp := by
    obtain ⟨info', hp', howner', hsub'⟩ := h'.pending token info hp
    obtain ⟨info'', hp'', howner'', hsub''⟩ := h.pending token info' hp'
    exact ⟨info'', hp'', howner'.trans howner'', hsub'.trans hsub''⟩
  awaited ha := h'.awaited (h.awaited ha)
  notified token info hp hgone hl := by
    cases ht : t.pendingDropTokens token with
    | none => exact h'.told _ (h.notified token info hp ht hl)
    | some info' =>
      obtain ⟨info'', hp'', howner, -⟩ := h.pending token info' ht
      obtain rfl : info = info'' := Option.some.inj (hp.symm.trans hp'')
      rw [← howner]
      refine h'.notified token info' ht hgone ?_
      rwa [State.Listens, h.dropChannels, howner]

private theorem mem_waiting {t : State} (h : Returns s t) (hnode : node ∈ t.waiting token) :
    node ∈ s.waiting token := by
  unfold waiting at hnode ⊢
  cases ht : t.pendingDropTokens token with
  | none => simp [ht] at hnode
  | some info =>
    obtain ⟨info', hs, -, hsub⟩ := h.pending token info ht
    simp only [ht, hs, Option.map_some, Option.getD_some] at hnode ⊢
    exact hsub hnode

end Returns

/-! ## Checking a token -/

private theorem pendingDropTokens_checkDropToken (s : State) (token t : DropToken) :
    (s.checkDropToken token).pendingDropTokens t =
      if t = token ∧ s.waiting token = ∅ then none else s.pendingDropTokens t := by
  cases hp : s.pendingDropTokens token with
  | none =>
    have hnone : t = token → s.pendingDropTokens t = none := fun h => by rw [h, hp]
    simp only [checkDropToken, hp]
    split
    · next h => exact hnone h.1
    · rfl
  | some info =>
    by_cases hempty : info.pendingNodes = ∅
    · have hwaiting : s.waiting token = ∅ := by simp [waiting, hp, hempty]
      have hcheck : (s.checkDropToken token).pendingDropTokens =
          update s.pendingDropTokens token none := by
        simp only [checkDropToken, hp, hempty, if_true]
        split
        · rfl
        · split <;> rfl
      rw [hcheck, update_apply]
      simp [hwaiting]
    · have hwaiting : s.waiting token ≠ ∅ := by simpa [waiting, hp] using hempty
      rw [@checkDropToken_of_nonempty s token info.owner _ hp hempty]
      simp [hwaiting]

private theorem waiting_checkDropToken (s : State) (token t : DropToken) :
    (s.checkDropToken token).waiting t = s.waiting t := by
  rw [waiting, pendingDropTokens_checkDropToken]
  split
  · next h =>
    obtain ⟨rfl, hempty⟩ := h
    rw [hempty]
    rfl
  · rfl

private theorem awaited_checkDropToken
    (h : ∀ t info, t ≠ token → s.pendingDropTokens t = some info → info.pendingNodes.Nonempty) :
    (s.checkDropToken token).Awaited := by
  intro t info hinfo
  rw [pendingDropTokens_checkDropToken] at hinfo
  split at hinfo
  · cases hinfo
  · next hnot =>
    by_cases ht : t = token
    · subst ht
      have hne : s.waiting t ≠ ∅ := fun hempty => hnot ⟨rfl, hempty⟩
      simpa [waiting, hinfo, nonempty_iff_ne_empty] using hne
    · exact h t info ht hinfo

private theorem told_checkDropToken {notice : NodeId × DropToken} (h : notice ∈ s.told) :
    notice ∈ (s.checkDropToken token).told := by
  fun_cases checkDropToken s token with
  | case4 => exact List.mem_append_left _ h
  | _ => exact h

/-! ## Giving back -/

private theorem returns_checkDropToken {u : State} {nodes nodes' : Finset NodeId}
    (hdrop : u.dropChannels = s.dropChannels) (htold : u.told = s.told)
    (hp : s.pendingDropTokens token = some ⟨owner, nodes⟩) (hsub : nodes' ⊆ nodes)
    (hu : u.pendingDropTokens =
      update s.pendingDropTokens token (some ⟨owner, nodes'⟩)) :
    Returns s (u.checkDropToken token) := by
  have hself : u.pendingDropTokens token = some ⟨owner, nodes'⟩ := by rw [hu, update_self]
  have hother : ∀ t ≠ token, u.pendingDropTokens t = s.pendingDropTokens t := fun t ht => by
    rw [hu, update_of_ne ht]
  refine ⟨(checkDropToken_frame _ token).2.trans hdrop, fun notice h => ?_, fun t info h => ?_,
    fun ha => awaited_checkDropToken fun t info ht h => ha t info (hother t ht ▸ h),
    fun t info h hgone hl => ?_⟩
  · exact told_checkDropToken (htold ▸ h)
  · rw [pendingDropTokens_checkDropToken] at h
    split at h
    · cases h
    · by_cases ht : t = token
      · subst ht
        cases hself.symm.trans h
        exact ⟨_, hp, rfl, hsub⟩
      · exact ⟨info, hother t ht ▸ h, rfl, subset_rfl⟩
  · rw [pendingDropTokens_checkDropToken] at hgone
    split at hgone
    · next hempty =>
      obtain ⟨rfl, hempty⟩ := hempty
      cases hp.symm.trans h
      obtain rfl : nodes' = ∅ := by simpa [waiting, hself] using hempty
      rw [checkDropToken_of_empty hself (by rwa [State.Listens, hdrop])]
      exact List.mem_append_right _ List.mem_cons_self
    · by_cases ht : t = token
      · subst ht
        cases hself.symm.trans hgone
      · cases h.symm.trans ((hother t ht).symm.trans hgone)

private theorem returns_reportToken : Returns s (s.reportToken node token) := by
  fun_cases reportToken node s token with
  | case2 _ info hp => exact returns_checkDropToken rfl rfl hp (erase_subset node _) rfl
  | _ => exact .of_eq rfl rfl rfl

private theorem returns_reportDrop (tokens : List DropToken) :
    Returns s (tokens.foldl (reportToken node) s) := by
  induction tokens generalizing s with
  | nil => exact .of_eq rfl rfl rfl
  | cons token tokens ih => exact returns_reportToken.trans ih

/-! ## Sending -/

private theorem deliver_of_accepts {acc : State × List NodeId} {key : InputKey}
    (h : acc.1.Accepts key.1) :
    ∃ channel, (deliver owner data acc key).1 = acc.1.delivered owner data key channel := by
  obtain ⟨channel, hc, hopen, hcapacity⟩ := h
  simp only [Option.mem_def] at hc
  have hpos : channel.capacity ≠ 0 := by
    have : 0 < controlEventHeadroom := by decide
    omega
  refine ⟨{ channel with queued := channel.queued + 1 }, ?_⟩
  simp [deliver, hc, Nat.not_lt.mpr hcapacity, EventChannel.trySend, hopen, hpos]

private theorem deliver_of_not_accepts {acc : State × List NodeId} {key : InputKey}
    (h : ¬ acc.1.Accepts key.1) : (deliver owner data acc key).1 = acc.1 := by
  fun_cases deliver owner data acc key with
  | case3 channel hc hcapacity _ hsend =>
    refine absurd ⟨channel, hc, ?_, Nat.not_lt.mp hcapacity⟩ h
    cases hclosed : channel.closed with
    | false => rfl
    | true => simp [EventChannel.trySend, hclosed] at hsend
  | _ => rfl

private theorem waiting_delivered (s : State) (key : InputKey) (channel : EventChannel)
    (t : DropToken) :
    (s.delivered owner data key channel).waiting t =
      if data.bind dropToken = some t then insert key.1 (s.waiting t) else s.waiting t := by
  unfold delivered
  dsimp only
  cases hd : data.bind dropToken with
  | none => rfl
  | some token =>
    by_cases ht : t = token
    · subst ht
      cases hp : s.pendingDropTokens t <;>
        simp [awaitDrop, waiting, hp]
    · simp [awaitDrop, waiting, ht, Ne.symm ht]

private theorem awaited_delivered {key : InputKey} {channel : EventChannel} (h : s.Awaited) :
    (s.delivered owner data key channel).Awaited := by
  unfold delivered
  dsimp only
  split
  · next token _ =>
    intro t info hinfo
    by_cases ht : t = token
    · subst ht
      simp only [awaitDrop, update_self, Option.some.injEq] at hinfo
      subst hinfo
      exact insert_nonempty ..
    · simp only [awaitDrop, update_of_ne ht] at hinfo
      exact h t info hinfo
  · exact h

private theorem subscribeChannels_delivered_ne {key : InputKey} {channel : EventChannel}
    (h : node ≠ key.1) :
    (s.delivered owner data key channel).subscribeChannels node = s.subscribeChannels node := by
  unfold delivered
  dsimp only
  split <;> simp [awaitDrop, h]

/-- The nodes that a whole message makes its token wait for. The first copy for a node finds its
channel as it was before the message. -/
theorem mem_waiting_foldl_deliver (keys : List InputKey) (acc : State × List NodeId)
    (t : DropToken) :
    node ∈ (keys.foldl (deliver owner data) acc).1.waiting t ↔
      node ∈ acc.1.waiting t ∨
        data.bind dropToken = some t ∧ node ∈ keys.map Prod.fst ∧ acc.1.Accepts node := by
  induction keys generalizing acc with
  | nil => simp
  | cons key keys ih =>
    rw [List.foldl_cons, ih, List.map_cons, List.mem_cons]
    by_cases hacc : acc.1.Accepts key.1
    · obtain ⟨channel, he⟩ := @deliver_of_accepts owner data acc key hacc
      rw [he, waiting_delivered]
      by_cases hnode : node = key.1
      · subst hnode
        by_cases hd : data.bind dropToken = some t <;> simp [hd, hacc]
      · have hsame : (acc.1.delivered owner data key channel).Accepts node ↔ acc.1.Accepts node := by
          rw [State.Accepts, subscribeChannels_delivered_ne hnode]
          rfl
        rw [hsame]
        by_cases hd : data.bind dropToken = some t <;> simp [hd, hnode]
    · rw [deliver_of_not_accepts hacc]
      have hne : acc.1.Accepts node → node ≠ key.1 := fun h heq => hacc (heq ▸ h)
      grind

private theorem awaited_foldl_deliver (keys : List InputKey) (acc : State × List NodeId)
    (h : acc.1.Awaited) : (keys.foldl (deliver owner data) acc).1.Awaited := by
  induction keys generalizing acc with
  | nil => exact h
  | cons key keys ih =>
    refine ih _ ?_
    by_cases hacc : acc.1.Accepts key.1
    · obtain ⟨channel, he⟩ := @deliver_of_accepts owner data acc key hacc
      rw [he]
      exact awaited_delivered h
    · rwa [deliver_of_not_accepts hacc]

private theorem waiting_registerToken (s : State) (owner : NodeId) (token t : DropToken) :
    (s.registerToken owner token).waiting t = s.waiting t := by
  rw [registerToken, waiting_checkDropToken]
  by_cases ht : t = token
  · subst ht
    cases hp : s.pendingDropTokens t <;> simp [waiting, hp]
  · simp [waiting, ht]

private theorem awaited_registerToken (h : s.Awaited) : (s.registerToken owner token).Awaited := by
  refine awaited_checkDropToken fun t info ht hinfo => ?_
  simp only [update_of_ne ht] at hinfo
  exact h t info hinfo

section

variable {output : OutputId} {needDataBytes : Bool} {region : Option Nat}

private theorem mem_waiting_sendOutputToLocalReceivers (t : DropToken) :
    node ∈ (s.sendOutputToLocalReceivers output data needDataBytes region).waiting t ↔
      node ∈ s.waiting t ∨
        data.bind dropToken = some t ∧ node ∈ (s.mappings output).map Prod.fst ∧ s.Accepts node := by
  rw [← @mem_waiting_foldl_deliver output.1 node data (s.mappings output) (s, []) t]
  fun_cases sendOutputToLocalReceivers s output data needDataBytes region with
  | case2 =>
    rw [waiting_registerToken]
    rfl
  | _ => rfl

private theorem awaited_sendOutputToLocalReceivers (h : s.Awaited) :
    (s.sendOutputToLocalReceivers output data needDataBytes region).Awaited := by
  have hfold := @awaited_foldl_deliver output.1 data (s.mappings output) (s, []) h
  fun_cases sendOutputToLocalReceivers s output data needDataBytes region with
  | case2 => exact awaited_registerToken hfold
  | _ => exact hfold

end

/-! ## One event -/

private theorem mem_waiting_transition (h : node ∈ (transition s e).waiting token) :
    node ∈ s.waiting token ∨ s.Adds e token node := by
  cases e with
  | addMapping output key =>
    simp only [transition] at h
    split at h <;> exact .inl h
  | sendOut output data needDataBytes region =>
    simp only [transition] at h
    cases hd : data.bind dropToken with
    | none =>
      rw [hd] at h
      rcases (mem_waiting_sendOutputToLocalReceivers token).mp h with h | ⟨hd', -⟩
      · exact .inl h
      · cases hd.symm.trans hd'
    | some t =>
      simp only [hd] at h
      split at h
      · exact .inl h
      · next hnew =>
        rcases (mem_waiting_sendOutputToLocalReceivers token).mp h with h | ⟨hd', hkeys, hacc⟩
        · exact .inl h
        · cases hd.symm.trans hd'
          exact .inr ⟨hd, by simpa using hnew, hkeys, hacc⟩
  | reportDrop node tokens => exact .inl ((returns_reportDrop tokens).mem_waiting h)
  | _ => exact .inl h

private theorem mem_waiting_of_adds (h : s.Adds e token node) :
    node ∈ (transition s e).waiting token := by
  cases e with
  | sendOut output data needDataBytes region =>
    obtain ⟨hd, hnew, hkeys, hacc⟩ := h
    simp only [transition, hd, hnew]
    exact (mem_waiting_sendOutputToLocalReceivers token).mpr (.inr ⟨hd, hkeys, hacc⟩)
  | _ => exact h.elim

private theorem mem_waiting_sendOut {output : OutputId} {needDataBytes : Bool} {region : Option Nat}
    (h : node ∈ s.waiting token) :
    node ∈ (transition s (.sendOut output data needDataBytes region)).waiting token := by
  simp only [transition]
  split
  · exact (mem_waiting_sendOutputToLocalReceivers token).mpr (.inl h)
  · split
    · exact h
    · exact (mem_waiting_sendOutputToLocalReceivers token).mpr (.inl h)

private theorem awaited_transition (h : s.Awaited) : (transition s e).Awaited := by
  fun_cases transition s e with
  | case6 | case8 => exact awaited_sendOutputToLocalReceivers h
  | case9 node tokens => exact (returns_reportDrop tokens).awaited h
  | _ => exact h

private theorem notified_transition {info : DropTokenInformation} (ha : s.Awaited)
    (hp : s.pendingDropTokens token = some info)
    (hgone : (transition s e).pendingDropTokens token = none) (hl : s.Listens info.owner) :
    (info.owner, token) ∈ (transition s e).told := by
  cases e with
  | addMapping output key =>
    simp only [transition] at hgone
    split at hgone <;> cases hp.symm.trans hgone
  | sendOut output data needDataBytes region =>
    obtain ⟨node, hnode⟩ := ha token info hp
    have hwaiting : node ∈ s.waiting token := by simpa [waiting, hp] using hnode
    have hstill := @mem_waiting_sendOut s token node data output needDataBytes region hwaiting
    simp [waiting, hgone] at hstill
  | reportDrop node tokens => exact (returns_reportDrop tokens).notified token info hp hgone hl
  | _ => cases hp.symm.trans hgone

end DoraSpec.Daemon.DropTokens

namespace DoraSpec.Daemon.TokenWaits
open Base Message Daemon.DropTokens

/-! ## Nodes that leave -/

/-- The tables, and the nodes that have exited for good, were removed or have closed their event
channel, and have not subscribed again. -/
structure State extends DropTokens.State where
  departed : Finset NodeId := ∅

inductive Event where
  /-- The exit of a node that is not started again is handled; `lib.rs:3233-3289`. -/
  | stopped (node : NodeId)
  | tokens (event : DropTokens.Event)

namespace Event

/-- What happens to the tables. -/
def tables : Event → DropTokens.Event
  | stopped node => .outputsDone node
  | tokens event => event

/-- The node that leaves. -/
def leaver : Event → Option NodeId
  | stopped node | tokens (.gone node) | tokens (.eventStreamDropped node)
  | tokens (.removeNode node) => some node
  | _ => none

end Event

/-- Nodes that have left after the event. -/
def State.departedAfter (s : State) : Event → Finset NodeId
  | .tokens (.subscribe node) => s.departed.erase node
  | e => e.leaver.elim s.departed (insert · s.departed)

def step (s : State) (e : Event) : State × Unit :=
  (if s.failed.isSome then s
    else { toState := transition s.toState e.tables, departed := s.departedAfter e }, ())

/-- Tokens wait for somebody, and for nodes only that have not left. -/
structure Sound (s : State) : Prop where
  present : ∀ token, ∀ node ∈ s.waiting token, node ∉ s.departed
  awaited : s.Awaited

/-- The step leaves the tokens sound and tells the owners of those that are gone. -/
structure Kept (s : State) (e : Event) : Prop where
  sound : Sound (step s e).1
  notified : ∀ token info, s.pendingDropTokens token = some info →
    (step s e).1.pendingDropTokens token = none → s.Listens info.owner →
    (info.owner, token) ∈ (step s e).1.told

/-- A node that leaves has given back all tokens, and no token is sent to a node that has left. -/
def LeavesNothing (s : State) (e : Event) : Prop :=
  s.failed = none →
    (∀ node ∈ e.leaver, ∀ token, node ∉ s.waiting token) ∧
      ∀ token node, s.Adds e.tables token node → node ∉ s.departed

section

variable {s : State} {e : Event} {node : NodeId} {token : DropToken}

private theorem step_of_running (h : s.failed = none) :
    (step s e).1 = { toState := transition s.toState e.tables, departed := s.departedAfter e } := by
  simp [step, h]

private theorem waiting_of_leaver (h : e.leaver = some node) :
    (transition s.toState e.tables).waiting = s.waiting := by
  cases e with
  | stopped => rfl
  | tokens e =>
    cases e with
    | gone | eventStreamDropped | removeNode => rfl
    | _ => cases h

private theorem mem_departedAfter (h : node ∈ s.departedAfter e) :
    node ∈ s.departed ∨ e.leaver = some node := by
  cases e with
  | stopped n =>
    rcases Finset.mem_insert.mp h with rfl | h
    · exact .inr rfl
    · exact .inl h
  | tokens e =>
    cases e with
    | gone n | eventStreamDropped n | removeNode n =>
      rcases Finset.mem_insert.mp h with rfl | h
      · exact .inr rfl
      · exact .inl h
    | subscribe n => exact .inl (Finset.mem_of_mem_erase h)
    | _ => exact .inl h

private theorem mem_departedAfter_of_leaver (h : e.leaver = some node) :
    node ∈ s.departedAfter e := by
  cases e with
  | stopped n =>
    cases h
    exact Finset.mem_insert_self ..
  | tokens e =>
    cases e with
    | gone n | eventStreamDropped n | removeNode n =>
      cases h
      exact Finset.mem_insert_self ..
    | _ => cases h

private theorem departedAfter_of_adds (h : s.Adds e.tables token node) :
    s.departedAfter e = s.departed := by
  cases e with
  | stopped => exact h.elim
  | tokens e =>
    cases e with
    | sendOut => rfl
    | _ => exact h.elim

private theorem kept_iff (hs : Sound s) : Kept s e ↔ LeavesNothing s e := by
  cases hrun : s.failed with
  | some text =>
    have hstep : (step s e).1 = s := by simp [step, hrun]
    refine iff_of_true ⟨by rwa [hstep], fun token info hp hgone => ?_⟩ fun h => ?_
    · rw [hstep, hp] at hgone
      cases hgone
    · cases hrun.symm.trans h
  | none =>
    have hstep := @step_of_running s e hrun
    constructor
    · rintro ⟨⟨hpresent, -⟩, -⟩ -
      rw [hstep] at hpresent
      refine ⟨fun node hnode token hwaiting => ?_, fun token node hadds hdeparted => ?_⟩
      · refine hpresent token node ?_ (mem_departedAfter_of_leaver hnode)
        rwa [waiting_of_leaver hnode]
      · refine hpresent token node (mem_waiting_of_adds hadds) ?_
        rwa [departedAfter_of_adds hadds]
    · intro h
      obtain ⟨hleaver, hadds⟩ := h hrun
      refine ⟨⟨fun token node hwaiting hdeparted => ?_, ?_⟩, fun token info hp hgone hl => ?_⟩
      · rw [hstep] at hwaiting hdeparted
        rcases mem_departedAfter hdeparted with hd | hd
        · rcases mem_waiting_transition hwaiting with hw | ha
          · exact hs.present token node hw hd
          · exact hadds token node ha hd
        · rw [waiting_of_leaver hd] at hwaiting
          exact hleaver node hd token hwaiting
      · rw [hstep]
        exact awaited_transition hs.awaited
      · rw [hstep] at hgone ⊢
        exact notified_transition hs.awaited hp hgone hl

end

/-- In a run the tokens wait for nodes only that have not left, with their owners told, if and only
if nodes leave without tokens and get none afterwards. -/
theorem kept_iff_leavesNothing (events : List Event) :
    Machine.Along step Kept {} events ↔ Machine.Along step LeavesNothing {} events := by
  have hempty : Sound {} := ⟨fun _ _ h => by simp [DropTokens.State.waiting] at h, nofun⟩
  constructor
  · exact Machine.Along.imp step Sound (fun s e hs hk => ⟨(kept_iff hs).mp hk, hk.sound⟩) hempty
  · refine Machine.Along.imp step Sound (fun s e hs hl => ?_) hempty
    have hk := (kept_iff hs).mpr hl
    exact ⟨hk, hk.sound⟩

/-- Two nodes get an image. The logger gives it back; the viewer exits, which is handled. -/
def viewerRun : List Event :=
  (sendImage (⟨"viewer"⟩, leftInput) (⟨"logger"⟩, rightInput)).map .tokens ++
    [.tokens (.reportDrop ⟨"logger"⟩ [7]), .tokens (.gone ⟨"viewer"⟩), .stopped ⟨"viewer"⟩]

/-- The token of the image waits for the viewer that is gone. -/
theorem not_kept :
    ⟨"viewer"⟩ ∈ (Machine.run step {} viewerRun).1.waiting 7 ∧
      ⟨"viewer"⟩ ∈ (Machine.run step {} viewerRun).1.departed ∧
      (Machine.run step {} viewerRun).1.told = [] ∧
      ¬ Machine.Along step Kept {} viewerRun := by
  refine ⟨by decide, by decide, by decide, fun h => ?_⟩
  obtain ⟨-, -, -, -, -, -, -, hgone, -⟩ := h
  exact hgone.sound.present 7 ⟨"viewer"⟩ (by decide) (by decide)

end DoraSpec.Daemon.TokenWaits
