import DoraSpec.Base.SequencedLog
import DoraSpec.Daemon.EventChannels

/-!
# Catch-up entries at the daemon

Source `binaries/daemon/src/lib.rs:1870-1915, 3815-3906`. After a reconnect the coordinator sends
the changes of parameters that a daemon has missed. The daemon passes them on in order and stops at
the first one that it cannot put into the channel of its node: an entry that could be delivered is
then held up by one for another node. The listeners take no event out while the entries are applied.
-/

namespace DoraSpec.Daemon.CatchUpEntries
open Base Message List Option
open Node (NodeEvent Json)
open Daemon.EventChannels

/-- `coordinator_to_daemon.rs:26-38`. -/
inductive StateCatchUpOperation where
  | setParam (nodeId : NodeId) (key : String) (value : Json)
  | deleteParam (nodeId : NodeId) (key : String)

namespace StateCatchUpOperation

def nodeId : StateCatchUpOperation → NodeId
  | .setParam nodeId .. | .deleteParam nodeId _ => nodeId

/-- What the node is told; `lib.rs:3837-3840, 3874`. -/
def event : StateCatchUpOperation → NodeEvent
  | .setParam _ key value => .paramUpdate key value
  | .deleteParam _ key => .paramDeleted key

@[simp] private theorem isControl_event (operation : StateCatchUpOperation) :
    isControl operation.event = true := by
  cases operation <;> rfl

end StateCatchUpOperation

/-- `coordinator_to_daemon.rs:19-23`. -/
abbrev StateCatchUpEntry := SequencedLog.Entry StateCatchUpOperation

/-- Node that an entry is for. -/
abbrev target (entry : StateCatchUpEntry) : NodeId := entry.operation.nodeId

/-- `subscribe_channels` of a running dataflow, each channel with the counter of its node. -/
abbrev Channels := NodeId → Option Subscription

/-- `inc_pending`, `running_dataflow.rs:520-525`. -/
def incPending (sub : Subscription) : Subscription :=
  { sub with pendingCounter := sub.pendingCounter + 1 }

/-- The loop of `apply_state_catch_up_entries`, `lib.rs:3822-3903`. -/
def applyFrom (channels : Channels) (appliedThrough : Nat) :
    List StateCatchUpEntry → Channels × Nat
  | [] => (channels, appliedThrough)
  | entry :: entries =>
    match channels (target entry) with
    | none => (channels, appliedThrough)
    | some channel =>
      match channel.sendWithTimestamp entry.operation.event with
      | (sent, .delivered) =>
        applyFrom (Function.update channels (target entry) (some (incPending sent)))
          entry.sequence entries
      | (_, .dropped) | (_, .closed) => (channels, appliedThrough)

/-- `apply_state_catch_up_entries`, `lib.rs:3815-3906`. -/
def applyStateCatchUpEntries (channels : Channels) (entries : List StateCatchUpEntry) :
    Channels × Nat :=
  applyFrom channels 0 entries

/-- What a daemon does with catch-up entries for a dataflow: the channels afterwards and the
sequence that is acknowledged; `lib.rs:1870-1915`. -/
def stateCatchUp (coordinatorSender : Bool) (running : Option Channels)
    (entries : List StateCatchUpEntry) : Option Channels × Option Nat :=
  let (running, appliedThrough) : Option Channels × Nat :=
    match running with
    | none => (none, 0)
    | some channels =>
      let (channels, appliedThrough) := applyStateCatchUpEntries channels entries
      (some channels, appliedThrough)
  (running, if 0 < appliedThrough ∧ coordinatorSender then some appliedThrough else none)

/-! ## What should be delivered -/

/-- Events of the entries for a node. -/
def eventsFor (node : NodeId) (entries : List StateCatchUpEntry) : List NodeEvent :=
  (entries.filter (target · = node)).map (·.operation.event)

/-- Take events as far as there is room. -/
def offerAll (sub : Subscription) (events : List NodeEvent) : Subscription :=
  if sub.closed then sub
  else
    let sent := events.take sub.capacity
    { sub with
      queue := sub.queue ++ sent
      pendingCounter := sub.pendingCounter + UInt64.ofNat sent.length }

/-- Each node takes the entries for it. -/
def offered (channels : Channels) (entries : List StateCatchUpEntry) : Channels :=
  fun node => (channels node).map (offerAll · (eventsFor node entries))

/-- The node of an entry listens, and its channel has room left after the entries before. -/
def HasRoom (channels : Channels) (earlier : List StateCatchUpEntry) (entry : StateCatchUpEntry) :
    Prop :=
  ∃ sub, channels (target entry) = some sub ∧ sub.closed = false ∧
    (eventsFor (target entry) earlier).length < sub.capacity

/-- Every entry is delivered for which there is room, and what is acknowledged comes before every
other entry. -/
structure CatchesUp (channels : Channels) (entries : List StateCatchUpEntry)
    (result : Option Channels × Option Nat) : Prop where
  delivered : result.1 = some (offered channels entries)
  acknowledged : ∀ ack, result.2 = some ack → ∀ earlier entry later,
    entries = earlier ++ entry :: later → ¬HasRoom channels earlier entry → ack < entry.sequence

/-- An entry for which there is room has only such entries in front of it. -/
def NoneHeldUp (channels : Channels) (entries : List StateCatchUpEntry) : Prop :=
  ∀ earlier entry later, entries = earlier ++ entry :: later → HasRoom channels earlier entry →
    ∀ before blocker after, earlier = before ++ blocker :: after → HasRoom channels before blocker

/-- Sequence numbers are positive and increase. -/
def Sequenced (entries : List StateCatchUpEntry) : Prop :=
  (0 :: entries.map (·.sequence)).Pairwise (· < ·)

/-! ## One entry -/

variable {channels : Channels} {entry : StateCatchUpEntry} {sub : Subscription}
  {done left : List StateCatchUpEntry}

@[simp] private theorem eventsFor_nil (node : NodeId) : eventsFor node [] = [] := rfl

private theorem eventsFor_cons_of_eq {node : NodeId} (h : target entry = node)
    (entries : List StateCatchUpEntry) :
    eventsFor node (entry :: entries) = entry.operation.event :: eventsFor node entries := by
  simp [eventsFor, h]

private theorem eventsFor_cons_of_ne {node : NodeId} (h : target entry ≠ node)
    (entries : List StateCatchUpEntry) :
    eventsFor node (entry :: entries) = eventsFor node entries := by
  simp [eventsFor, h]

private theorem eventsFor_append (node : NodeId) (left right : List StateCatchUpEntry) :
    eventsFor node (left ++ right) = eventsFor node left ++ eventsFor node right := by
  simp [eventsFor]

@[simp] private theorem offered_nil (channels : Channels) : offered channels [] = channels := by
  funext node
  have hnone (sub : Subscription) : offerAll sub [] = sub := by simp [offerAll]
  simp [offered, hnone]

@[simp] private theorem closed_incPending (sub : Subscription) (event : NodeEvent) :
    (incPending (sub.push event)).closed = sub.closed := rfl

private theorem capacity_incPending (sub : Subscription) (event : NodeEvent) :
    (incPending (sub.push event)).capacity = sub.capacity - 1 := by
  simp [incPending, Subscription.push, Subscription.capacity, Subscription.channel,
    DropTokens.EventChannel.capacity, Nat.sub_add_eq]

private theorem offerAll_cons (hopen : sub.closed = false) (hroom : 0 < sub.capacity)
    (event : NodeEvent) (events : List NodeEvent) :
    offerAll sub (event :: events) = offerAll (incPending (sub.push event)) events := by
  obtain ⟨room, hcapacity⟩ : ∃ room, sub.capacity = room + 1 := ⟨sub.capacity - 1, by omega⟩
  have hcount (count : Nat) :
      sub.pendingCounter + 1 + UInt64.ofNat count = sub.pendingCounter + UInt64.ofNat (count + 1) := by
    rw [UInt64.ofNat_add, UInt64.add_assoc, UInt64.add_comm 1]
    rfl
  simp only [offerAll, closed_incPending, hopen, capacity_incPending, hcapacity]
  simp [incPending, Subscription.push, hcount]

private theorem sendWithTimestamp_of_room (hopen : sub.closed = false) (hroom : 0 < sub.capacity)
    (operation : StateCatchUpOperation) :
    sub.sendWithTimestamp operation.event = (sub.push operation.event, .delivered) := by
  have hfree : sub.channel.capacity ≠ 0 := Nat.ne_of_gt hroom
  have hlistens : sub.channel.closed = false := hopen
  simp [Subscription.sendWithTimestamp, Subscription.attempt, Subscription.trySend,
    DropTokens.EventChannel.trySend, hlistens, hfree, Except.map]

private theorem sendWithTimestamp_of_no_room
    (hblocked : ¬(sub.closed = false ∧ 0 < sub.capacity)) (operation : StateCatchUpOperation) :
    (sub.sendWithTimestamp operation.event).2 ≠ .delivered := by
  rcases hclosed : sub.closed with _ | _
  · have hfull : sub.channel.capacity = 0 := by
      by_contra hfree
      exact hblocked ⟨hclosed, Nat.pos_of_ne_zero hfree⟩
    have hlistens : sub.channel.closed = false := hclosed
    simp [Subscription.sendWithTimestamp, Subscription.attempt, Subscription.trySend,
      DropTokens.EventChannel.trySend, hlistens, hfull, Except.map]
  · have hgone : sub.channel.closed = true := hclosed
    simp [Subscription.sendWithTimestamp, Subscription.attempt, Subscription.trySend,
      DropTokens.EventChannel.trySend, hgone, Except.map]

/-- Channels after an entry has been put into the channel of its node. -/
def afterEntry (channels : Channels) (entry : StateCatchUpEntry) (sub : Subscription) : Channels :=
  Function.update channels (target entry) (some (incPending (sub.push entry.operation.event)))

private theorem hasRoom_nil (h : HasRoom channels [] entry) :
    ∃ sub, channels (target entry) = some sub ∧ sub.closed = false ∧ 0 < sub.capacity := h

private theorem applyFrom_of_not_hasRoom (h : ¬HasRoom channels [] entry) (through : Nat)
    (entries : List StateCatchUpEntry) :
    applyFrom channels through (entry :: entries) = (channels, through) := by
  rw [applyFrom]
  cases hsub : channels (target entry) with
  | none => rfl
  | some sub =>
    have hblocked : ¬(sub.closed = false ∧ 0 < sub.capacity) :=
      fun ⟨hopen, hroom⟩ => h ⟨sub, hsub, hopen, hroom⟩
    have hresult := sendWithTimestamp_of_no_room hblocked entry.operation
    rcases hsent : sub.sendWithTimestamp entry.operation.event with ⟨sent, result⟩
    rw [hsent] at hresult
    cases result with
    | delivered => exact absurd rfl hresult
    | dropped | closed => simp only [hsent]

section AfterEntry

variable (hsub : channels (target entry) = some sub) (hopen : sub.closed = false)
  (hroom : 0 < sub.capacity)

include hsub hopen hroom

private theorem applyFrom_of_hasRoom (through : Nat) (entries : List StateCatchUpEntry) :
    applyFrom channels through (entry :: entries) =
      applyFrom (afterEntry channels entry sub) entry.sequence entries := by
  rw [applyFrom, hsub]
  simp only [sendWithTimestamp_of_room hopen hroom]
  rfl

private theorem offered_afterEntry (entries : List StateCatchUpEntry) :
    offered (afterEntry channels entry sub) entries = offered channels (entry :: entries) := by
  funext node
  rcases eq_or_ne (target entry) node with rfl | hne
  · simp only [offered, afterEntry, Function.update_self, map_some, hsub,
      eventsFor_cons_of_eq rfl, offerAll_cons hopen hroom]
  · simp only [offered, afterEntry, Function.update_of_ne hne.symm, eventsFor_cons_of_ne hne]

private theorem hasRoom_afterEntry (earlier : List StateCatchUpEntry) (next : StateCatchUpEntry) :
    HasRoom (afterEntry channels entry sub) earlier next ↔
      HasRoom channels (entry :: earlier) next := by
  rcases eq_or_ne (target entry) (target next) with heq | hne
  · rw [HasRoom, HasRoom, afterEntry, eventsFor_cons_of_eq heq, ← heq, Function.update_self, hsub]
    simp only [some.injEq, exists_eq_left', closed_incPending, capacity_incPending,
      length_cons, hopen, true_and]
    omega
  · rw [HasRoom, HasRoom, afterEntry, eventsFor_cons_of_ne hne, Function.update_of_ne hne.symm]

end AfterEntry

/-! ## The entries up to the first without room -/

/-- The entries `done` are delivered and the entries `left` are not. -/
structure StopsAfter (channels : Channels) (entries done left : List StateCatchUpEntry) : Prop where
  split : entries = done ++ left
  fits : ∀ before entry after, done = before ++ entry :: after → HasRoom channels before entry
  stops : ∀ entry rest, left = entry :: rest → ¬HasRoom channels done entry

/-- Sequence of the last entry. -/
def lastSequence (through : Nat) (entries : List StateCatchUpEntry) : Nat :=
  (entries.getLast?.map (·.sequence)).getD through

private theorem lastSequence_cons (through : Nat) (entry : StateCatchUpEntry)
    (entries : List StateCatchUpEntry) :
    lastSequence through (entry :: entries) = lastSequence entry.sequence entries := by
  simp only [lastSequence, getLast?_cons]
  cases entries.getLast? <;> rfl

private theorem applyFrom_stopsAfter (entries : List StateCatchUpEntry) :
    ∀ (channels : Channels) (through : Nat), ∃ done left, StopsAfter channels entries done left ∧
      applyFrom channels through entries = (offered channels done, lastSequence through done) := by
  induction entries with
  | nil =>
    intro channels through
    exact ⟨[], [], ⟨rfl, by simp, by simp⟩, by simp [applyFrom, lastSequence]⟩
  | cons entry entries ih =>
    intro channels through
    by_cases hfits : HasRoom channels [] entry
    · obtain ⟨sub, hsub, hopen, hroom⟩ := hasRoom_nil hfits
      obtain ⟨done, left, hstops, hresult⟩ := ih (afterEntry channels entry sub) entry.sequence
      refine ⟨entry :: done, left, ⟨by rw [hstops.split]; rfl, ?_, ?_⟩, ?_⟩
      · intro before next after hsplit
        cases before with
        | nil =>
          obtain rfl : entry = next := (List.cons.inj hsplit).1
          exact hfits
        | cons _ before =>
          obtain ⟨rfl, htail⟩ := List.cons.inj hsplit
          exact (hasRoom_afterEntry hsub hopen hroom before next).mp
            (hstops.fits before next after htail)
      · intro next rest hleft hnext
        exact hstops.stops next rest hleft
          ((hasRoom_afterEntry hsub hopen hroom done next).mpr hnext)
      · rw [applyFrom_of_hasRoom hsub hopen hroom, hresult,
          offered_afterEntry hsub hopen hroom, lastSequence_cons]
    · refine ⟨[], entry :: entries, ⟨rfl, by simp, ?_⟩, ?_⟩
      · intro next rest hleft
        obtain rfl : entry = next := (List.cons.inj hleft).1
        exact hfits
      · rw [applyFrom_of_not_hasRoom hfits, offered_nil]
        rfl

private theorem stateCatchUp_stopsAfter (sender : Bool) (channels : Channels)
    (entries : List StateCatchUpEntry) :
    ∃ done left, StopsAfter channels entries done left ∧
      (stateCatchUp sender (some channels) entries).1 = some (offered channels done) ∧
      ∀ ack, (stateCatchUp sender (some channels) entries).2 = some ack →
        ack = lastSequence 0 done := by
  obtain ⟨done, left, hstops, hresult⟩ := applyFrom_stopsAfter entries channels 0
  refine ⟨done, left, hstops, ?_, ?_⟩
  · simp [stateCatchUp, applyStateCatchUpEntries, hresult]
  · intro ack hack
    simp only [stateCatchUp, applyStateCatchUpEntries, hresult, ite_none_right_eq_some,
      some.injEq] at hack
    exact hack.2.symm

private theorem lastSequence_lt (hseq : Sequenced (done ++ left)) (hentry : entry ∈ left) :
    lastSequence 0 done < entry.sequence := by
  obtain ⟨hpositive, hpair⟩ := pairwise_cons.mp hseq
  rw [map_append] at hpositive hpair
  have hlater : entry.sequence ∈ left.map (·.sequence) := mem_map_of_mem hentry
  cases hlast : done.getLast? with
  | none =>
    rw [lastSequence, hlast]
    exact hpositive _ (mem_append_right _ hlater)
  | some last =>
    rw [lastSequence, hlast]
    exact (pairwise_append.mp hpair).2.2 _
      (mem_map_of_mem (mem_of_getLast? hlast)) _ hlater

/-! ## When nothing is held up -/

private theorem StopsAfter.done_isPrefix {entries done left : List StateCatchUpEntry}
    (h : StopsAfter channels entries done left) {earlier later : List StateCatchUpEntry}
    (hsplit : entries = earlier ++ entry :: later)
    (hblocked : ¬HasRoom channels earlier entry) : done <+: earlier := by
  have hdone : done <+: earlier ++ entry :: later := ⟨left, by rw [← h.split, hsplit]⟩
  refine prefix_of_prefix_length_le hdone (prefix_append _ _) ?_
  by_contra hlong
  have hreach : earlier ++ [entry] <+: done := by
    refine prefix_of_prefix_length_le ⟨later, by simp⟩ hdone ?_
    simp only [length_append, length_singleton]
    omega
  obtain ⟨rest, rfl⟩ := hreach
  exact hblocked (h.fits earlier entry rest (by simp))

private theorem length_eventsFor_le {short long : List StateCatchUpEntry} (h : short <+: long)
    (node : NodeId) : (eventsFor node short).length ≤ (eventsFor node long).length := by
  obtain ⟨rest, rfl⟩ := h
  simp [eventsFor_append]

private theorem offered_ne {done earlier later : List StateCatchUpEntry} (hdone : done <+: earlier)
    (hroom : HasRoom channels earlier entry) :
    offered channels done ≠ offered channels (earlier ++ entry :: later) := by
  intro heq
  obtain ⟨sub, hsub, hopen, hfree⟩ := hroom
  have hnode := congrFun heq (target entry)
  have hshort := length_eventsFor_le hdone (target entry)
  simp only [offered, hsub, map_some, some.injEq, offerAll, hopen,
    eventsFor_append, eventsFor_cons_of_eq] at hnode
  have hlength := congrArg (fun sub : Subscription => sub.queue.length) hnode
  simp at hlength
  omega

private theorem offered_append
    (hblocked : ∀ before entry after, left = before ++ entry :: after →
      ¬HasRoom channels (done ++ before) entry) :
    offered channels (done ++ left) = offered channels done := by
  funext node
  rcases hsub : channels node with _ | sub
  · simp [offered, hsub]
  rcases hopen : sub.closed with _ | _
  · suffices htake : (eventsFor node (done ++ left)).take sub.capacity =
        (eventsFor node done).take sub.capacity by
      simp only [offered, hsub, map_some, offerAll, htake]
    rw [eventsFor_append]
    by_cases hnone : eventsFor node left = []
    · rw [hnone, append_nil]
    -- The first entry for the node in `left` has no room: the channel is full by then.
    obtain ⟨before, entry, after, hleft, hbefore, hentry⟩ :
        ∃ before entry after, left = before ++ entry :: after ∧
          (∀ e ∈ before, target e ≠ node) ∧ target entry = node := by
      obtain ⟨e, he, hnode⟩ : ∃ e ∈ left, target e = node := by
        simpa [eventsFor] using hnone
      obtain ⟨entry, before, after, hfirst, hentry, hleft, -⟩ :=
        exists_of_eraseP (p := (target · = node)) he (by simpa using hnode)
      exact ⟨before, entry, after, hleft, by simpa using hfirst, by simpa using hentry⟩
    have hfull : sub.capacity ≤ (eventsFor node done).length := by
      by_contra hfree
      refine hblocked before entry after hleft ⟨sub, by rw [hentry, hsub], hopen, ?_⟩
      have hskip : eventsFor node before = [] := by simpa [eventsFor] using hbefore
      rw [hentry, eventsFor_append, hskip, append_nil]
      omega
    exact take_append_of_le_length hfull
  · simp [offered, hsub, offerAll, hopen]

/-- The entries that have room are delivered if and only if none of them is behind one that has
none. Whatever is held up, the daemon acknowledges only what it has delivered. -/
theorem catchesUp_iff_noneHeldUp (sender : Bool) (channels : Channels)
    (entries : List StateCatchUpEntry) (hseq : Sequenced entries) :
    (CatchesUp channels entries (stateCatchUp sender (some channels) entries) ↔
      NoneHeldUp channels entries) ∧
    ∃ done left, entries = done ++ left ∧
      (stateCatchUp sender (some channels) entries).1 = some (offered channels done) ∧
      (∀ before entry after, done = before ++ entry :: after → HasRoom channels before entry) ∧
      ∀ ack, (stateCatchUp sender (some channels) entries).2 = some ack →
        ∀ entry ∈ left, ack < entry.sequence := by
  obtain ⟨done, left, hstops, hchannels, hack⟩ := stateCatchUp_stopsAfter sender channels entries
  have hsafe : ∀ ack, (stateCatchUp sender (some channels) entries).2 = some ack →
      ∀ entry ∈ left, ack < entry.sequence := by
    intro ack hsome entry hentry
    rw [hack ack hsome]
    exact lastSequence_lt (hstops.split ▸ hseq) hentry
  refine ⟨⟨?_, ?_⟩, done, left, hstops.split, hchannels, hstops.fits, hsafe⟩
  · intro hcatches earlier entry later hsplit hroom before blocker after hearlier
    by_contra hblocked
    have hdone : done <+: before :=
      hstops.done_isPrefix (by simpa [hearlier] using hsplit) hblocked
    have hdelivered := hcatches.delivered
    rw [hchannels, hsplit, some.injEq] at hdelivered
    exact offered_ne (hdone.trans ⟨blocker :: after, hearlier.symm⟩) hroom hdelivered
  · intro hheld
    refine ⟨?_, ?_⟩
    · rw [hchannels, hstops.split, offered_append]
      intro before entry after hleft hroom
      have hsplit : entries = (done ++ before) ++ entry :: after := by
        rw [hstops.split, hleft, append_assoc]
      cases before with
      | nil =>
        exact hstops.stops entry after (by simpa using hleft) (by simpa using hroom)
      | cons first before =>
        exact hstops.stops first (before ++ entry :: after) (by simpa using hleft)
          (hheld _ entry after hsplit hroom done first before rfl)
    · intro ack hsome earlier entry later hsplit hblocked
      obtain ⟨rest, hrest⟩ := hstops.done_isPrefix hsplit hblocked
      refine hsafe ack hsome entry ?_
      have hleft : done ++ left = done ++ (rest ++ entry :: later) := by
        rw [← hstops.split, hsplit, ← hrest, append_assoc]
      rw [append_cancel_left hleft]
      simp

/-! ## A node that is not connected -/

/-- Only the node `camera` is connected. -/
def oneConnected : Channels := fun node => if node = ⟨"camera"⟩ then some {} else none

/-- Changes for the connected node. -/
def cameraEntries : List StateCatchUpEntry :=
  [⟨1, .setParam ⟨"camera"⟩ "exposure" .null⟩, ⟨2, .deleteParam ⟨"camera"⟩ "gain"⟩]

/-- A change for a node that is not connected, and one for the connected node. -/
def blockedEntries : List StateCatchUpEntry :=
  [⟨1, .deleteParam ⟨"plot"⟩ "scale"⟩, ⟨2, .deleteParam ⟨"camera"⟩ "gain"⟩]

private theorem hasRoom_camera {earlier : List StateCatchUpEntry} {entry : StateCatchUpEntry}
    (hentry : target entry = ⟨"camera"⟩) (hlength : earlier.length < 2) :
    HasRoom oneConnected earlier entry := by
  refine ⟨{}, by simp [oneConnected, hentry], rfl, ?_⟩
  have hcount : (eventsFor (target entry) earlier).length ≤ earlier.length := by
    simpa [eventsFor] using length_filter_le _ earlier
  have hcapacity : (2 : Nat) ≤ Subscription.capacity {} := by decide
  omega

private theorem noneHeldUp_camera : NoneHeldUp oneConnected cameraEntries := by
  intro earlier entry later hsplit _ before blocker after hearlier
  have hlength : earlier.length + later.length = 1 := by
    have hlengths := congrArg List.length hsplit
    simp [cameraEntries] at hlengths
    omega
  have hmem : blocker ∈ cameraEntries := by simp [hsplit, hearlier]
  have htarget : target blocker = ⟨"camera"⟩ := by
    simp only [cameraEntries, mem_cons, not_mem_nil, or_false] at hmem
    rcases hmem with rfl | rfl <;> rfl
  refine hasRoom_camera htarget ?_
  simp only [hearlier, length_append, length_cons] at hlength
  omega

/-- Two entries for a node with room for them. -/
theorem catchesUp_cameraEntries :
    Sequenced cameraEntries ∧ NoneHeldUp oneConnected cameraEntries ∧
      CatchesUp oneConnected cameraEntries
        (stateCatchUp true (some oneConnected) cameraEntries) := by
  have hseq : Sequenced cameraEntries := by simp [Sequenced, cameraEntries]
  exact ⟨hseq, noneHeldUp_camera,
    (catchesUp_iff_noneHeldUp true oneConnected cameraEntries hseq).1.mpr noneHeldUp_camera⟩

/-- A change for a node that is not connected keeps the change behind it from a node that is. -/
theorem not_catchesUp_blockedEntries :
    Sequenced blockedEntries ∧ HasRoom oneConnected (blockedEntries.take 1) (blockedEntries[1]) ∧
      ¬CatchesUp oneConnected blockedEntries
        (stateCatchUp true (some oneConnected) blockedEntries) := by
  refine ⟨by simp [Sequenced, blockedEntries], hasRoom_camera rfl (by decide), ?_⟩
  intro hcatches
  have hqueue := congrArg
    (fun channels : Option Channels =>
      ((channels.bind (· ⟨"camera"⟩)).map (·.queue.length)).getD 0)
    hcatches.delivered
  revert hqueue
  decide

end DoraSpec.Daemon.CatchUpEntries
