import DoraSpec.Node.Output

/-!
# The two paths of an output

A node with a zenoh session publishes its large messages itself and leaves the small ones to the
daemon (`apis/rust/node/src/node/mod.rs`). At a receiver, the zenoh subscriber and the event thread
put what arrives into the same channel, and `recv_async` moves the channel into the scheduler before
it takes the next event (`apis/rust/node/src/event_stream/mod.rs`). Each path is first in, first
out. Nothing orders the two, so the receiver sees the order of sending as long as no message
overtakes an earlier one on the other path.
-/

namespace DoraSpec.Node.PathOrder
open Base Message Function List

inductive Path where
  | daemon
  | zenoh
deriving DecidableEq

def Path.other : Path → Path
  | daemon => zenoh
  | zenoh => daemon

private theorem Path.eq_other {path other : Path} (h : other ≠ path) : other = path.other := by
  cases path <;> cases other <;> first | rfl | exact absurd rfl h

/-- Path that a sent message takes. -/
def path : Sent → Path
  | .daemon .. => .daemon
  | .zenoh .. => .zenoh

/-- An output, one receiver of it and what lies between them. -/
structure State where
  scheduler : Scheduler
  /-- Messages in the order of sending, as the receiver would see them. -/
  sent : List EventItem := []
  /-- Messages on their way, oldest first, each with its position in `sent`. -/
  underway : Path → List (Nat × EventItem) := fun _ => []
  /-- The channel of the event stream. -/
  channel : List EventItem := []
  /-- Events that the receiver got, oldest first. -/
  received : List EventItem := []

inductive Event where
  | send (env : SendEnv) (typeInfo : ArrowTypeInfo) (parameters : MetadataParameters)
    (sample : Option DataSample)
  | arrive (path : Path)
  /-- The oldest message of a path is dropped. -/
  | lose (path : Path)
  /-- An event that is not a message of the output. -/
  | other (item : EventItem)
  | recv

section Step

variable (node : DoraNode) (outputId inputId : DataId)

/-- `recv_async`, `mod.rs:496-568` of the event stream. -/
def State.recv (s : State) : State :=
  let drained := s.channel.foldl Scheduler.addEvent s.scheduler
  { s with
    channel := []
    scheduler := drained.next.2
    received := s.received ++ drained.next.1.toList }

def step (s : State) : Event → State × Unit
  | .send env typeInfo parameters sample =>
    match node.sendOutputSample env outputId typeInfo parameters sample with
    | .ok sent =>
      ({ s with
        sent := s.sent ++ [sent.item inputId]
        underway := update s.underway (path sent)
          (s.underway (path sent) ++ [(s.sent.length, sent.item inputId)]) }, ())
    | .error _ => (s, ())
  | .arrive path =>
    match s.underway path with
    | [] => (s, ())
    | message :: rest =>
      ({ s with
        underway := update s.underway path rest
        channel := s.channel ++ [message.2] }, ())
  | .lose path =>
    ({ s with underway := update s.underway path (s.underway path).tail }, ())
  | .other item =>
    if item.queueId = inputId then (s, ()) else ({ s with channel := s.channel ++ [item] }, ())
  | .recv => (s.recv, ())

end Step

private theorem addEvents_eq_foldl {Data : Type} {env : StreamEnv Data}
    (hrecord : ∀ item, env.recordEvent item = .ok ()) (items : List EventItem)
    (scheduler : Scheduler) :
    EventStream.addEvents env items scheduler = .ok (items.foldl Scheduler.addEvent scheduler) := by
  induction items generalizing scheduler with
  | nil => rfl
  | cons item items ih => rw [EventStream.addEvents, hrecord, ih, foldl_cons]

/-- An event stream with this channel and scheduler receives the same event, as long as events can
be recorded; if there is none, it waits or ends. -/
theorem recvAsync_eq_recv {Data : Type} {env : StreamEnv Data} {stream : EventStream Data}
    {s : State} (hrecord : ∀ item, env.recordEvent item = .ok ())
    (hpending : stream.pendingPassthrough = []) (huse : stream.useScheduler = true)
    (hscheduler : stream.scheduler = s.scheduler) (hitems : stream.receiver.items = s.channel) :
    (stream.recvAsync env).2.scheduler = s.recv.scheduler ∧
      (stream.recvAsync env).2.receiver.items = s.recv.channel ∧
      ∃ event, s.recv.received = s.received ++ event.toList ∧
        ((stream.recvAsync env).1 = .ready (event.map (convertEventItem env)) ∨
          event = none ∧ (stream.recvAsync env).1 = .pending) := by
  simp only [EventStream.recvAsync, hpending, huse, hscheduler, hitems, addEvents_eq_foldl hrecord,
    if_true, State.recv]
  split
  · next hempty =>
    rw [Scheduler.next_of_isEmpty (Bool.and_eq_true_iff.mp hempty).1]
    exact ⟨rfl, rfl, none, by simp, .inr ⟨rfl, rfl⟩⟩
  · rw [EventStream.checkInputType_eq]
    exact ⟨rfl, rfl, _, rfl, .inl rfl⟩

/-- Events of an input. -/
def ofInput (inputId : DataId) (items : List EventItem) : List EventItem :=
  items.filter (·.queueId = inputId)

/-- The receiver gets the messages of the output in the order of sending, some perhaps not. -/
def InOrder (inputId : DataId) (s : State) : Prop := (ofInput inputId s.received).Sublist s.sent

/-- The receiver gets no message of the output more often than it was sent. -/
def AtMostOnce (inputId : DataId) (s : State) : Prop :=
  (ofInput inputId s.received).Subperm s.sent

/-- A message arrives only if no earlier one is under way on the other path. -/
def InTurn (s : State) : Event → Prop
  | .arrive path => ∀ message ∈ (s.underway path).head?, ∀ late ∈ s.underway path.other,
      message.1 < late.1
  | _ => True

instance (s : State) : (e : Event) → Decidable (InTurn s e)
  | .arrive path => inferInstanceAs (Decidable (∀ message ∈ (s.underway path).head?,
      ∀ late ∈ s.underway path.other, message.1 < late.1))
  | .send .. | .lose _ | .other _ | .recv => .isTrue True.intro

/-- State before the first message. -/
def start (sizes : AList fun _ : DataId => Nat)
    (queuePolicies : AList fun _ : DataId => QueuePolicy) : State where
  scheduler := Scheduler.init sizes queuePolicies

/-! ## What the receiver holds -/

section Held

variable {inputId : DataId} {s : State}

/-- Messages of the output that have arrived and were not dropped, in the order in which the
receiver gets them. -/
def State.held (inputId : DataId) (s : State) : List EventItem :=
  ofInput inputId s.received ++ s.scheduler.queueOf inputId ++ ofInput inputId s.channel

private theorem wf_drain {scheduler : Scheduler} (h : scheduler.WF) (items : List EventItem) :
    (items.foldl Scheduler.addEvent scheduler).WF := by
  induction items generalizing scheduler with
  | nil => exact h
  | cons item items ih => exact ih (h.addEvent item)

private theorem queueOf_drain {scheduler : Scheduler} (h : scheduler.WF) (items : List EventItem) :
    ((items.foldl Scheduler.addEvent scheduler).queueOf inputId).Sublist
      (scheduler.queueOf inputId ++ ofInput inputId items) := by
  induction items generalizing scheduler with
  | nil => simp [ofInput]
  | cons item items ih =>
    have hadd : ((scheduler.addEvent item).queueOf inputId).Sublist
        (scheduler.queueOf inputId ++ ofInput inputId [item]) := by
      have horder := Scheduler.step_order h (.addEvent item) inputId
      by_cases hitem : item.queueId = inputId <;>
        simpa [Scheduler.step, Scheduler.yieldedFor, Scheduler.addedFor, ofInput, hitem]
          using horder
    have hsplit : ofInput inputId (item :: items) =
        ofInput inputId [item] ++ ofInput inputId items := filter_append [item] items
    rw [hsplit, ← append_assoc]
    exact (ih (h.addEvent item)).trans (hadd.append_right _)

private theorem held_recv (h : s.scheduler.WF) :
    (s.recv.held inputId).Sublist (s.held inputId) := by
  obtain ⟨hnext, -⟩ := Scheduler.queueOf_next (wf_drain h s.channel) inputId
  set drained := s.channel.foldl Scheduler.addEvent s.scheduler with hdrained
  have hyielded : ofInput inputId drained.next.1.toList =
      Scheduler.yieldedFor inputId (.yielded drained.next.1) := by
    cases drained.next.1 with
    | none => rfl
    | some event =>
      by_cases hevent : event.queueId = inputId <;> simp [ofInput, Scheduler.yieldedFor, hevent]
  have hrecv : s.recv.held inputId =
      ofInput inputId s.received ++ drained.queueOf inputId := by
    rw [hnext, ← hyielded]
    simp [State.held, State.recv, ofInput, ← hdrained]
  rw [hrecv, State.held, append_assoc]
  exact (queueOf_drain h s.channel).append_left _

private theorem held_arrive (underway : Path → List (Nat × EventItem)) (item : EventItem) :
    State.held inputId { s with underway := underway, channel := s.channel ++ [item] } =
      s.held inputId ++ ofInput inputId [item] := by
  simp [State.held, ofInput]

end Held

/-! ## Order -/

section Order

variable {node : DoraNode} {outputId inputId : DataId} {s : State}
  {arrived : List (Nat × EventItem)}

/-- Messages that arrived, oldest first, were sent in this order, before all that are under way. -/
structure Ordered (inputId : DataId) (arrived : List (Nat × EventItem)) (s : State) : Prop where
  wf : s.scheduler.WF
  held : (s.held inputId).Sublist (arrived.map Prod.snd)
  sorted (path : Path) : (arrived ++ s.underway path).Pairwise (·.1 < ·.1)
  numbered (path : Path) : ∀ message ∈ arrived ++ s.underway path,
    s.sent[message.1]? = some message.2

private theorem Ordered.send (h : Ordered inputId arrived s) (sent : Sent) :
    Ordered inputId arrived { s with
      sent := s.sent ++ [sent.item inputId]
      underway := update s.underway (path sent)
        (s.underway (path sent) ++ [(s.sent.length, sent.item inputId)]) } := by
  have hearlier (path : Path) (message) (hmessage : message ∈ arrived ++ s.underway path) :
      message.1 < s.sent.length := (List.getElem?_eq_some_iff.mp (h.numbered path _ hmessage)).1
  refine ⟨h.wf, h.held, fun other => ?_, fun other message hmessage => ?_⟩
  · by_cases hother : other = path sent
    · subst hother
      simp only [update_self]
      rw [← append_assoc, pairwise_append]
      refine ⟨h.sorted _, pairwise_singleton _ _, fun message hmessage last hlast => ?_⟩
      rw [mem_singleton.mp hlast]
      exact hearlier _ message hmessage
    · simp only [update_of_ne hother]
      exact h.sorted other
  · have hcases : message ∈ arrived ++ s.underway other ∨
        message = (s.sent.length, sent.item inputId) := by
      by_cases hother : other = path sent
      · subst hother
        simp only [update_self] at hmessage
        rw [← append_assoc, mem_append, mem_singleton] at hmessage
        exact hmessage
      · simp only [update_of_ne hother] at hmessage
        exact .inl hmessage
    rcases hcases with hbefore | rfl
    · rw [getElem?_append_left (hearlier other message hbefore)]
      exact h.numbered other message hbefore
    · exact getElem?_concat_length

private theorem Ordered.arrive (h : Ordered inputId arrived s) {path : Path}
    {message : Nat × EventItem}
    {rest : List (Nat × EventItem)} (hpath : s.underway path = message :: rest)
    (hturn : InTurn s (.arrive path)) :
    Ordered inputId (arrived ++ [message]) { s with
      underway := update s.underway path rest
      channel := s.channel ++ [message.2] } := by
  have hsame : arrived ++ [message] ++ rest = arrived ++ s.underway path := by simp [hpath]
  have hlast : (arrived ++ [message]).Pairwise (·.1 < ·.1) :=
    (hsame ▸ h.sorted path).sublist (sublist_append_left _ rest)
  refine ⟨h.wf, ?_, fun other => ?_, fun other late hlate => ?_⟩
  · rw [held_arrive, map_append]
    exact h.held.append filter_sublist
  · by_cases hother : other = path
    · subst hother
      simp only [update_self, hsame]
      exact h.sorted other
    · simp only [update_of_ne hother]
      have hold := pairwise_append.mp (h.sorted other)
      refine pairwise_append.mpr ⟨hlast, hold.2.1, fun early hearly late hlate => ?_⟩
      rcases mem_append.mp hearly with hearly | hearly
      · exact hold.2.2 early hearly late hlate
      · rw [mem_singleton.mp hearly]
        exact hturn message (by rw [hpath]; rfl) late (Path.eq_other hother ▸ hlate)
  · by_cases hother : other = path
    · subst hother
      simp only [update_self, hsame] at hlate
      exact h.numbered other late hlate
    · simp only [update_of_ne hother, append_assoc, mem_append,
        mem_singleton] at hlate
      rcases hlate with hlate | rfl | hlate
      · exact h.numbered other late (mem_append_left _ hlate)
      · exact h.numbered path late (by simp [hpath])
      · exact h.numbered other late (mem_append_right _ hlate)

private theorem Ordered.lose (h : Ordered inputId arrived s) (path : Path) :
    Ordered inputId arrived
      { s with underway := update s.underway path (s.underway path).tail } := by
  have htail (other : Path) :
      (update s.underway path (s.underway path).tail other).Sublist
        (s.underway other) := by
    by_cases hother : other = path
    · subst hother
      rw [update_self]
      exact tail_sublist _
    · rw [update_of_ne hother]
  exact ⟨h.wf, h.held, fun other => (h.sorted other).sublist ((htail other).append_left arrived),
    fun other message hmessage =>
      h.numbered other message (((htail other).append_left arrived).subset hmessage)⟩

private theorem Ordered.step (h : ∃ arrived, Ordered inputId arrived s) {e : Event}
    (he : InTurn s e) :
    ∃ arrived, Ordered inputId arrived (PathOrder.step node outputId inputId s e).1 := by
  obtain ⟨arrived, h⟩ := h
  fun_cases PathOrder.step node outputId inputId s e with
  | case1 env typeInfo parameters sample sent => exact ⟨arrived, h.send sent⟩
  | case4 path message rest hpath => exact ⟨arrived ++ [message], h.arrive hpath he⟩
  | case5 path => exact ⟨arrived, h.lose path⟩
  | case7 item hitem =>
    refine ⟨arrived, h.wf, ?_, h.sorted, h.numbered⟩
    rw [held_arrive]
    simpa [ofInput, hitem] using h.held
  | case8 =>
    exact ⟨arrived, (wf_drain h.wf s.channel).next, (held_recv h.wf).trans h.held, h.sorted,
      h.numbered⟩
  | _ => exact ⟨arrived, h⟩

private theorem sublist_of_positions {entries : List (Nat × EventItem)} {items : List EventItem}
    (hsorted : entries.Pairwise (·.1 < ·.1))
    (hat : ∀ entry ∈ entries, items[entry.1]? = some entry.2) :
    (entries.map Prod.snd).Sublist items := by
  have hfrom (n : Nat) (hn : ∀ entry ∈ entries, n ≤ entry.1) :
      (entries.map Prod.snd).Sublist (items.drop n) := by
    induction entries generalizing n with
    | nil => exact nil_sublist _
    | cons entry entries ih =>
      obtain ⟨hfirst, hrest⟩ := pairwise_cons.mp hsorted
      obtain ⟨hlt, hitem⟩ := List.getElem?_eq_some_iff.mp (hat entry List.mem_cons_self)
      have htail := ih hrest (fun e he => hat e (mem_cons_of_mem _ he)) (entry.1 + 1) hfirst
      have hhere : ((entry :: entries).map Prod.snd).Sublist (items.drop entry.1) := by
        rw [drop_eq_getElem_cons hlt, hitem]
        exact htail.cons_cons _
      exact hhere.trans (drop_sublist_drop_left items (hn entry mem_cons_self))
  simpa using hfrom 0 (fun _ _ => Nat.zero_le _)

private theorem Ordered.inOrder (h : Ordered inputId arrived s) : InOrder inputId s := by
  have hreceived : (ofInput inputId s.received).Sublist (s.held inputId) := by
    rw [State.held, append_assoc]
    exact sublist_append_left _ _
  have harrived := sublist_append_left arrived (s.underway .daemon)
  exact (hreceived.trans h.held).trans (sublist_of_positions
    ((h.sorted .daemon).sublist harrived)
    fun entry hentry => h.numbered .daemon entry (harrived.subset hentry))

end Order

/-! ## Number of copies -/

section Copies

variable {node : DoraNode} {outputId inputId : DataId} {s : State}

private theorem Path.zenoh_ne_daemon : Path.zenoh ≠ Path.daemon := by decide

/-- What is held and what is under way was all sent. -/
structure Accounted (inputId : DataId) (s : State) : Prop where
  wf : s.scheduler.WF
  copies : (s.held inputId ++ (s.underway .daemon).map Prod.snd ++
    (s.underway .zenoh).map Prod.snd).Subperm s.sent

private theorem Accounted.send (h : Accounted inputId s) (sent : Sent) :
    Accounted inputId { s with
      sent := s.sent ++ [sent.item inputId]
      underway := update s.underway (path sent)
        (s.underway (path sent) ++ [(s.sent.length, sent.item inputId)]) } := by
  refine ⟨h.wf, ?_⟩
  have hadd := (subperm_append_right [sent.item inputId]).mpr h.copies
  cases hpath : path sent with
  | daemon =>
    refine List.Subperm.trans (List.Perm.subperm ?_) hadd
    simp only [update_self, update_of_ne Path.zenoh_ne_daemon, map_append,
      append_assoc]
    exact (perm_append_comm.append_left _).append_left _
  | zenoh => simpa [State.held] using hadd

private theorem Accounted.arrive (h : Accounted inputId s) {path : Path} {message : Nat × EventItem}
    {rest : List (Nat × EventItem)} (hpath : s.underway path = message :: rest) :
    Accounted inputId { s with
      underway := update s.underway path rest
      channel := s.channel ++ [message.2] } := by
  refine ⟨h.wf, List.Subperm.trans ?_ h.copies⟩
  have hkept : (ofInput inputId [message.2]).Sublist [message.2] := filter_sublist
  rw [held_arrive]
  cases path with
  | daemon =>
    simp only [hpath, update_self, update_of_ne Path.zenoh_ne_daemon,
      map_cons, append_assoc]
    exact ((hkept.append_right _).append_left _).subperm
  | zenoh =>
    simp only [hpath, update_self, update_of_ne Path.zenoh_ne_daemon.symm,
      map_cons, append_assoc]
    have hmoved : (message.2 :: ((s.underway .daemon).map Prod.snd ++ rest.map Prod.snd)).Perm
        ((s.underway .daemon).map Prod.snd ++ message.2 :: rest.map Prod.snd) :=
      perm_middle.symm
    exact ((hkept.append_right _).append_left _).subperm.trans (hmoved.append_left _).subperm

private theorem Accounted.lose (h : Accounted inputId s) (path : Path) :
    Accounted inputId
      { s with underway := update s.underway path (s.underway path).tail } := by
  refine ⟨h.wf, List.Subperm.trans (List.Sublist.subperm ?_) h.copies⟩
  cases path with
  | daemon => exact ((((tail_sublist _).map _).append_left _).append_right _)
  | zenoh => exact ((tail_sublist _).map _).append_left _

private theorem Accounted.step (h : Accounted inputId s) (e : Event) :
    Accounted inputId (PathOrder.step node outputId inputId s e).1 := by
  fun_cases PathOrder.step node outputId inputId s e with
  | case1 env typeInfo parameters sample sent => exact h.send sent
  | case4 path message rest hpath => exact h.arrive hpath
  | case5 path => exact h.lose path
  | case7 item hitem =>
    refine ⟨h.wf, ?_⟩
    rw [held_arrive]
    simpa [ofInput, hitem] using h.copies
  | case8 =>
    exact ⟨(wf_drain h.wf s.channel).next,
      (((held_recv h.wf).append_right _).append_right _).subperm.trans h.copies⟩
  | _ => exact h

private theorem Accounted.atMostOnce (h : Accounted inputId s) : AtMostOnce inputId s := by
  refine List.Subperm.trans (List.Sublist.subperm ?_) h.copies
  simp only [State.held, append_assoc]
  exact sublist_append_left _ _

end Copies

/-- No message is received twice. In every run in which no message arrives while an earlier one
is under way on the other path, the receiver gets the messages of the output in the order in
which they were sent. -/
theorem receives_of_inTurn (node : DoraNode) (outputId inputId : DataId)
    (sizes : AList fun _ : DataId => Nat) (queuePolicies : AList fun _ : DataId => QueuePolicy)
    (events : List Event) :
    let final := (Machine.run (step node outputId inputId) (start sizes queuePolicies) events).1
    AtMostOnce inputId final ∧
      (Machine.Along (step node outputId inputId) InTurn (start sizes queuePolicies) events →
        InOrder inputId final) := by
  have hqueue := Scheduler.queueOf_init sizes queuePolicies inputId
  refine ⟨?_, fun h => ?_⟩
  · have hstart : Accounted inputId (start sizes queuePolicies) :=
      ⟨Scheduler.wf_init sizes queuePolicies, by simp [State.held, start, ofInput, hqueue]⟩
    exact (Machine.always (step node outputId inputId) (Accounted inputId)
      (fun _ e hs => hs.step e) hstart events).atMostOnce
  · have hstart : Ordered inputId [] (start sizes queuePolicies) :=
      ⟨Scheduler.wf_init sizes queuePolicies, by simp [State.held, start, ofInput, hqueue],
        fun _ => List.Pairwise.nil, by simp [start]⟩
    obtain ⟨arrived, hfinal⟩ := Machine.invariant (step node outputId inputId)
      (fun s => ∃ arrived, Ordered inputId arrived s) (fun _ _ hs he => Ordered.step hs he) _ events
      ⟨[], hstart⟩ h
    exact hfinal.inOrder

/-! ## A large message and a small one -/

/-- Identifier of the sample output and input. -/
def scene : DataId := ⟨"scene", by decide⟩

/-- Node with a zenoh session and the default threshold. -/
def sender : DoraNode where
  outputs := [scene]
  outputFraming := ∅
  zenohSession := true

/-- The node sends the given number of bytes. -/
def sendBytes (size : Nat) : Event :=
  .send { timestamp := ⟨0, 0⟩, allocateSharedMemory := fun _ => .error "no shared memory" }
    ⟨.null, 0, 0, none, 0, [], [], none, none⟩ ∅ (some (.vec (List.replicate size 0)))

/-- The receiver's only input, with the default queue size. -/
def sceneQueue : AList fun _ : DataId => Nat := AList.singleton scene 10

/-- The large message arrives first. -/
def largeFirst : List Event :=
  [sendBytes 5000, sendBytes 8, .arrive .zenoh, .arrive .daemon, .recv, .recv]

/-- The small message overtakes the large one. -/
def smallFirst : List Event :=
  [sendBytes 5000, sendBytes 8, .arrive .daemon, .arrive .zenoh, .recv, .recv]

private def isZenohInput : EventItem → Bool
  | .zenohInput .. => true
  | _ => false

/-- The large message arrives first. -/
theorem inOrder_largeFirst :
    InOrder scene (Machine.run (step sender scene scene) (start sceneQueue ∅) largeFirst).1 :=
  (receives_of_inTurn sender scene scene sceneQueue ∅ largeFirst).2 (by decide +kernel)

/-- The small message overtakes the large one. -/
theorem not_inOrder_smallFirst :
    ¬InOrder scene (Machine.run (step sender scene scene) (start sceneQueue ∅) smallFirst).1 := by
  intro h
  have hkinds := h.map isZenohInput
  revert hkinds
  decide +kernel

end DoraSpec.Node.PathOrder
