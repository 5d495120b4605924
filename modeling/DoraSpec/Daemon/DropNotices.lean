import DoraSpec.Daemon.DropTokens

/-!
# When the owner of a region is told

The daemon counts receiving nodes, not copies, and it does not notice that a receiver has gone
without giving back its tokens. Apart from that the owner of a message is told once, when no copy
of the message is out any more.
-/

namespace DoraSpec.Daemon.DropTokens
open Base Message State List
open Node (DataMessage)

variable {s : State} {token : DropToken} {owner node : NodeId} {data : Option DataMessage}
  {t : DropToken} {key : InputKey}

/-- Nodes that were told that the message is dropped. -/
def State.notices (s : State) (token : DropToken) : List NodeId :=
  (s.told.filter (·.2 = token)).map Prod.fst

/-- The owner of each message has been told once if no copy is out, and nobody otherwise. -/
def Exact (s : State) : Prop :=
  ∀ token, ∀ owner ∈ s.owners token,
    s.notices token = if s.copies token = [] then [owner] else []

/-- The node hears of dropped outputs. -/
def State.Listens (s : State) (node : NodeId) : Prop :=
  ∃ channel ∈ s.dropChannels node, channel.closed = false

/-- A message with a token goes to at most one input of each subscribed node, comes from a node that
hears of dropped outputs, and can be copied for other daemons. A token is given back while its owner
still listens. No receiver ends with a copy. -/
def Proper (s : State) : Event → Prop
  | .sendOut output data needDataBytes region => (data.bind dropToken).isSome →
    ((s.mappings output).map Prod.fst |>.filter fun n => (s.subscribeChannels n).isSome).Nodup ∧
      s.Listens output.1 ∧ mapError needDataBytes region data = none
  | .reportDrop _ tokens => ∀ token ∈ tokens, ∀ owner ∈ s.owners token, s.Listens owner
  | .gone node => ∀ token, node ∉ s.copies token
  | _ => True

/-! ## Accounts -/

private structure Account where
  owner : Option NodeId
  copies : List NodeId
  pending : Option DropTokenInformation
  notices : List NodeId

private def State.account (s : State) (token : DropToken) : Account :=
  ⟨s.owners token, s.copies token, s.pendingDropTokens token, s.notices token⟩

private structure Account.Tracks (a : Account) (owner : NodeId) : Prop where
  nodup : a.copies.Nodup
  pending : a.pending = if a.copies = [] then none else some ⟨owner, a.copies.toFinset⟩

private structure Account.Sound (a : Account) : Prop where
  sent : ∀ owner ∈ a.owner,
    a.Tracks owner ∧ a.notices = if a.copies = [] then [owner] else []
  unsent : a.owner = none → a.copies = [] ∧ a.pending = none ∧ a.notices = []

private def Inv (s : State) : Prop := ∀ token, (s.account token).Sound

private theorem Inv.exact (h : Inv s) : Exact s := fun token owner ho => ((h token).sent owner ho).2

private theorem Inv.of_account {s' : State} (h : Inv s) (ha : ∀ t, s'.account t = s.account t) :
    Inv s' := fun t => ha t ▸ h t

/-! ## Telling the owner -/

private theorem checkDropToken_account_ne (h : t ≠ token) :
    (s.checkDropToken token).account t = s.account t := by
  fun_cases checkDropToken s token with
  | case1 | case5 => rfl
  | _ => simp +zetaDelta [account, notices, h, h.symm]

/-- The owner of a token that nobody holds is told. -/
theorem checkDropToken_of_empty (hp : s.pendingDropTokens token = some ⟨owner, ∅⟩)
    (hl : s.Listens owner) : s.checkDropToken token =
      { s with
        pendingDropTokens := Function.update s.pendingDropTokens token none
        told := s.told ++ [(owner, token)] } := by
  obtain ⟨channel, hc, hopen⟩ := hl
  simp only [Option.mem_def] at hc
  simp [checkDropToken, hp, hc, hopen]

/-- A token that is held is kept. -/
theorem checkDropToken_of_nonempty {nodes : Finset NodeId}
    (hp : s.pendingDropTokens token = some ⟨owner, nodes⟩) (hne : nodes ≠ ∅) :
    s.checkDropToken token = s := by
  simp [checkDropToken, hp, hne]

private theorem checkDropToken_sound (ho : s.owners token = some owner)
    (hnodup : (s.copies token).Nodup) (hn : s.notices token = [])
    (hp : s.pendingDropTokens token = some ⟨owner, (s.copies token).toFinset⟩)
    (hl : s.Listens owner) : ((s.checkDropToken token).account token).Sound := by
  by_cases hc : s.copies token = []
  · rw [checkDropToken_of_empty (by simpa [hc] using hp) hl]
    refine ⟨fun o h => ?_, fun h => by simp [account, ho] at h⟩
    obtain rfl : owner = o := by simpa [account, ho] using h
    have hn' : (s.told.filter (·.2 = token)) = [] := by simpa [notices] using hn
    exact ⟨⟨hnodup, by simp [account, hc]⟩, by simp [account, notices, hc, hn']⟩
  · rw [checkDropToken_of_nonempty hp (by simpa using hc)]
    refine ⟨fun o h => ?_, fun h => by simp [account, ho] at h⟩
    obtain rfl : owner = o := by simpa [account, ho] using h
    exact ⟨⟨hnodup, by simp [account, hc, hp]⟩, by simp [account, hc, hn]⟩

/-! ## Giving back a token -/

private theorem Inv.copies_of_not_pending (h : Inv s) (hp : s.pendingDropTokens token = none) :
    s.copies token = [] := by
  cases ho : s.owners token with
  | none => exact ((h token).unsent ho).1
  | some owner =>
    have := ((h token).sent owner ho).1.pending
    by_contra hc
    simp [account, hc, hp] at this

private theorem Inv.of_pending (h : Inv s) {info : DropTokenInformation}
    (hp : s.pendingDropTokens token = some info) :
    s.owners token = some info.owner ∧ (s.copies token).Nodup ∧ s.notices token = [] ∧
      info.pendingNodes = (s.copies token).toFinset := by
  cases ho : s.owners token with
  | none => simpa [account, hp] using ((h token).unsent ho).2.1
  | some owner =>
    obtain ⟨⟨hnodup, hpending⟩, hn⟩ := (h token).sent owner ho
    simp only [account, hp] at hnodup hpending hn
    split at hpending
    · cases hpending
    · next hc =>
      obtain rfl := Option.some.inj hpending
      exact ⟨rfl, hnodup, by simpa [hc] using hn, rfl⟩

private theorem Inv.reportToken (h : Inv s) (hl : ∀ owner ∈ s.owners token, s.Listens owner) :
    Inv (s.reportToken node token) := by
  unfold State.reportToken
  dsimp only
  split
  · next hp =>
    -- a token that is not awaited has no copies
    refine h.of_account fun t => ?_
    by_cases ht : t = token
    · subst ht
      simp [account, notices, h.copies_of_not_pending hp]
    · simp [account, notices, ht]
  · next info hp =>
    obtain ⟨ho, hnodup, hn, hnodes⟩ := h.of_pending hp
    split
    · next hnode =>
      intro t
      by_cases ht : t = token
      · subst ht
        have hleft : (s.copies t).toFinset.erase node = ((s.copies t).erase node).toFinset := by
          ext n
          simp [hnodup.mem_erase_iff]
        refine checkDropToken_sound ho ?_ hn ?_ (hl _ ho)
        · simpa using hnodup.erase node
        · simp [hnodes, hleft]
      · rw [checkDropToken_account_ne ht]
        simpa [account, notices, ht] using h t
    · next hnode =>
      refine h.of_account fun t => ?_
      have : node ∉ s.copies token := by simpa [hnodes] using hnode
      by_cases ht : t = token
      · subst ht
        simp [account, notices, erase_of_not_mem this]
      · simp [account, notices, ht]

/-- Owners and channels are kept. -/
theorem checkDropToken_frame (s : State) (token : DropToken) :
    (s.checkDropToken token).owners = s.owners ∧
      (s.checkDropToken token).dropChannels = s.dropChannels := by
  fun_cases checkDropToken s token <;> exact ⟨rfl, rfl⟩

private theorem reportToken_frame (s : State) (node : NodeId) (token : DropToken) :
    (s.reportToken node token).owners = s.owners ∧
      (s.reportToken node token).dropChannels = s.dropChannels := by
  fun_cases reportToken node s token with
  | case2 => exact checkDropToken_frame _ token
  | _ => exact ⟨rfl, rfl⟩

private theorem Inv.reportDrop (h : Inv s) (tokens : List DropToken)
    (hl : ∀ token ∈ tokens, ∀ owner ∈ s.owners token, s.Listens owner) :
    Inv (tokens.foldl (State.reportToken node) s) := by
  induction tokens generalizing s with
  | nil => exact h
  | cons token tokens ih =>
    refine ih (h.reportToken (hl token mem_cons_self)) fun t ht => ?_
    obtain ⟨howners, hchannels⟩ := reportToken_frame s node token
    simpa only [State.Listens, howners, hchannels] using hl t (mem_cons_of_mem token ht)

/-! ## Sending a message -/

private theorem delivered_account_ne {channel : EventChannel} (h : data.bind dropToken ≠ some t) :
    (s.delivered owner data key channel).account t = s.account t := by
  unfold delivered
  dsimp only
  split
  · next token ht =>
    have : t ≠ token := fun e => h (e ▸ ht)
    simp [awaitDrop, account, notices, this]
  · rfl

private theorem deliver_cases (owner : NodeId) (data : Option DataMessage)
    (acc : State × List NodeId) (key : InputKey) :
    (deliver owner data acc key).1 = acc.1 ∨
      (acc.1.subscribeChannels key.1).isSome ∧
        ∃ channel, (deliver owner data acc key).1 = acc.1.delivered owner data key channel := by
  fun_cases deliver owner data acc key with
  | case3 channel hc _ channel' => exact .inr ⟨by simp [hc], channel', rfl⟩
  | _ => exact .inl rfl

private theorem foldl_deliver_account_ne (owner : NodeId) (acc : State × List NodeId)
    (keys : List InputKey)
    (h : data.bind dropToken ≠ some t) :
    (keys.foldl (deliver owner data) acc).1.account t = acc.1.account t := by
  induction keys generalizing acc with
  | nil => rfl
  | cons key keys ih =>
    rw [foldl_cons, ih]
    obtain he | ⟨-, channel, he⟩ := deliver_cases owner data acc key
    · rw [he]
    · rw [he, delivered_account_ne h]

private structure Underway (s : State) (token : DropToken) (owner : NodeId) : Prop where
  sent : s.owners token = some owner
  listens : s.Listens owner
  tracks : (s.account token).Tracks owner
  unnoticed : s.notices token = []

private theorem Underway.delivered (h : Underway s token owner) {channel : EventChannel}
    (ht : data.bind dropToken = some token) (hk : key.1 ∉ s.copies token) :
    Underway (s.delivered owner data key channel) token owner := by
  simp only [State.delivered, ht]
  refine ⟨h.sent, h.listens, ⟨?_, ?_⟩, h.unnoticed⟩
  · simpa [account, awaitDrop, hk] using h.tracks.nodup
  · have := h.tracks.pending
    simp only [account] at this
    simp only [account, awaitDrop, this]
    by_cases hc : s.copies token = [] <;> simp [hc]

private def State.subscribed (s : State) (node : NodeId) : Bool :=
  (s.subscribeChannels node).isSome

private theorem delivered_subscribed (hk : (s.subscribeChannels key.1).isSome)
    (channel : EventChannel) :
    (s.delivered owner data key channel).subscribed = s.subscribed := by
  funext n
  by_cases hn : n = key.1
  · subst hn
    unfold delivered
    dsimp only
    split <;> simp [awaitDrop, subscribed, hk]
  · unfold delivered
    dsimp only
    split <;> simp [awaitDrop, subscribed, hn]

private theorem delivered_copies (ht : data.bind dropToken = some token) (key : InputKey)
    (channel : EventChannel) :
    (s.delivered owner data key channel).copies token = key.1 :: s.copies token := by
  simp [delivered, ht, awaitDrop]

private theorem Underway.foldl_deliver (ht : data.bind dropToken = some token)
    (keys : List InputKey) (acc : State × List NodeId) (h : Underway acc.1 token owner)
    (hnodup : ((keys.map Prod.fst).filter acc.1.subscribed).Nodup)
    (hfresh : ∀ n ∈ acc.1.copies token, n ∉ (keys.map Prod.fst).filter acc.1.subscribed) :
    Underway (keys.foldl (deliver owner data) acc).1 token owner := by
  induction keys generalizing acc with
  | nil => exact h
  | cons key keys ih =>
    rw [foldl_cons]
    obtain he | ⟨hs, channel, he⟩ := deliver_cases owner data acc key
    · have hsub : ((keys.map Prod.fst).filter acc.1.subscribed).Sublist
          (((key :: keys).map Prod.fst).filter acc.1.subscribed) :=
        (sublist_cons_self _ _).filter _
      refine ih _ (he ▸ h) (he ▸ hnodup.sublist hsub) ?_
      rw [he]
      exact fun n hn hm => hfresh n hn (hsub.subset hm)
    · have hcons : ((key :: keys).map Prod.fst).filter acc.1.subscribed =
          key.1 :: (keys.map Prod.fst).filter acc.1.subscribed :=
        filter_cons_of_pos hs
      rw [hcons] at hnodup hfresh
      obtain ⟨hkey, hkeys⟩ := nodup_cons.mp hnodup
      refine ih _ ?_ ?_ ?_
      · rw [he]
        exact h.delivered ht fun hk => hfresh _ hk mem_cons_self
      · rwa [he, delivered_subscribed hs]
      · rw [he, delivered_subscribed hs, delivered_copies ht]
        rintro n (_ | ⟨_, hn⟩) hm
        · exact hkey hm
        · exact hfresh n hn (mem_cons_of_mem _ hm)

private theorem Underway.registerToken (h : Underway s token owner) :
    ((s.registerToken owner token).account token).Sound := by
  have hp : (s.pendingDropTokens token).getD { owner } = ⟨owner, (s.copies token).toFinset⟩ := by
    have := h.tracks.pending
    simp only [account] at this
    by_cases hc : s.copies token = [] <;> simp [this, hc]
  exact checkDropToken_sound h.sent h.tracks.nodup h.unnoticed (by simp [hp]) h.listens

private theorem registerToken_account_ne (h : t ≠ token) :
    (s.registerToken owner token).account t = s.account t := by
  rw [registerToken, checkDropToken_account_ne h]
  simp [account, notices, h]

private theorem removeClosed_account (closed : List NodeId) (t : DropToken) :
    (s.removeClosed closed).account t = s.account t := rfl

private theorem Inv.sendWithoutToken (h : Inv s) (ht : data.bind dropToken = none)
    (output : OutputId) (needDataBytes : Bool) (region : Option Nat) :
    Inv (s.sendOutputToLocalReceivers output data needDataBytes region) := by
  refine h.of_account fun t => ?_
  have hne : data.bind dropToken ≠ some t := by simp [ht]
  have hloop := foldl_deliver_account_ne output.1 (s, []) (s.mappings output) hne
  unfold sendOutputToLocalReceivers
  dsimp only
  split
  · exact hloop
  · rw [ht]
    exact hloop

private theorem Inv.sendWithToken (h : Inv s) (ht : data.bind dropToken = some token)
    (hnew : s.owners token = none) {output : OutputId} {needDataBytes : Bool} {region : Option Nat}
    (hp : Proper s (.sendOut output data needDataBytes region)) :
    Inv ({ s with owners := Function.update s.owners token (some output.1)
      }.sendOutputToLocalReceivers output data needDataBytes region) := by
  obtain ⟨hnodup, hlistens, hmap⟩ := hp (by simp [ht])
  obtain ⟨hcopies, hpending, hnotices⟩ := (h token).unsent hnew
  simp only [account] at hcopies hpending hnotices
  unfold sendOutputToLocalReceivers
  simp only [hmap, ht]
  intro t
  by_cases he : t = token
  · subst he
    have hstart : Underway { s with owners := Function.update s.owners t (some output.1) } t
        output.1 :=
      ⟨by simp, hlistens, ⟨by simp [account, hcopies],
        by simp [account, hcopies, hpending]⟩, hnotices⟩
    have hloop := hstart.foldl_deliver ht (s.mappings output) (_, []) hnodup (by simp [hcopies])
    exact Underway.registerToken ⟨hloop.sent, hloop.listens, hloop.tracks, hloop.unnoticed⟩
  · have hne : data.bind dropToken ≠ some t := by simpa [ht] using Ne.symm he
    have howner : account { s with owners := Function.update s.owners token (some output.1) } t =
        s.account t := by
      simp [account, notices, he]
    rw [registerToken_account_ne he, removeClosed_account, foldl_deliver_account_ne _ _ _ hne,
      howner]
    exact h t

/-! ## Whole runs -/

private theorem Inv.transition (h : Inv s) {e : Event} (hp : Proper s e) :
    Inv (transition s e) := by
  cases e with
  | addMapping output key =>
    simp only [DropTokens.transition]
    split <;> exact h
  | sendOut output data needDataBytes region =>
    simp only [DropTokens.transition]
    split
    · next ht => exact h.sendWithoutToken ht output needDataBytes region
    · next token ht =>
      split
      · exact h
      · next hnew => exact h.sendWithToken ht (by simpa using hnew) hp
  | reportDrop node tokens => exact h.reportDrop tokens hp
  | gone node =>
    refine h.of_account fun t => ?_
    have : (s.copies t).filter (· ≠ node) = s.copies t := by
      rw [filter_eq_self]
      rintro n hn
      simpa using fun e : n = node => hp t (e ▸ hn)
    simp only [DropTokens.transition, account]
    rw [this]
    rfl
  | removeMapping | subscribe | subscribeDrop | eventStreamDropped | outputsDone | removeNode
  | inputTimeout | control | receive => exact h

/-- Proper runs: the owner of a message is told once, when all copies are given back. -/
theorem exact_of_proper (events : List Event) (h : Machine.Along step Proper {} events) :
    Exact (Machine.run step {} events).1 := by
  refine Inv.exact (Machine.invariant step Inv (fun s e hs hp => ?_) {} events ?_ h)
  · simp only [step]
    split
    · exact hs
    · exact hs.transition hp
  · exact fun _ => ⟨fun _ ho => by simp [account] at ho, fun _ => ⟨rfl, rfl, rfl⟩⟩

/-- Output of the node `camera`. -/
def image : OutputId := (⟨"camera"⟩, ⟨"picture", by decide⟩)

def leftInput : DataId := ⟨"left", by decide⟩

def rightInput : DataId := ⟨"right", by decide⟩

/-- Message of `camera` that goes to the two given inputs. -/
def sendImage (a b : InputKey) : List Event :=
  [.subscribeDrop image.1, .subscribe a.1, .subscribe b.1, .addMapping image a, .addMapping image b,
    .sendOut image (some (.sharedMemory "shm" 4096 7)) false none]

/-- Two nodes get the message and give it back. -/
theorem twoReceivers_exact : Exact (Machine.run step {}
    (sendImage (⟨"viewer"⟩, leftInput) (⟨"logger"⟩, rightInput) ++
      [.reportDrop ⟨"viewer"⟩ [7], .reportDrop ⟨"logger"⟩ [7]])).1 := by
  refine exact_of_proper _ ⟨trivial, trivial, trivial, trivial, trivial, fun _ => ?_, ?_, ?_, trivial⟩
  · exact ⟨by decide, ⟨{}, rfl, rfl⟩, rfl⟩
  all_goals
    rintro token ht owner ho
    obtain rfl : token = 7 := by simpa using ht
    obtain rfl : image.1 = owner := Option.some.inj ho
    exact ⟨{}, rfl, rfl⟩

/-- A node gets the message on two inputs. When it gives back the first copy the owner is told,
although the other copy is still out. -/
theorem twoInputs_not_exact : ¬ Exact (Machine.run step {}
    (sendImage (⟨"viewer"⟩, leftInput) (⟨"viewer"⟩, rightInput) ++
      [.reportDrop ⟨"viewer"⟩ [7]])).1 := by
  intro h
  have := h 7 image.1 rfl
  exact absurd this (by decide)

end DoraSpec.Daemon.DropTokens
