import DoraSpec.Daemon.DropTokens

/-!
# What is left of a removed node

Source `binaries/daemon/src/lib.rs:1546-1781` and `running_dataflow.rs:177-222`: the tables of a
running dataflow before and after a node is added or removed. Channels and counters are represented
by the nodes that have one.
-/

namespace DoraSpec.Daemon
open Message List
open DropTokens (DropToken DropTokenInformation)

/-- Tables that name nodes; `running_dataflow.rs:177-222`. -/
@[ext]
structure NodeTables extends RunningDataflow where
  subscribeChannels : Finset NodeId := ∅
  pendingMessages : Finset NodeId := ∅
  dropChannels : Finset NodeId := ∅
  pendingDropTokens : DropToken → Option DropTokenInformation := fun _ => none

namespace NodeTables

/-- Tables after a new node was spawned; `lib.rs:1614-1721`. -/
def addNode (t : NodeTables) (node : ResolvedNode) (inputs : Inputs) : NodeTables :=
  { t with toRunningDataflow := t.toRunningDataflow.addNode node inputs }

/-- Tables after a node was removed; `lib.rs:1743-1777`. -/
def removeNode (t : NodeTables) (nodeId : NodeId) : NodeTables :=
  { t with
    toRunningDataflow := t.toRunningDataflow.removeNode nodeId
    subscribeChannels := t.subscribeChannels.erase nodeId
    dropChannels := t.dropChannels.erase nodeId
    pendingMessages := t.pendingMessages.erase nodeId }

/-- The region of the token belongs to the node or waits for it. -/
def TokenNames (t : NodeTables) (nodeId : NodeId) (token : DropToken) : Prop :=
  ∃ info, t.pendingDropTokens token = some info ∧
    (info.owner = nodeId ∨ nodeId ∈ info.pendingNodes)

/-- No table has an entry for the node. -/
structure Absent (t : NodeTables) (nodeId : NodeId) : Prop where
  mappings : ∀ m ∈ t.mappings, m.1.1 ≠ nodeId ∧ m.2.1 ≠ nodeId
  timers : ∀ e ∈ t.timers, e.2.1 ≠ nodeId
  logSubscribers : ∀ e ∈ t.logSubscribers, e.1.1 ≠ nodeId
  openInputs : ∀ key ∈ t.openInputs, key.1 ≠ nodeId
  inputDeadlines : ∀ key, key.1 = nodeId → t.inputDeadlines key = none
  brokenInputs : ∀ key ∈ t.brokenInputs, key.1 ≠ nodeId
  runningNodes : nodeId ∉ t.runningNodes
  pendingNodes : nodeId ∉ t.pendingNodes
  dynamicNodes : nodeId ∉ t.dynamicNodes
  pendingDropTokens : ∀ token, ¬ t.TokenNames nodeId token
  subscribeChannels : nodeId ∉ t.subscribeChannels
  pendingMessages : nodeId ∉ t.pendingMessages
  dropChannels : nodeId ∉ t.dropChannels
  descriptor : ∀ node ∈ t.descriptor, node.id ≠ nodeId

variable {nodeId : NodeId} {t : NodeTables} {key : InputKey}

/-- The tables differ in entries for the node only. -/
structure SameElsewhere (nodeId : NodeId) (t t' : NodeTables) : Prop where
  mappings : ∀ m : OutputId × InputKey, m.1.1 ≠ nodeId → m.2.1 ≠ nodeId →
    (m ∈ t'.mappings ↔ m ∈ t.mappings)
  timers : ∀ e : Duration × InputKey, e.2.1 ≠ nodeId → (e ∈ t'.timers ↔ e ∈ t.timers)
  logSubscribers : t'.logSubscribers.filter (·.1.1 ≠ nodeId) =
    t.logSubscribers.filter (·.1.1 ≠ nodeId)
  openInputs : ∀ key : InputKey, key.1 ≠ nodeId → (key ∈ t'.openInputs ↔ key ∈ t.openInputs)
  inputDeadlines : ∀ key : InputKey, key.1 ≠ nodeId → t'.inputDeadlines key = t.inputDeadlines key
  brokenInputs : ∀ key : InputKey, key.1 ≠ nodeId → (key ∈ t'.brokenInputs ↔ key ∈ t.brokenInputs)
  runningNodes : ∀ n, n ≠ nodeId → (n ∈ t'.runningNodes ↔ n ∈ t.runningNodes)
  pendingNodes : ∀ n, n ≠ nodeId → (n ∈ t'.pendingNodes ↔ n ∈ t.pendingNodes)
  dynamicNodes : ∀ n, n ≠ nodeId → (n ∈ t'.dynamicNodes ↔ n ∈ t.dynamicNodes)
  pendingDropTokens : ∀ token, ¬ t'.TokenNames nodeId token →
    t'.pendingDropTokens token = t.pendingDropTokens token
  subscribeChannels : ∀ n, n ≠ nodeId → (n ∈ t'.subscribeChannels ↔ n ∈ t.subscribeChannels)
  pendingMessages : ∀ n, n ≠ nodeId → (n ∈ t'.pendingMessages ↔ n ∈ t.pendingMessages)
  dropChannels : ∀ n, n ≠ nodeId → (n ∈ t'.dropChannels ↔ n ∈ t.dropChannels)
  descriptor : t'.descriptor.filter (·.id ≠ nodeId) = t.descriptor.filter (·.id ≠ nodeId)

private theorem SameElsewhere.trans {t' t'' : NodeTables} (h : SameElsewhere nodeId t t')
    (h' : SameElsewhere nodeId t' t'') :
    SameElsewhere nodeId t t'' where
  mappings := fun m h₁ h₂ => (h'.mappings m h₁ h₂).trans (h.mappings m h₁ h₂)
  timers := fun e he => (h'.timers e he).trans (h.timers e he)
  logSubscribers := h'.logSubscribers.trans h.logSubscribers
  openInputs := fun key hk => (h'.openInputs key hk).trans (h.openInputs key hk)
  inputDeadlines := fun key hk => (h'.inputDeadlines key hk).trans (h.inputDeadlines key hk)
  brokenInputs := fun key hk => (h'.brokenInputs key hk).trans (h.brokenInputs key hk)
  runningNodes := fun n hn => (h'.runningNodes n hn).trans (h.runningNodes n hn)
  pendingNodes := fun n hn => (h'.pendingNodes n hn).trans (h.pendingNodes n hn)
  dynamicNodes := fun n hn => (h'.dynamicNodes n hn).trans (h.dynamicNodes n hn)
  pendingDropTokens := by
    intro token hnot
    have heq := h'.pendingDropTokens token hnot
    refine heq.trans (h.pendingDropTokens token ?_)
    simpa only [TokenNames, heq] using hnot
  subscribeChannels := fun n hn => (h'.subscribeChannels n hn).trans (h.subscribeChannels n hn)
  pendingMessages := fun n hn => (h'.pendingMessages n hn).trans (h.pendingMessages n hn)
  dropChannels := fun n hn => (h'.dropChannels n hn).trans (h.dropChannels n hn)
  descriptor := h'.descriptor.trans h.descriptor

private theorem eq_of_iff_ne {α : Type} {s t : Finset α} (f : α → NodeId)
    (h : ∀ a, f a ≠ nodeId → (a ∈ s ↔ a ∈ t)) (hs : ∀ a ∈ s, f a ≠ nodeId)
    (ht : ∀ a ∈ t, f a ≠ nodeId) : s = t := by
  ext a
  exact ⟨fun ha => (h a (hs a ha)).mp ha, fun ha => (h a (ht a ha)).mpr ha⟩

private theorem ne_of_notMem {s : Finset NodeId} (h : nodeId ∉ s) :
    ∀ n ∈ s, n ≠ nodeId :=
  fun _ hn heq => h (heq ▸ hn)

private theorem SameElsewhere.eq {t' : NodeTables} (h : SameElsewhere nodeId t t') (ht : t.Absent nodeId)
    (ht' : t'.Absent nodeId) : t' = t := by
  apply NodeTables.ext
  case descriptor =>
    have hd := h.descriptor
    rwa [filter_eq_self.mpr (by simpa using ht'.descriptor),
      filter_eq_self.mpr (by simpa using ht.descriptor)] at hd
  case logSubscribers =>
    have hl := h.logSubscribers
    rwa [filter_eq_self.mpr (by simpa using ht'.logSubscribers),
      filter_eq_self.mpr (by simpa using ht.logSubscribers)] at hl
  case mappings =>
    ext m
    exact ⟨fun hm => (h.mappings m (ht'.mappings m hm).1 (ht'.mappings m hm).2).mp hm,
      fun hm => (h.mappings m (ht.mappings m hm).1 (ht.mappings m hm).2).mpr hm⟩
  case timers => exact eq_of_iff_ne (·.2.1) h.timers ht'.timers ht.timers
  case openInputs => exact eq_of_iff_ne (·.1) h.openInputs ht'.openInputs ht.openInputs
  case brokenInputs => exact eq_of_iff_ne (·.1) h.brokenInputs ht'.brokenInputs ht.brokenInputs
  case inputDeadlines =>
    funext key
    by_cases hkey : key.1 = nodeId
    · rw [ht.inputDeadlines key hkey, ht'.inputDeadlines key hkey]
    · exact h.inputDeadlines key hkey
  case pendingDropTokens =>
    funext token
    exact h.pendingDropTokens token (ht'.pendingDropTokens token)
  case runningNodes =>
    exact eq_of_iff_ne id h.runningNodes (ne_of_notMem ht'.runningNodes)
      (ne_of_notMem ht.runningNodes)
  case pendingNodes =>
    exact eq_of_iff_ne id h.pendingNodes (ne_of_notMem ht'.pendingNodes)
      (ne_of_notMem ht.pendingNodes)
  case dynamicNodes =>
    exact eq_of_iff_ne id h.dynamicNodes (ne_of_notMem ht'.dynamicNodes)
      (ne_of_notMem ht.dynamicNodes)
  case subscribeChannels =>
    exact eq_of_iff_ne id h.subscribeChannels (ne_of_notMem ht'.subscribeChannels)
      (ne_of_notMem ht.subscribeChannels)
  case pendingMessages =>
    exact eq_of_iff_ne id h.pendingMessages (ne_of_notMem ht'.pendingMessages)
      (ne_of_notMem ht.pendingMessages)
  case dropChannels =>
    exact eq_of_iff_ne id h.dropChannels (ne_of_notMem ht'.dropChannels)
      (ne_of_notMem ht.dropChannels)

private theorem SameElsewhere.refl (nodeId : NodeId) (t : NodeTables) :
    SameElsewhere nodeId t t where
  mappings := fun _ _ _ => Iff.rfl
  timers := fun _ _ => Iff.rfl
  logSubscribers := rfl
  openInputs := fun _ _ => Iff.rfl
  inputDeadlines := fun _ _ => rfl
  brokenInputs := fun _ _ => Iff.rfl
  runningNodes := fun _ _ => Iff.rfl
  pendingNodes := fun _ _ => Iff.rfl
  dynamicNodes := fun _ _ => Iff.rfl
  pendingDropTokens := fun _ _ => rfl
  subscribeChannels := fun _ _ => Iff.rfl
  pendingMessages := fun _ _ => Iff.rfl
  dropChannels := fun _ _ => Iff.rfl
  descriptor := rfl

end NodeTables
end DoraSpec.Daemon
