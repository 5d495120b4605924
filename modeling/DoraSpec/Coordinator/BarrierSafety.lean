import DoraSpec.Coordinator.StartBarrier

/-!
# Nodes start after all nodes have subscribed

A ready message, the coordinator's set of pending daemons and the word to go ahead all say the same of
a daemon: its nodes have subscribed or ended, and those that ended are known. This stays true as long
as no node is added and no part is spawned again.
-/

namespace DoraSpec.Coordinator.StartBarrier
open Message Store Function List State Option
open Recording (Uuid)
open Daemon (PendingNodes Answer PendingOutput)
open Coordinator.Readiness (RunningDataflow)

/-! ## What is known of a daemon -/

/-- All nodes of the daemon have subscribed or ended. -/
def Settled (s : State) (daemon : DaemonId) : Prop :=
  ∀ n ∈ s.nodes daemon, n ∈ s.subscribed daemon ∨ n ∈ s.exited daemon

/-- Moreover, the nodes that ended too early are in the list. -/
def Known (s : State) (daemon : DaemonId) (exited : List NodeId) : Prop :=
  Settled s daemon ∧ ∀ n ∈ s.exited daemon, n ∈ exited

/-- Pending nodes agree with what has happened to the nodes of the daemon. -/
structure PartOk (s : State) (daemon : DaemonId) (part : Part) : Prop where
  member : daemon ∈ s.members
  external : part.pendingNodes.externalNodes = true ↔ (s.members.erase daemon).Nonempty
  localNodes : part.pendingNodes.localNodes ⊆ s.nodes daemon
  nodes : ∀ n ∈ s.nodes daemon,
    n ∈ part.pendingNodes.localNodes ∨ n ∈ s.subscribed daemon ∨ n ∈ s.exited daemon
  exited : ∀ n ∈ s.exited daemon, n ∈ part.pendingNodes.exitedBeforeSubscribe
  dynamicNodes : part.dynamicNodes ⊆ s.dynamicNodes daemon

private theorem PartOk.known {s : State} {daemon : DaemonId} {part : Part}
    (h : PartOk s daemon part)
    (hlocal : part.pendingNodes.localNodes = ∅) :
    Known s daemon part.pendingNodes.exitedBeforeSubscribe := by
  refine ⟨fun n hn => ?_, h.exited⟩
  simpa [hlocal] using h.nodes n hn

/-- No word about readiness is under way. -/
def Quiet (s : State) : Prop :=
  (∀ d, s.toDaemon d = []) ∧ ∀ d exited, .allNodesReady exited ∉ s.toCoordinator d

/-- No daemon will report any more. -/
def Over (s : State) : Prop :=
  Quiet s ∧ ∀ d, ∀ part ∈ s.parts d,
    part.pendingNodes.externalNodes = true → part.pendingNodes.reportedInitToCoordinator = true

/-- Nothing was said about the daemon yet. -/
structure Silent (s : State) (daemon : DaemonId) : Prop where
  toCoordinator : ∀ exited, .allNodesReady exited ∉ s.toCoordinator daemon
  pending : ∀ df ∈ s.dataflow, daemon ∈ df.pendingDaemons
  toDaemon : ∀ d, s.toDaemon d = []

/-- What the messages and the coordinator say of the daemons is true. -/
structure Ordered (s : State) : Prop where
  several : 1 < s.members.card
  silent : ∀ d, ∀ part ∈ s.parts d, part.pendingNodes.reportedInitToCoordinator = false → Silent s d
  ready : ∀ d exited, .allNodesReady exited ∈ s.toCoordinator d → Known s d exited
  coordinator : ∀ df ∈ s.dataflow, ∀ d ∈ s.members, d ∉ df.pendingDaemons →
    Known s d df.exitedBeforeSubscribe
  released : ∀ d', ∀ exited ∈ s.toDaemon d', ∀ d ∈ s.members, Known s d exited

/-- What holds between the steps. -/
structure Inv (s : State) : Prop where
  parts : ∀ d, ∀ part ∈ s.parts d, PartOk s d part
  dynamic : ∀ d, Disjoint (s.nodes d) (s.dynamicNodes d)
  order : Over s ∨ Ordered s

/-! ## Later states -/

/-- Nodes have subscribed or ended, but none was added. -/
structure Later (s t : State) : Prop where
  members : t.members = s.members
  nodes : t.nodes = s.nodes
  subscribed : ∀ d, s.subscribed d ⊆ t.subscribed d
  exited : ∀ d, s.exited d ⊆ t.exited d
  new : ∀ d, ∀ n ∈ t.exited d, n ∈ s.exited d ∨ n ∈ s.nodes d ∧ n ∉ s.subscribed d

variable {d : DaemonId} {exited : List NodeId} {node : NodeId}

private theorem Known.later {s t : State} (h : Later s t) (hknown : Known s d exited) :
    Known t d exited := by
  refine ⟨fun n hn => ?_, fun n hn => ?_⟩
  · rw [h.nodes] at hn
    exact (hknown.1 n hn).imp (fun hs => h.subscribed d hs) fun he => h.exited d he
  · rcases h.new d n hn with hold | ⟨hnode, hnot⟩
    · exact hknown.2 n hold
    · exact hknown.2 n ((hknown.1 n hnode).resolve_left hnot)

/-! ## Events on a daemon -/

/-- Events on a daemon change what is known of its own nodes. -/
structure LocalChange (daemon : DaemonId) (s t : State) : Prop where
  later : Later s t
  parts : t.parts = s.parts
  toCoordinator : t.toCoordinator = s.toCoordinator
  toDaemon : t.toDaemon = s.toDaemon
  dataflow : t.dataflow = s.dataflow
  dynamicNodes : t.dynamicNodes = s.dynamicNodes
  daemonConnections : t.daemonConnections = s.daemonConnections
  released : t.released = s.released
  subscribed : ∀ d, d ≠ daemon → t.subscribed d = s.subscribed d
  exited : ∀ d, d ≠ daemon → t.exited d = s.exited d

variable {s t : State} {daemon : DaemonId} {part : Part} {p : PendingNodes}
  {r : PendingNodes × PendingOutput} {toCoordinator : DaemonId → List Report}

private theorem PartOk.congr (h : PartOk s daemon part) (hmembers : t.members = s.members)
    (hnode : t.nodes = s.nodes) (hdyn : t.dynamicNodes = s.dynamicNodes)
    (hsub : t.subscribed daemon = s.subscribed daemon) (hexit : t.exited daemon = s.exited daemon) :
    PartOk t daemon part := by
  obtain ⟨hmember, hexternal, hlocal, hnodes, hexited, hdynamic⟩ := h
  rw [← hmembers] at hmember hexternal
  rw [← hnode] at hlocal hnodes
  rw [← hsub, ← hexit] at hnodes
  rw [← hexit] at hexited
  rw [← hdyn] at hdynamic
  exact ⟨hmember, hexternal, hlocal, hnodes, hexited, hdynamic⟩

/-- Values are new or old. -/
theorem mem_update_some {α : Type} {f : DaemonId → Option α} {a b : α}
    (h : b ∈ update f daemon (some a) d) : d = daemon ∧ b = a ∨ d ≠ daemon ∧ b ∈ f d := by
  by_cases hd : d = daemon
  · subst hd
    rw [update_self] at h
    cases h
    exact .inl ⟨rfl, rfl⟩
  · rw [update_of_ne hd] at h
    exact .inr ⟨hd, h⟩

section

variable (hc : LocalChange daemon s t) (hpart : part ∈ s.parts daemon) (hr : p.Updated r)
  (hp : PartOk t daemon { part with pendingNodes := p })
  (hexternal : p.externalNodes = part.pendingNodes.externalNodes)
  (hreported : p.reportedInitToCoordinator = part.pendingNodes.reportedInitToCoordinator)

/-- All nodes have subscribed, and none has ended before. -/
def AllSubscribed (s : State) : Prop :=
  ∀ d ∈ s.members, ∀ n ∈ s.nodes d, n ∈ s.subscribed d ∧ n ∉ s.exited d

private theorem Known.mono {exited' : List NodeId} (h : Known s d exited)
    (hsub : exited ⊆ exited') :
    Known s d exited' :=
  ⟨h.1, fun n hn => hsub (h.2 n hn)⟩

/-- Nodes are told to start only if all nodes have subscribed, and none before. A node that waits is
answered or waits on. -/
structure Guarded (s : State) (r : State × Output) : Prop where
  success : ∀ d answer, (d, answer) ∈ r.2 → answer.result = .ok () → AllSubscribed r.1
  waiting : ∀ d, ∀ part ∈ s.parts d, ∀ part' ∈ r.1.parts d,
    ∀ n ∈ part.pendingNodes.waitingSubscribers,
      n ∈ part'.pendingNodes.waitingSubscribers ∨
        ∃ answer, (d, answer) ∈ r.2 ∧ n ∈ answer.nodes

private def Sound (s : State) (r : State × Output) : Prop := Inv r.1 ∧ Guarded s r

end

/-- No change. -/
theorem LocalChange.refl : LocalChange daemon s s :=
  ⟨⟨rfl, rfl, fun _ => subset_rfl, fun _ => subset_rfl, fun _ _ h => .inl h⟩, rfl, rfl, rfl, rfl, rfl,
    rfl, rfl, fun _ _ => rfl, fun _ _ => rfl⟩

/-- Dynamic nodes are not pending. -/
theorem Inv.handleDataflowStop (hinv : Inv s) (hpart : part ∈ s.parts daemon) {dataflowId : Uuid} :
    part.pendingNodes.handleDataflowStop dataflowId part.dynamicNodes = (part.pendingNodes, {}) := by
  have hp := hinv.parts daemon part hpart
  exact if_pos (Finset.disjoint_iff_inter_eq_empty.mp
    ((hinv.dynamic daemon).mono hp.localNodes hp.dynamicNodes))

/-- Nothing happens to the nodes. Parts and messages may get lost and nodes may be answered. -/
structure Fewer (s t : State) : Prop where
  members : t.members = s.members
  nodes : t.nodes = s.nodes
  dynamicNodes : t.dynamicNodes = s.dynamicNodes
  subscribed : t.subscribed = s.subscribed
  exited : t.exited = s.exited
  parts : ∀ d, ∀ part' ∈ t.parts d, ∃ part ∈ s.parts d, ∃ waiting,
    part' = { part with pendingNodes := { part.pendingNodes with waitingSubscribers := waiting } }
  toCoordinator : ∀ d exited, .allNodesReady exited ∈ t.toCoordinator d →
    .allNodesReady exited ∈ s.toCoordinator d
  toDaemon : ∀ d, t.toDaemon d ⊆ s.toDaemon d
  dataflow : ∀ df' ∈ t.dataflow, ∃ df ∈ s.dataflow,
    df'.pendingDaemons = df.pendingDaemons ∧ df'.exitedBeforeSubscribe = df.exitedBeforeSubscribe

namespace Fewer

private theorem known (h : Fewer s t) {d : DaemonId} {exited : List NodeId}
    (hknown : Known s d exited) :
    Known t d exited := by
  unfold Known Settled at hknown ⊢
  rwa [h.nodes, h.subscribed, h.exited]

private theorem partOk (h : Fewer s t) {waiting : Finset NodeId} (hp : PartOk s daemon part) :
    PartOk t daemon
      { part with pendingNodes := { part.pendingNodes with waitingSubscribers := waiting } } :=
  { hp.congr h.members h.nodes h.dynamicNodes (congrFun h.subscribed _) (congrFun h.exited _) with }

private theorem toDaemon_eq_nil (h : Fewer s t) {d : DaemonId} (hnil : s.toDaemon d = []) :
    t.toDaemon d = [] :=
  eq_nil_of_subset_nil (hnil ▸ h.toDaemon d)

private theorem isOver (h : Fewer s t) (hover : Over s) : Over t := by
  refine ⟨⟨fun d => h.toDaemon_eq_nil (hover.1.1 d), fun d exited hmem => ?_⟩, fun d part' hpart' => ?_⟩
  · exact hover.1.2 d exited (h.toCoordinator d exited hmem)
  · obtain ⟨part, hpart, waiting, rfl⟩ := h.parts d part' hpart'
    exact hover.2 d part hpart

private theorem ordered (h : Fewer s t) (hordered : Ordered s) : Ordered t where
  several := h.members ▸ hordered.several
  silent d part' hpart' hrep := by
    obtain ⟨part, hpart, waiting, rfl⟩ := h.parts d part' hpart'
    have hsilent := hordered.silent d part hpart hrep
    refine ⟨fun exited hmem => hsilent.toCoordinator exited (h.toCoordinator d exited hmem),
      fun df' hdf' => ?_, fun d' => h.toDaemon_eq_nil (hsilent.toDaemon d')⟩
    obtain ⟨df, hdf, hpending, -⟩ := h.dataflow df' hdf'
    exact hpending ▸ hsilent.pending df hdf
  ready d exited hmem := h.known (hordered.ready d exited (h.toCoordinator d exited hmem))
  coordinator df' hdf' d hd hnot := by
    obtain ⟨df, hdf, hpending, hexited⟩ := h.dataflow df' hdf'
    rw [hexited]
    exact h.known (hordered.coordinator df hdf d (h.members ▸ hd) (hpending ▸ hnot))
  released d' exited hmem d hd :=
    h.known (hordered.released d' exited (h.toDaemon d' hmem) d (h.members ▸ hd))

end Fewer

private theorem Inv.fewer (hinv : Inv s) (h : Fewer s t) : Inv t where
  parts d part' hpart' := by
    obtain ⟨part, hpart, waiting, rfl⟩ := h.parts d part' hpart'
    exact h.partOk (hinv.parts d part hpart)
  dynamic d := by
    have := hinv.dynamic d
    rwa [← h.nodes, ← h.dynamicNodes] at this
  order := hinv.order.imp h.isOver h.ordered

/-- A part is gone. -/
theorem mem_of_mem_update_none (h : part ∈ update s.parts daemon none d) :
    part ∈ s.parts d := by
  by_cases hd : d = daemon
  · subst hd
    simp at h
  · rwa [update_of_ne hd] at h

private theorem Over.update (hover : Over s) (hpart : part ∈ s.parts daemon) {part₀ : Part}
    (hexternal : part₀.pendingNodes.externalNodes = part.pendingNodes.externalNodes)
    (hreported : part₀.pendingNodes.reportedInitToCoordinator =
      part.pendingNodes.reportedInitToCoordinator) :
    Over { s with parts := update s.parts daemon (some part₀) } := by
  refine ⟨hover.1, fun d part' hpart' => ?_⟩
  rcases mem_update_some hpart' with ⟨rfl, rfl⟩ | ⟨-, hpart'⟩
  · rw [hexternal, hreported]
    exact hover.2 d part hpart
  · exact hover.2 d part' hpart'

/-- Parts at the start. -/
theorem mem_parts_start {dataflowId : Uuid} {a : Assignment}
    (h : part ∈ (start dataflowId a).parts d) :
    d ∈ a.daemons ∧
      part = spawnPart a.daemons d (a.nodesOf d false) (a.nodesOf d true) := by
  simp only [start] at h
  split at h
  · next hd =>
    cases h
    exact ⟨hd, rfl⟩
  · cases h

/-- A dataflow on one daemon never waits for the coordinator. -/
theorem inv_start (dataflowId : Uuid) (a : Assignment) : Inv (start dataflowId a) where
  parts d part hpart := by
    obtain ⟨hd, rfl⟩ := mem_parts_start hpart
    exact ⟨hd, by simp [spawnPart, start], subset_rfl, fun n hn => .inl hn, by simp [start], subset_rfl⟩
  dynamic d := by
    refine Finset.disjoint_left.mpr fun n hn hn' => ?_
    simp only [start, Assignment.nodesOf, Finset.mem_filter] at hn hn'
    simp [hn.2.2] at hn'
  order := by
    by_cases hcard : 1 < a.daemons.card
    · have hpending : (RunningDataflow.start a.daemons).pendingDaemons = a.daemons := if_pos hcard
      refine .inr ⟨hcard, fun d part hpart _ => ⟨by simp [start], fun df hdf => ?_, by simp [start]⟩,
        by simp [start], fun df hdf d hd hnot => ?_, by simp [start]⟩
      · cases hdf
        exact hpending.symm ▸ (mem_parts_start hpart).1
      · cases hdf
        exact absurd (hpending.symm ▸ hd) hnot
    · refine .inl ⟨by simp [Quiet, start], fun d part hpart hext => ?_⟩
      obtain ⟨hd, rfl⟩ := mem_parts_start hpart
      have hsome : (a.daemons.erase d).Nonempty := by simpa [spawnPart] using hext
      have := hsome.card_pos
      rw [Finset.card_erase_of_mem hd] at this
      omega

end DoraSpec.Coordinator.StartBarrier
