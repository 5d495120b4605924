import Mathlib.Algebra.Order.Ring.Nat
import Mathlib.Data.Finmap
import Mathlib.Data.List.MinMax
import DoraSpec.Base.Machine
import DoraSpec.Message.Id

/-!
# Shared-memory regions of a node

Source `apis/rust/node/src/node/mod.rs:926-1028, 1310-1394, 1559-1578`. A node with shared memory of
its own, one that is not interactive and has no zenoh session, sends large messages in regions: a
sample holds a region until it is sent, the table of sent regions holds it until its drop token comes
back, and the cache holds it until it is used again. A region is unmapped when its handle is dropped.
What the messages contain and where they go is left out.
-/

namespace DoraSpec.Node.SharedRegions
open Base Message List

/-! ## State -/

/-- A mapped region; `ShmemHandle`, `mod.rs:1630`. -/
structure Region where
  id : Nat
  len : Nat
  deriving DecidableEq

/-- `DataSample`, `mod.rs:1559-1562`. -/
inductive Sample where
  | shmem (region : Region) (len : Nat)
  | vec (len : Nat)

def Sample.region : Sample → Option Region
  | shmem region _ => some region
  | vec _ => none

structure State where
  cache : List Region := []
  sentOutSharedMemory : AList (fun _ : Nat => Region) := ∅
  /-- Finished drop tokens that the node has still to handle. -/
  dropStream : List Nat := []
  dropStreamOpen : Bool := true
  /-- Samples that the user holds. -/
  samples : List Sample := []
  nextRegion : Nat := 0
  /-- Regions that were created and are not unmapped. -/
  mapped : List Region := []

/-- `mod.rs:104`. -/
def zeroCopyThreshold : Nat := 4096

/-- `mod.rs:1378`. -/
def maxCacheCount : Nat := 20

/-- `mod.rs:1380`. -/
def maxCacheBytes : Nat := 256 * 1024 * 1024

namespace State

/-- The handles of the regions are dropped. -/
def unmap (s : State) (regions : List Region) : State := { s with mapped := s.mapped.diff regions }

/-! ## Allocation -/

/-- The smallest region that is large enough, and of these the one added last;
`mod.rs:1335-1342`. -/
def cacheIndex (s : State) (dataLen : Nat) : Option Nat :=
  ((s.cache.zipIdx.reverse.filter fun e => dataLen ≤ e.1.len).argmin fun e => e.1.len).map Prod.snd

/-- Take a region out of the cache or create one; `mod.rs:1343-1353`. A new region has the given
length, if the operating system can make one. -/
def takeMemory (s : State) (dataLen : Nat) (created : Option Nat) : State × Outcome String Region :=
  match s.cacheIndex dataLen with
  | some i =>
    match s.cache[i]? with
    | some memory => ({ s with cache := s.cache.eraseIdx i }, .ok memory)
    | none => (s, .panic "called `Option::unwrap()` on a `None` value")
  | none =>
    match created with
    | none => (s, .err "failed to allocate shared memory")
    | some len =>
      let memory := ⟨s.nextRegion, len⟩
      ({ s with nextRegion := s.nextRegion + 1, mapped := memory :: s.mapped }, .ok memory)

/-- `allocate_shared_memory`, `mod.rs:1334-1357`. -/
def allocateSharedMemory (s : State) (dataLen : Nat) (created : Option Nat) :
    State × Outcome String Region :=
  match s.takeMemory dataLen created with
  | (s, .ok memory) =>
    if dataLen ≤ memory.len then (s, .ok memory)
    else (s.unmap [memory], .panic "assertion failed: memory.len() >= data_len")
  | (s, .err text) => (s, .err text)
  | (s, .panic text) => (s, .panic text)

/-- `allocate_data_sample`, `mod.rs:1310-1332`. -/
def allocateDataSample (s : State) (dataLen : Nat) (created : Option Nat) :
    State × Outcome String Sample :=
  if zeroCopyThreshold ≤ dataLen then
    match s.allocateSharedMemory dataLen created with
    | (s, .ok memory) => (s, .ok (.shmem memory dataLen))
    | (s, .err text) => (s, .err text)
    | (s, .panic text) => (s, .panic text)
  else (s, .ok (.vec dataLen))

/-! ## The cache -/

/-- Oldest regions that are too many, and the rest; `mod.rs:1385-1387`. -/
def evictOldest : List Region → List Region × List Region
  | [] => ([], [])
  | memory :: rest =>
    if maxCacheCount < (memory :: rest).length then
      (memory :: (evictOldest rest).1, (evictOldest rest).2)
    else ([], memory :: rest)

/-- `add_to_cache`, `mod.rs:1377-1394`. -/
def addToCache (s : State) (memory : Region) : State :=
  let (evicted, cache) := evictOldest (s.cache ++ [memory])
  let s := { s with cache }.unmap evicted
  if maxCacheBytes < (cache.map Region.len).sum then { s with cache := [] }.unmap cache else s

/-- One finished token; `mod.rs:1364-1367`. -/
def finishToken (s : State) (token : Nat) : State :=
  match s.sentOutSharedMemory.lookup token with
  | some region =>
    { s with sentOutSharedMemory := s.sentOutSharedMemory.erase token }.addToCache region
  | none => s

/-- `handle_finished_drop_tokens`, `mod.rs:1359-1375`. -/
def handleFinishedDropTokens (s : State) : State × Outcome String Unit :=
  (s.dropStream.foldl finishToken { s with dropStream := [] },
    if s.dropStreamOpen then .ok ()
    else .err "event stream was closed before sending all expected drop tokens")

/-! ## Sending -/

/-- A region is put into the table of sent ones; `mod.rs:1021-1024`. -/
def insertSentOut (s : State) (token : Nat) (region : Region) : State :=
  { s with sentOutSharedMemory := s.sentOutSharedMemory.insert token region }.unmap
    (s.sentOutSharedMemory.lookup token).toList

/-- `send_output_sample`, `mod.rs:926-1028`, with the new drop token and whether the daemon has
accepted the message. The sample is the call's own. -/
def sendOutputSample (s : State) (outputId : DataId) (sample : Option Sample) (dropToken : Nat)
    (accepted : Bool) : State × Outcome String Unit :=
  let shmem := sample.bind Sample.region
  match s.handleFinishedDropTokens with
  | (s, .ok ()) =>
    if accepted then (shmem.elim s (s.insertSentOut dropToken), .ok ())
    else (s.unmap shmem.toList, .err s!"failed to send output {outputId.val}")
  | (s, .err text) => (s.unmap shmem.toList, .err text)
  | (s, .panic text) => (s.unmap shmem.toList, .panic text)

end State

/-! ## Runs -/

inductive Op where
  | allocate (dataLen : Nat) (created : Option Nat)
  /-- The user drops a sample. -/
  | dropSample (index : Nat)
  /-- The user sends a sample, or a message without data. -/
  | send (outputId : DataId) (index : Option Nat) (dropToken : Nat) (accepted : Bool)
  /-- The daemon reports that a message was dropped. -/
  | finished (dropToken : Nat)
  | closeDropStream

def step (s : State) : Op → State × Outcome String Unit
  | .allocate dataLen created =>
    match s.allocateDataSample dataLen created with
    | (s, .ok sample) => ({ s with samples := s.samples ++ [sample] }, .ok ())
    | (s, .err text) => (s, .err text)
    | (s, .panic text) => (s, .panic text)
  | .dropSample index =>
    ({ s with samples := s.samples.eraseIdx index }.unmap
      (s.samples[index]?.bind Sample.region).toList, .ok ())
  | .send outputId none dropToken accepted => s.sendOutputSample outputId none dropToken accepted
  | .send outputId (some index) dropToken accepted =>
    { s with samples := s.samples.eraseIdx index }.sendOutputSample outputId s.samples[index]?
      dropToken accepted
  | .finished dropToken => ({ s with dropStream := s.dropStream ++ [dropToken] }, .ok ())
  | .closeDropStream => ({ s with dropStreamOpen := false }, .ok ())

/-! ## One place for each region -/

/-- Regions in the table of sent ones. -/
def State.sentOut (s : State) : List Region := s.sentOutSharedMemory.entries.map Sigma.snd

/-- Regions in the cache, in the table and in samples. -/
def State.places (s : State) : List Region :=
  s.cache ++ s.sentOut ++ s.samples.filterMap Sample.region

/-- Each region is in one place, and the cache keeps its limits. -/
structure Owned (s : State) : Prop where
  once : ∀ region ∈ s.mapped, s.places.count region = 1
  known : ∀ region ∈ s.places, region ∈ s.mapped
  count : s.cache.length ≤ maxCacheCount
  bytes : (s.cache.map Region.len).sum ≤ maxCacheBytes

/-- A new sample has its region from the cache, or the region is new, and it is large enough. In no
case is the region sent out. -/
def TakesFromCache (s : State) : Op → Prop
  | .allocate dataLen created => ∀ region len,
    (s.allocateDataSample dataLen created).2 = .ok (.shmem region len) →
      (region ∈ s.cache ∨ region ∉ s.mapped) ∧ region ∉ s.sentOut ∧ len ≤ region.len
  | _ => True

private structure Inv (extra : List Region) (s : State) : Prop where
  balance : ∀ r, s.places.count r + extra.count r = s.mapped.count r
  nodup : s.mapped.Nodup
  fresh : ∀ r ∈ s.mapped, r.id < s.nextRegion
  count : s.cache.length ≤ maxCacheCount
  bytes : (s.cache.map Region.len).sum ≤ maxCacheBytes

section

variable {s : State} {extra : List Region} {region memory : Region} {token : Nat}

private theorem Inv.owned (h : Inv [] s) : Owned s where
  once r hr := by
    have hbalance := h.balance r
    rw [count_nil, Nat.add_zero] at hbalance
    rw [hbalance, count_eq_one_of_mem h.nodup hr]
  known r hr := by
    have hbalance := h.balance r
    have hpos := count_pos_iff.mpr hr
    exact count_pos_iff.mp (by omega)
  count := h.count
  bytes := h.bytes

private theorem Inv.unmap {dropped : List Region} (h : Inv (dropped ++ extra) s) :
    Inv extra (s.unmap dropped) where
  balance r := by
    have hbalance := h.balance r
    rw [count_append] at hbalance
    simp only [State.unmap, count_diff]
    change s.places.count r + _ = _
    omega
  nodup := h.nodup.diff
  fresh r hr := h.fresh r ((diff_subset ..) hr)
  count := h.count
  bytes := h.bytes

/-! ## The table of sent regions -/

private theorem perm_values_erase {table : AList (fun _ : Nat => Region)}
    (h : table.lookup token = some region) :
    (region :: (table.erase token).entries.map Sigma.snd).Perm (table.entries.map Sigma.snd) := by
  have hmem : token ∈ table.entries.keys := AList.lookup_isSome.mp (by simp [h])
  obtain ⟨region', before, after, -, heq, herase⟩ := exists_of_kerase hmem
  have hregion : region' = region := by
    have : region' ∈ table.lookup token := AList.mem_lookup_iff.mpr (by simp [heq])
    exact Option.some.inj (this.symm.trans h)
  subst hregion
  have : (table.erase token).entries = before ++ after := herase
  rw [this, heq]
  simpa using perm_middle.symm

private theorem sentOut_count (h : s.sentOutSharedMemory.lookup token = some region) (r : Region) :
    s.sentOut.count r =
      ((s.sentOutSharedMemory.erase token).entries.map Sigma.snd).count r + [region].count r := by
  have := (perm_values_erase h).count_eq r
  rw [State.sentOut, ← this, ← singleton_append, count_append]
  omega

private theorem inv_insertSentOut (h : Inv (region :: extra) s) :
    Inv extra (s.insertSentOut token region) := by
  refine Inv.unmap ⟨fun r => ?_, h.nodup, h.fresh, h.count, h.bytes⟩
  have hbalance := h.balance r
  simp only [State.places, State.sentOut, AList.entries_insert, map_cons, count_append,
    count_cons] at hbalance ⊢
  cases hl : s.sentOutSharedMemory.lookup token with
  | none =>
    have hnot : token ∉ s.sentOutSharedMemory := AList.lookup_eq_none.mp hl
    rw [kerase_of_notMem_keys hnot]
    simp only [Option.toList_none, count_nil]
    omega
  | some old =>
    have hcount : s.sentOut.count r =
        ((s.sentOutSharedMemory.entries.kerase token).map Sigma.snd).count r + [old].count r :=
      sentOut_count hl r
    simp only [State.sentOut] at hcount
    simp only [Option.toList_some]
    omega

/-! ## The cache -/

private theorem evictOldest_append (cache : List Region) :
    (State.evictOldest cache).1 ++ (State.evictOldest cache).2 = cache := by
  induction cache with
  | nil => rfl
  | cons memory rest ih =>
    rw [State.evictOldest]
    split
    · simpa using ih
    · rfl

private theorem length_evictOldest (cache : List Region) :
    (State.evictOldest cache).2.length ≤ maxCacheCount := by
  induction cache with
  | nil => simp [State.evictOldest]
  | cons memory rest ih =>
    rw [State.evictOldest]
    split
    · exact ih
    · next h => exact Nat.not_lt.mp h

private theorem inv_addToCache (h : Inv (memory :: extra) s) : Inv extra (s.addToCache memory) := by
  have hsplit := fun r => congrArg (count r) (evictOldest_append (s.cache ++ [memory]))
  have hlength := length_evictOldest (s.cache ++ [memory])
  unfold State.addToCache
  generalize State.evictOldest (s.cache ++ [memory]) = parts at hsplit hlength
  obtain ⟨evicted, cache⟩ := parts
  simp only [count_append] at hsplit
  have hbalance : ∀ r, (State.places { s with cache }).count r + (evicted ++ extra).count r =
      s.mapped.count r := fun r => by
    have hb := h.balance r
    have hs := hsplit r
    simp only [State.places, State.sentOut, count_append, count_cons, count_nil]
      at hb hs ⊢
    omega
  dsimp only
  split
  · have hclear : Inv (evicted ++ (cache ++ extra)) { s with cache := [] } := by
      refine ⟨fun r => ?_, h.nodup, h.fresh, Nat.zero_le _, Nat.zero_le _⟩
      have hb := hbalance r
      simp only [State.places, State.sentOut, count_append, count_nil] at hb ⊢
      omega
    exact Inv.unmap (Inv.unmap hclear)
  · next hbytes =>
    exact Inv.unmap ⟨hbalance, h.nodup, h.fresh, hlength, Nat.not_lt.mp hbytes⟩

private theorem inv_finishToken (h : Inv extra s) : Inv extra (s.finishToken token) := by
  unfold State.finishToken
  split
  · next region hl =>
    refine inv_addToCache ⟨fun r => ?_, h.nodup, h.fresh, h.count, h.bytes⟩
    have hbalance := h.balance r
    have hcount := sentOut_count hl r
    simp only [State.places, count_append, count_cons, count_nil] at hbalance hcount ⊢
    simp only [State.sentOut] at hbalance hcount ⊢
    omega
  · exact h

private theorem inv_handleFinishedDropTokens (h : Inv extra s) :
    Inv extra s.handleFinishedDropTokens.1 := by
  have hfold : ∀ (tokens : List Nat) (t : State), Inv extra t →
      Inv extra (tokens.foldl State.finishToken t) := by
    intro tokens
    induction tokens with
    | nil => exact fun _ ht => ht
    | cons token tokens ih => exact fun t ht => ih _ (inv_finishToken ht)
  exact hfold _ _ ⟨h.balance, h.nodup, h.fresh, h.count, h.bytes⟩

/-! ## Samples -/

private theorem inv_sendOutputSample {outputId : DataId} {sample : Option Sample} {accepted : Bool}
    (h : Inv (sample.bind Sample.region).toList s) :
    Inv [] (s.sendOutputSample outputId sample token accepted).1 := by
  have hhandle := inv_handleFinishedDropTokens h
  have hdrop : ∀ {t : State}, Inv (sample.bind Sample.region).toList t →
      Inv [] (t.unmap (sample.bind Sample.region).toList) := fun ht => by
    rw [← append_nil (sample.bind Sample.region).toList] at ht
    exact ht.unmap
  unfold State.sendOutputSample
  generalize s.handleFinishedDropTokens = result at hhandle
  obtain ⟨t, outcome⟩ := result
  cases outcome with
  | ok _ =>
    cases accepted with
    | false => exact hdrop hhandle
    | true =>
      cases hs : sample.bind Sample.region with
      | none => simpa [hs] using hhandle
      | some region =>
        rw [hs] at hhandle
        simpa [hs] using inv_insertSentOut hhandle
  | err | panic => exact hdrop hhandle

private theorem perm_eraseIdx {α : Type} (l : List α) (i : Nat) :
    (l[i]?.toList ++ l.eraseIdx i).Perm l := by
  by_cases h : i < l.length
  · rw [getElem?_eq_getElem h]
    exact getElem_cons_eraseIdx_perm h
  · have hle := Nat.not_lt.mp h
    simp [getElem?_eq_none hle, eraseIdx_of_length_le hle]

private theorem inv_eraseSample (h : Inv [] s) (index : Nat) :
    Inv (s.samples[index]?.bind Sample.region).toList
      { s with samples := s.samples.eraseIdx index } := by
  refine ⟨fun r => ?_, h.nodup, h.fresh, h.count, h.bytes⟩
  have hbalance := h.balance r
  have hperm := ((perm_eraseIdx s.samples index).filterMap Sample.region).count_eq r
  have hregion : s.samples[index]?.toList.filterMap Sample.region =
      (s.samples[index]?.bind Sample.region).toList := by
    cases s.samples[index]? with
    | none => rfl
    | some sample => cases sample <;> rfl
  rw [filterMap_append, hregion, count_append] at hperm
  simp only [State.places, State.sentOut, count_append, count_nil] at hbalance ⊢
  omega

/-! ## Allocation -/

private theorem mem_of_cacheIndex {dataLen i : Nat} (h : s.cacheIndex dataLen = some i) :
    ∃ memory, s.cache[i]? = some memory ∧ dataLen ≤ memory.len := by
  obtain ⟨⟨memory, j⟩, hmin, rfl⟩ := Option.map_eq_some_iff.mp h
  have hmem := argmin_mem hmin
  rw [mem_filter, mem_reverse] at hmem
  obtain ⟨hmem, hlen⟩ := hmem
  exact ⟨memory, by simpa using mem_zipIdx_iff_getElem?.mp hmem, by simpa using hlen⟩

private theorem inv_eraseCache (h : Inv [] s) {i : Nat} (hi : s.cache[i]? = some memory) :
    Inv [memory] { s with cache := s.cache.eraseIdx i } := by
  have hperm : (memory :: s.cache.eraseIdx i).Perm s.cache := by
    simpa [hi] using perm_eraseIdx s.cache i
  have hlength := hperm.length_eq
  have hbytes := (hperm.map Region.len).sum_nat
  have hcount := h.count
  have hsum := h.bytes
  refine ⟨fun r => ?_, h.nodup, h.fresh, ?_, ?_⟩
  · have hbalance := h.balance r
    have hr := hperm.count_eq r
    simp only [State.places, State.sentOut, count_append, count_cons, count_nil]
      at hbalance hr ⊢
    omega
  · rw [length_cons] at hlength
    simp only
    omega
  · rw [map_cons, sum_cons] at hbytes
    simp only
    omega

private theorem notMem_sentOut_of_mem_cache (h : Inv [] s) (hmem : memory ∈ s.cache) :
    memory ∉ s.sentOut := by
  intro hsent
  have hbalance := h.balance memory
  have hone := nodup_iff_count_le_one.mp h.nodup memory
  have hcache := count_pos_iff.mpr hmem
  have hsent := count_pos_iff.mpr hsent
  simp only [State.places, count_append, count_nil] at hbalance
  omega

private theorem mem_mapped_of_mem_sentOut (h : Inv [] s) (hsent : memory ∈ s.sentOut) :
    memory ∈ s.mapped :=
  h.owned.known memory (mem_append_left _ (mem_append_right _ hsent))

private theorem inv_create (h : Inv [] s) (len : Nat) : Inv [⟨s.nextRegion, len⟩]
    { s with nextRegion := s.nextRegion + 1, mapped := ⟨s.nextRegion, len⟩ :: s.mapped } where
  balance r := by
    have hbalance := h.balance r
    simp only [State.places, State.sentOut, count_append, count_cons, count_nil]
      at hbalance ⊢
    omega
  nodup := nodup_cons.mpr ⟨fun hmem => Nat.lt_irrefl _ (h.fresh _ hmem), h.nodup⟩
  fresh r hr := by
    rcases mem_cons.mp hr with rfl | hr
    · exact Nat.lt_succ_self _
    · exact Nat.lt_succ_of_lt (h.fresh r hr)
  count := h.count
  bytes := h.bytes

private def Obtained (s : State) (memory : Region) : Prop :=
  (memory ∈ s.cache ∨ memory ∉ s.mapped) ∧ memory ∉ s.sentOut

private theorem takeMemory_cases (h : Inv [] s) (dataLen : Nat) (created : Option Nat) :
    (∃ memory t, s.takeMemory dataLen created = (t, .ok memory) ∧ Inv [memory] t ∧
        Obtained s memory) ∨
      ∃ text, s.takeMemory dataLen created = (s, .err text) := by
  unfold State.takeMemory
  cases hi : s.cacheIndex dataLen with
  | some i =>
    obtain ⟨memory, hmemory, -⟩ := mem_of_cacheIndex hi
    have hmem := mem_of_getElem? hmemory
    exact .inl ⟨memory, _, by simp [hmemory], inv_eraseCache h hmemory, .inl hmem,
      notMem_sentOut_of_mem_cache h hmem⟩
  | none =>
    cases created with
    | none => exact .inr ⟨_, rfl⟩
    | some len =>
      have hnew : (⟨s.nextRegion, len⟩ : Region) ∉ s.mapped := fun hmem =>
        Nat.lt_irrefl _ (h.fresh _ hmem)
      exact .inl ⟨_, _, rfl, inv_create h len, .inr hnew,
        fun hsent => hnew (mem_mapped_of_mem_sentOut h hsent)⟩

private theorem allocateSharedMemory_cases (h : Inv [] s) (dataLen : Nat) (created : Option Nat) :
    (∃ memory t, s.allocateSharedMemory dataLen created = (t, .ok memory) ∧ Inv [memory] t ∧
        Obtained s memory ∧ dataLen ≤ memory.len) ∨
      ∃ t outcome, s.allocateSharedMemory dataLen created = (t, outcome) ∧ Inv [] t ∧
        ∀ memory, outcome ≠ .ok memory := by
  unfold State.allocateSharedMemory
  rcases takeMemory_cases h dataLen created with ⟨memory, t, heq, hinv, hfrom⟩ | ⟨text, heq⟩
  · rw [heq]
    by_cases hlen : dataLen ≤ memory.len
    · exact .inl ⟨memory, t, if_pos hlen, hinv, hfrom, hlen⟩
    · exact .inr ⟨_, _, if_neg hlen, Inv.unmap hinv, nofun⟩
  · rw [heq]
    exact .inr ⟨s, _, rfl, h, nofun⟩

private theorem Inv.addSample {sample : Sample} (h : Inv sample.region.toList s) :
    Inv [] { s with samples := s.samples ++ [sample] } := by
  refine ⟨fun r => ?_, h.nodup, h.fresh, h.count, h.bytes⟩
  have hbalance := h.balance r
  have hregion : [sample].filterMap Sample.region = sample.region.toList := by cases sample <;> rfl
  simp only [State.places, State.sentOut, filterMap_append, hregion, count_append,
    count_nil] at hbalance ⊢
  omega

private theorem inv_allocate (h : Inv [] s) (dataLen : Nat) (created : Option Nat) :
    Inv [] (step s (.allocate dataLen created)).1 := by
  simp only [step, State.allocateDataSample]
  split_ifs
  · rcases allocateSharedMemory_cases h dataLen created with
      ⟨memory, t, heq, hinv, -, -⟩ | ⟨t, outcome, heq, hinv, hnot⟩
    · rw [heq]
      exact Inv.addSample hinv
    · rw [heq]
      cases outcome with
      | ok memory => exact absurd rfl (hnot memory)
      | err | panic => exact hinv
  · exact Inv.addSample h

private theorem takesFromCache (h : Inv [] s) (op : Op) : TakesFromCache s op := by
  cases op with
  | allocate dataLen created =>
    intro region len hsample
    unfold State.allocateDataSample at hsample
    split at hsample
    · rcases allocateSharedMemory_cases h dataLen created with
        ⟨memory, t, heq, -, hfrom, hlen⟩ | ⟨t, outcome, heq, -, hnot⟩
      · rw [heq] at hsample
        cases hsample
        exact ⟨hfrom.1, hfrom.2, hlen⟩
      · rw [heq] at hsample
        cases outcome with
        | ok memory => exact absurd rfl (hnot memory)
        | err | panic => cases hsample
    · cases hsample
  | _ => exact True.intro

private theorem inv_step (h : Inv [] s) (op : Op) : Inv [] (step s op).1 := by
  cases op with
  | allocate dataLen created => exact inv_allocate h dataLen created
  | dropSample index =>
    have hdropped := inv_eraseSample h index
    rw [← append_nil (s.samples[index]?.bind Sample.region).toList] at hdropped
    exact hdropped.unmap
  | send outputId index dropToken accepted =>
    cases index with
    | none => exact inv_sendOutputSample h
    | some index => exact inv_sendOutputSample (inv_eraseSample h index)
  | finished | closeDropStream => exact ⟨h.balance, h.nodup, h.fresh, h.count, h.bytes⟩

end

/-- In every run each region is in one place, the cache keeps its limits, and allocations take no
region that is sent out. -/
theorem owned_of_run (ops : List Op) :
    Owned (Machine.run step {} ops).1 ∧ Machine.Along step TakesFromCache {} ops := by
  have hinit : Inv [] {} := ⟨fun _ => rfl, nodup_nil, nofun, Nat.zero_le _, Nat.zero_le _⟩
  have hall := Machine.along_of_forall step ops (fun _ _ _ => True.intro) {}
  refine ⟨?_, Machine.Along.imp step (Inv []) (fun s op hs _ => ?_) hinit hall⟩
  · exact (Machine.always step (Inv []) (fun s op hs => inv_step hs op) hinit ops).owned
  · exact ⟨takesFromCache hs op, inv_step hs op⟩

/-- A region that came back is used again. -/
example (outputId : DataId) : (Machine.run step {}
    [.allocate 5000 (some 8192), .send outputId (some 0) 7 true, .finished 7,
      .send outputId none 8 true, .allocate 4500 none]).1.samples = [.shmem ⟨0, 8192⟩ 4500] := rfl

end DoraSpec.Node.SharedRegions
