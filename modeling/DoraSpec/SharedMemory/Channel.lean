import DoraSpec.Base.Bytes

/-!
# Messages through shared memory

Source `libraries/shared-memory-server/src/channel.rs`. Two sides map one region. It starts with two
events, which are those of a library, then a flag for the end of the connection, the length of the
message and its bytes. Each side finds these places on its own, from the address where it has mapped the
region. Lengths and addresses have 64 bits.
-/

namespace DoraSpec.SharedMemory
open Base Bytes

/-! ## Layout -/

/-- Sizes of the two events in the region. -/
structure Layout where
  serverEventLen : Nat
  clientEventLen : Nat

/-- `wrapping_add` of a pointer. -/
def wrappingAdd (p n : Nat) : Nat := (p + n) % 2 ^ 64

/-- `align_offset` of a byte pointer: bytes up to the next multiple. -/
def alignOffset (p align : Nat) : Nat := (align - p % align) % align

/-- `offset_ptrs`, `channel.rs:240-257`. -/
def offsetPtrs (nextFree : Nat) : Except String (Nat × Nat × Nat) :=
  let align := alignOffset nextFree 1
  if align = 2 ^ 64 - 1 then .error "unable to align disconnect pointer in shared memory"
  else
    let disconnectPtr := wrappingAdd nextFree align
    let lenPtrUnaligned := wrappingAdd disconnectPtr 1
    let align := alignOffset lenPtrUnaligned 8
    if align = 2 ^ 64 - 1 then .error "unable to align length pointer in shared memory"
    else
      let lenPtr := wrappingAdd lenPtrUnaligned align
      .ok (disconnectPtr, lenPtr, wrappingAdd lenPtr 8)

/-- `offsets`, `channel.rs:223-238`. -/
def offsets (base : Nat) (l : Layout) : Except String (Nat × Nat × Nat) :=
  match offsetPtrs (wrappingAdd (wrappingAdd base l.serverEventLen) l.clientEventLen) with
  | .ok (disconnect, len, data) => .ok (disconnect - base, len - base, data - base)
  | .error e => .error e

private theorem wrappingAdd_of_lt {p n : Nat} (h : p + n < 2 ^ 64) : wrappingAdd p n = p + n :=
  Nat.mod_eq_of_lt h

private theorem alignOffset_one (p : Nat) : alignOffset p 1 = 0 := Nat.mod_one _

/-- Places in the region do not depend on where it is mapped, because that is at the start of a
page. -/
theorem offsets_eq {base : Nat} (l : Layout) (haligned : base % 4096 = 0)
    (hbound : base + (l.serverEventLen + l.clientEventLen) + 16 < 2 ^ 64) :
    offsets base l = .ok (l.serverEventLen + l.clientEventLen,
      (l.serverEventLen + l.clientEventLen) / 8 * 8 + 8,
      (l.serverEventLen + l.clientEventLen) / 8 * 8 + 16) := by
  have hfree : wrappingAdd (wrappingAdd base l.serverEventLen) l.clientEventLen =
      base + (l.serverEventLen + l.clientEventLen) := by
    have hserver : wrappingAdd base l.serverEventLen = base + l.serverEventLen :=
      wrappingAdd_of_lt (by omega)
    rw [hserver, wrappingAdd_of_lt (by omega), Nat.add_assoc]
  rw [offsets, hfree]
  generalize l.serverEventLen + l.clientEventLen = events at *
  have halign : alignOffset (base + events + 1) 8 = events / 8 * 8 + 8 - (events + 1) := by
    unfold alignOffset
    omega
  have hptrs : offsetPtrs (base + events) =
      .ok (base + events, base + (events / 8 * 8 + 8), base + (events / 8 * 8 + 16)) := by
    have hdisconnect : wrappingAdd (base + events) 0 = base + events := wrappingAdd_of_lt (by omega)
    have hunaligned : wrappingAdd (base + events) 1 = base + events + 1 := wrappingAdd_of_lt (by omega)
    have hlen : wrappingAdd (base + events + 1) (events / 8 * 8 + 8 - (events + 1)) =
        base + (events / 8 * 8 + 8) := by
      rw [wrappingAdd_of_lt (by omega)]
      omega
    have hdata : wrappingAdd (base + (events / 8 * 8 + 8)) 8 = base + (events / 8 * 8 + 16) :=
      wrappingAdd_of_lt (by omega)
    unfold offsetPtrs
    dsimp only
    rw [alignOffset_one, if_neg (by omega), hdisconnect, hunaligned, halign, if_neg (by omega), hlen, hdata]
  rw [hptrs]
  simp

/-! ## Operations -/

/-- The region and the two signals. -/
structure Region where
  bytes : List UInt8
  serverSignaled : Bool := false
  clientSignaled : Bool := false

/-- One side of the channel; `channel.rs:12-20`. -/
structure ShmemChannel (l : Layout) where
  base : Nat
  disconnectOffset : Nat
  lenOffset : Nat
  dataOffset : Nat
  offsets_base : offsets base l = .ok (disconnectOffset, lenOffset, dataOffset)
  server : Bool

section

variable {l : Layout} {α : Type}

/-- A side that has mapped the region. -/
def openChannel (base : Nat) (server : Bool) (l : Layout) : Except String (ShmemChannel l) :=
  match h : offsets base l with
  | .ok (disconnectOffset, lenOffset, dataOffset) =>
    .ok { base, disconnectOffset, lenOffset, dataOffset, offsets_base := h, server }
  | .error e => .error e

namespace ShmemChannel

variable (c : ShmemChannel l) (region : Region)

/-- Clear signals, flag and length; `channel.rs:42-63`. -/
def prepare : Region where
  bytes := writeAt (writeAt region.bytes c.disconnectOffset [0]) c.lenOffset (toLE 8 0)

/-- The flag is read; `channel.rs:194-202`. -/
def disconnect : Bool := window region.bytes c.disconnectOffset 1 ≠ [0]

/-- The length is read; `channel.rs:204-212`. -/
def dataLen : Nat := ofLE (window region.bytes c.lenOffset 8)

/-- `send_raw`, `channel.rs:110-144`. -/
def sendRaw (msg : List UInt8) : Except String Unit × Region :=
  let capacity := region.bytes.length - c.dataOffset
  if capacity < msg.length then
    (.error s!"message too large for shared memory: {msg.length} > {capacity}", region)
  else
    let written := writeAt region.bytes c.dataOffset msg
    let bytes := writeAt written c.lenOffset (toLE 8 msg.length)
    let region := if c.server then { region with bytes, clientSignaled := true }
      else { region with bytes, serverSignaled := true }
    if c.disconnect region then (.error "server closed the connection", region) else (.ok (), region)

/-- `send`, `channel.rs:101-108`. -/
def send (codec : Bytes.Serializer α) (value : α) : Except String Unit × Region :=
  match codec.serialize value with
  | .ok msg => c.sendRaw region msg
  | .error e => (.error e, region)

/-- What is done after the signal; `channel.rs:162-191`. -/
def receiveSignaled (codec : Bytes.Serializer α) : Except String (Option α) :=
  if c.disconnect region then .ok none
  else
    let msgLen := c.dataLen region
    if msgLen = 0 then .error "received message with zero length"
    else if region.bytes.length - c.dataOffset ≤ msgLen then
      .error s!"received message exceeds shared memory bounds: {msgLen} >= {region.bytes.length - c.dataOffset}"
    else (codec.deserialize (window region.bytes c.dataOffset msgLen)).map some

/-- `receive`, `channel.rs:146-192`, which waits if there is no signal. -/
def receive (codec : Bytes.Serializer α) : Option (Except String (Option α) × Region) :=
  if c.server then
    if region.serverSignaled then
      some (c.receiveSignaled region codec, { region with serverSignaled := false })
    else none
  else
    if region.clientSignaled then
      some (c.receiveSignaled region codec, { region with clientSignaled := false })
    else none

end ShmemChannel

/-- `new_server`, `channel.rs:33-74`. -/
def newServer (base : Nat) (l : Layout) (region : Region) : Except String (ShmemChannel l × Region) :=
  (openChannel base true l).map fun c => (c, c.prepare region)

/-- `new_client`, `channel.rs:84-99`. -/
def newClient (base : Nat) (l : Layout) : Except String (ShmemChannel l) := openChannel base false l

/-- The region is mapped at the start of a page, and it has room for everything before the message. -/
structure ShmemChannel.Mapped (c : ShmemChannel l) (size : Nat) : Prop where
  aligned : c.base % 4096 = 0
  bound : c.base + size < 2 ^ 64
  fits : l.serverEventLen + l.clientEventLen + 16 ≤ size

private theorem offsets_agree {c : ShmemChannel l} {size : Nat} (h : c.Mapped size) :
    c.disconnectOffset = l.serverEventLen + l.clientEventLen ∧
      c.lenOffset = (l.serverEventLen + l.clientEventLen) / 8 * 8 + 8 ∧
      c.dataOffset = (l.serverEventLen + l.clientEventLen) / 8 * 8 + 16 := by
  have hbound := h.bound
  have hfits := h.fits
  have heq := c.offsets_base.symm.trans (offsets_eq l h.aligned (by omega))
  simpa using heq

/-! ## Messages arrive -/

variable {c r : ShmemChannel l} {region : Region} {msg : List UInt8}

/-- The region after a message was written. -/
def Written (c : ShmemChannel l) (region : Region) (msg : List UInt8) (region' : Region) : Prop :=
  region'.bytes = writeAt (writeAt region.bytes c.dataOffset msg) c.lenOffset
    (toLE 8 msg.length)

section

variable {region' : Region} (hc : c.Mapped region.bytes.length) (hr : r.Mapped region.bytes.length)
  (hlen : msg.length ≤ region.bytes.length - c.dataOffset) (hw : Written c region msg region')

include hc hlen hw

private theorem length_written : region'.bytes.length = region.bytes.length := by
  obtain ⟨hdisconnect, hlenOffset, hdata⟩ := offsets_agree hc
  have hfits := hc.fits
  have hmsg : (writeAt region.bytes c.dataOffset msg).length = region.bytes.length :=
    length_writeAt (by omega)
  rw [hw, length_writeAt, hmsg]
  rw [hmsg, length_toLE]
  omega

include hr

private theorem read_written :
    r.disconnect region' = r.disconnect region ∧ r.dataLen region' = msg.length ∧
      window region'.bytes r.dataOffset msg.length = msg := by
  obtain ⟨hdisconnect, hlenOffset, hdata⟩ := offsets_agree hc
  obtain ⟨hdisconnect', hlenOffset', hdata'⟩ := offsets_agree hr
  have hfits := hc.fits
  have hbound := hc.bound
  have hmsg : (writeAt region.bytes c.dataOffset msg).length = region.bytes.length :=
    length_writeAt (by omega)
  have hlen8 : c.lenOffset + (toLE 8 msg.length).length ≤
      (writeAt region.bytes c.dataOffset msg).length := by
    rw [hmsg, length_toLE]
    omega
  refine ⟨?_, ?_, ?_⟩
  · unfold ShmemChannel.disconnect
    rw [hw, window_writeAt_of_ge hlen8 (by omega), window_writeAt_of_ge (by omega) (by omega)]
  · have hwindow : window (writeAt (writeAt region.bytes c.dataOffset msg) c.lenOffset
        (toLE 8 msg.length)) c.lenOffset (toLE 8 msg.length).length = _ :=
      window_writeAt (by omega)
    rw [length_toLE] at hwindow
    unfold ShmemChannel.dataLen
    rw [hw, hlenOffset', ← hlenOffset, hwindow, ofLE_toLE_of_lt (by omega)]
  · rw [hw, window_writeAt_of_le hlen8 (by rw [length_toLE]; omega), hdata', ← hdata,
      window_writeAt (by omega)]

end

/-- What is received after a value was sent is the value. -/
def Delivers (codec : Bytes.Serializer α) (c r : ShmemChannel l) (region : Region) (value : α) : Prop :=
  ∀ region', c.send region codec value = (.ok (), region') →
    ∃ region'', r.receive region' codec = some (.ok (some value), region'')

private theorem sendRaw_of_le (hc : c.Mapped region.bytes.length)
    (hconnected : c.disconnect region = false)
    (hlen : msg.length ≤ region.bytes.length - c.dataOffset) :
    ∃ region', c.sendRaw region msg = (.ok (), region') ∧ Written c region msg region' ∧
      (if c.server then region'.clientSignaled else region'.serverSignaled) = true := by
  unfold ShmemChannel.sendRaw
  dsimp only
  rw [if_neg (by omega)]
  cases hserver : c.server with
  | true =>
    have hw : Written c region msg { region with
        bytes := writeAt (writeAt region.bytes c.dataOffset msg) c.lenOffset
          (toLE 8 msg.length)
        clientSignaled := true } := rfl
    refine ⟨_, ?_, hw, rfl⟩
    simp [(read_written hc hc hlen hw).1, hconnected]
  | false =>
    have hw : Written c region msg { region with
        bytes := writeAt (writeAt region.bytes c.dataOffset msg) c.lenOffset
          (toLE 8 msg.length)
        serverSignaled := true } := rfl
    refine ⟨_, ?_, hw, rfl⟩
    simp [(read_written hc hc hlen hw).1, hconnected]

private theorem sendRaw_of_lt (hlen : region.bytes.length - c.dataOffset < msg.length)
    {region' : Region} :
    c.sendRaw region msg ≠ (.ok (), region') := by
  simp [ShmemChannel.sendRaw, hlen]

private theorem disconnect_agree (hc : c.Mapped region.bytes.length)
    (hr : r.Mapped region.bytes.length) :
    r.disconnect region = c.disconnect region := by
  unfold ShmemChannel.disconnect
  rw [(offsets_agree hc).1, (offsets_agree hr).1]

private theorem receive_signaled (codec : Bytes.Serializer α) (hside : r.server = !c.server)
    (hsignal : (if c.server then region.clientSignaled else region.serverSignaled) = true) :
    ∃ region', r.receive region codec = some (r.receiveSignaled region codec, region') := by
  unfold ShmemChannel.receive
  cases hserver : c.server with
  | true =>
    rw [hserver] at hside hsignal
    simp only [if_true] at hsignal
    exact ⟨_, by simp [hside, hsignal]; rfl⟩
  | false =>
    rw [hserver] at hside hsignal
    simp only [Bool.false_eq_true, if_false] at hsignal
    exact ⟨_, by simp [hside, hsignal]; rfl⟩

private theorem receive_written (codec : Bytes.Serializer α) {value : α}
    (hserialize : codec.serialize value = .ok msg)
    (hc : c.Mapped region.bytes.length) (hr : r.Mapped region.bytes.length)
    (hconnected : r.disconnect region = false) (hlen : msg.length ≤ region.bytes.length - c.dataOffset)
    {region' : Region} (hw : Written c region msg region') :
    r.receiveSignaled region' codec = .ok (some value) ↔
      msg ≠ [] ∧ msg.length ≠ region.bytes.length - c.dataOffset := by
  obtain ⟨hflag, hdataLen, hwindow⟩ := read_written hc hr hlen hw
  obtain ⟨-, -, hdata⟩ := offsets_agree hc
  obtain ⟨-, -, hdata'⟩ := offsets_agree hr
  unfold ShmemChannel.receiveSignaled
  dsimp only
  rw [hflag, hconnected, hdataLen, length_written hc hlen hw, hwindow, codec.roundTrip hserialize,
    hdata', ← hdata]
  by_cases hempty : msg = []
  · simp [hempty]
  · have hpos : msg.length ≠ 0 := by simpa using hempty
    by_cases hfull : msg.length = region.bytes.length - c.dataOffset
    · have hge : region.bytes.length - c.dataOffset ≤ msg.length := by omega
      rw [if_neg (by simp), if_neg hpos, if_pos hge]
      simp [hfull]
    · have hlt : ¬ region.bytes.length - c.dataOffset ≤ msg.length := by omega
      simp [hpos, hfull, hlt, hempty, Except.map]

private theorem delivers_bytes (codec : Bytes.Serializer α) (hc : c.Mapped region.bytes.length)
    (hr : r.Mapped region.bytes.length) (hside : r.server = !c.server)
    (hconnected : c.disconnect region = false) {value : α}
    (hserialize : codec.serialize value = .ok msg) :
    Delivers codec c r region value ↔
      msg ≠ [] ∧ msg.length ≠ region.bytes.length - c.dataOffset := by
  unfold Delivers ShmemChannel.send
  simp only [hserialize]
  by_cases hlen : msg.length ≤ region.bytes.length - c.dataOffset
  · obtain ⟨region', hsend, hw, hsignal⟩ := sendRaw_of_le hc hconnected hlen
    obtain ⟨region'', hreceive⟩ := receive_signaled codec hside hsignal
    rw [← receive_written codec hserialize hc hr ((disconnect_agree hc hr).trans hconnected) hlen hw]
    simp [hsend, hreceive]
  · refine iff_of_true (fun region' hsend => absurd hsend (sendRaw_of_lt (by omega))) ⟨?_, by omega⟩
    rintro rfl
    simp at hlen

/-- For both directions, every size of the region and every value: what is accepted also arrives, exactly
if its bytes are not empty and do not fill the region. -/
theorem delivers_iff (codec : Bytes.Serializer α) (hc : c.Mapped region.bytes.length)
    (hr : r.Mapped region.bytes.length) (hside : r.server = !c.server)
    (hconnected : c.disconnect region = false) (value : α) :
    Delivers codec c r region value ↔
      ∀ msg, codec.serialize value = .ok msg →
        msg ≠ [] ∧ msg.length ≠ region.bytes.length - c.dataOffset := by
  cases hserialize : codec.serialize value with
  | error e => simp [Delivers, ShmemChannel.send, hserialize]
  | ok msg => simp [delivers_bytes codec hc hr hside hconnected hserialize]

private theorem length_prepare (hc : c.Mapped region.bytes.length) :
    (c.prepare region).bytes.length = region.bytes.length := by
  obtain ⟨hdisconnect, hlenOffset, -⟩ := offsets_agree hc
  have hfits := hc.fits
  have hflag : (writeAt region.bytes c.disconnectOffset [0]).length = region.bytes.length :=
    length_writeAt (by simp; omega)
  rw [ShmemChannel.prepare, length_writeAt, hflag]
  rw [hflag, length_toLE]
  omega

private theorem disconnect_prepare (hc : c.Mapped region.bytes.length) :
    c.disconnect (c.prepare region) = false := by
  obtain ⟨hdisconnect, hlenOffset, -⟩ := offsets_agree hc
  have hfits := hc.fits
  have hflag : (writeAt region.bytes c.disconnectOffset [0]).length = region.bytes.length :=
    length_writeAt (by simp; omega)
  have hzero : window (writeAt region.bytes c.disconnectOffset [0]) c.disconnectOffset 1 = [0] :=
    @window_writeAt _ [0] _ (by omega)
  rw [ShmemChannel.disconnect, ShmemChannel.prepare,
    window_writeAt_of_ge (by rw [hflag, length_toLE]; omega) (by omega), hzero]
  rfl

private theorem openChannel_server {base : Nat} {server : Bool}
    (h : openChannel base server l = .ok c) : c.server = server := by
  unfold openChannel at h
  split at h
  · cases h
    rfl
  · cases h

/-- A server and a client that open a region are connected, and messages arrive in both directions
under the same condition. -/
theorem delivers_opened_iff (codec : Bytes.Serializer α) {base base' : Nat} {opened : Region}
    (hserver : newServer base l region = .ok (c, opened)) (hclient : newClient base' l = .ok r)
    (hc : c.Mapped region.bytes.length) (hr : r.Mapped region.bytes.length) {value : α}
    (hserialize : codec.serialize value = .ok msg) :
    (Delivers codec c r opened value ↔
      msg ≠ [] ∧ msg.length ≠ region.bytes.length - c.dataOffset) ∧
    (Delivers codec r c opened value ↔
      msg ≠ [] ∧ msg.length ≠ region.bytes.length - r.dataOffset) := by
  unfold newServer at hserver
  cases hopen : openChannel base true l with
  | error e => rw [hopen] at hserver; cases hserver
  | ok side =>
    rw [hopen] at hserver
    cases hserver
    have hlen := length_prepare hc
    have hconnected := disconnect_prepare hc
    have hsides : c.server = true ∧ r.server = false :=
      ⟨openChannel_server hopen, openChannel_server hclient⟩
    rw [← hlen] at hc hr ⊢
    exact ⟨delivers_bytes codec hc hr (by rw [hsides.1, hsides.2]; rfl) hconnected hserialize,
      delivers_bytes codec hr hc (by rw [hsides.1, hsides.2]; rfl)
        ((disconnect_agree hc hr).trans hconnected) hserialize⟩

end

/-- Numbers of 64 bits have eight bytes. -/
def u64Codec : Bytes.Serializer UInt64 where
  serialize value := .ok (toLE 8 value.toNat)
  deserialize bytes := .ok (UInt64.ofNat (ofLE bytes))
  roundTrip := by
    rintro value bytes ⟨⟩
    rw [ofLE_toLE_of_lt (by have := value.toNat_lt; omega), UInt64.ofNat_toNat]

/-- A side of a channel with events of 40 bytes. -/
def side (server : Bool) : ShmemChannel ⟨40, 40⟩ where
  base := 4096
  disconnectOffset := 80
  lenOffset := 88
  dataOffset := 96
  offsets_base := by decide
  server

/-- A new region with room for so many bytes of a message. -/
def freshRegion (capacity : Nat) : Region := ⟨List.replicate (96 + capacity) 0, false, false⟩

private theorem mapped_side (server : Bool) {capacity : Nat} (h : capacity < 2 ^ 32) :
    (side server).Mapped (freshRegion capacity).bytes.length := by
  refine ⟨by simp [side], ?_, ?_⟩
  · simp only [side, freshRegion, List.length_replicate]
    omega
  · simp [freshRegion]

/-- A number is sent through a region with one byte to spare. -/
theorem number_delivered :
    (side true).disconnect (freshRegion 9) = false ∧
      Delivers u64Codec (side true) (side false) (freshRegion 9) 42 := by
  have hconnected : (side true).disconnect (freshRegion 9) = false := by decide
  refine ⟨hconnected, (delivers_iff u64Codec (mapped_side true (by decide)) (mapped_side false (by decide))
    rfl hconnected 42).mpr ?_⟩
  rintro msg ⟨⟩
  exact ⟨by decide, by decide⟩

/-- A number that fills the region is sent and refused. -/
theorem fullRegion_not_delivered :
    (side true).disconnect (freshRegion 8) = false ∧
      ¬ Delivers u64Codec (side true) (side false) (freshRegion 8) 42 := by
  have hconnected : (side true).disconnect (freshRegion 8) = false := by decide
  refine ⟨hconnected, fun h => ?_⟩
  have hbytes := (delivers_bytes u64Codec (mapped_side true (by decide)) (mapped_side false (by decide)) rfl
    hconnected rfl).mp h
  exact hbytes.2 (by decide)

end DoraSpec.SharedMemory
