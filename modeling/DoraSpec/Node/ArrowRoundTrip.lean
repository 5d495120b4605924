import DoraSpec.Node.ArrowUtils

/-!
# Arrays that survive a sample

Source `apis/rust/node/src/node/arrow_utils.rs:37-188`. The sample keeps the buffers of the
layout and the whole null bitmap, but not the position of the bitmap's first bit: the decoder reads
the bitmap at the offset of the array. What a decoder returns is stated on the array that was
copied (`rebase`, `Accepted`), and compared with it (`SameData`).
-/

namespace DoraSpec.Node
open Base Base.Bytes Arrow Message Outcome List

variable {arrow : ArrowCrate}

/-! ## Buffers of one level -/

private theorem le_alignFor (spec : BufferSpec) (next : Nat) : next ≤ alignFor spec next := by
  cases spec with
  | fixedWidth byteWidth alignment alignment_pos =>
    have hm := Nat.mod_lt (next + alignment - 1) alignment_pos
    have hd := Nat.div_add_mod' (next + alignment - 1) alignment
    change next ≤ (next + alignment - 1) / alignment * alignment
    omega
  | variableWidth | bitMap | alwaysNull => exact le_rfl

private theorem le_buffersSize (buffers : List (List UInt8)) (specs : List BufferSpec)
    (next : Nat) : next ≤ buffersSize buffers specs next := by
  fun_induction buffersSize buffers specs next with
  | case1 buffer buffers spec specs next ih =>
    have := le_alignFor spec next
    omega
  | case2 => exact le_rfl

variable {buffers : List (List UInt8)} {offsets : List BufferOffset} {specs : List BufferSpec}
  {next : Nat} {a : ArrayData} {children : List ArrayData} {t t' : List UInt8}

private theorem sliceBuffers_cons {raw buffer : List UInt8} {pos : Nat} (hl : raw.length < 2 ^ 64)
    (hp : pos + buffer.length ≤ raw.length) (hw : window raw pos buffer.length = buffer)
    (hs : sliceBuffers raw offsets = .ok buffers) :
    sliceBuffers raw (⟨pos, buffer.length⟩ :: offsets) = .ok (buffer :: buffers) := by
  have ho : ¬ pos + buffer.length ≥ 2 ^ 64 := by omega
  have hb : ¬ pos + buffer.length > raw.length := by omega
  simp only [sliceBuffers, if_neg ho, if_neg hb, hs, hw]
  rfl

/-- The copy of the buffers of one level: it returns, it leaves what was there before, and every
sample that keeps what was written gives the buffers of the layout back. -/
def CopiesBuffers (buffers : List (List UInt8)) (specs : List BufferSpec) (target : List UInt8)
    (next : Nat) : Prop :=
  ∃ target' offsets,
    copyBuffers buffers specs target next =
      .ok (target', buffersSize buffers specs next, offsets) ∧
    AgreeUpTo next target' target ∧ offsets.length = (buffers.take specs.length).length ∧
    ∀ final, final.length < 2 ^ 64 → AgreeUpTo (buffersSize buffers specs next) final target' →
      sliceBuffers final offsets = .ok (buffers.take specs.length)

private theorem copiesBuffers_nil (h : buffers = [] ∨ specs = []) (target : List UInt8)
    (next : Nat) :
    CopiesBuffers buffers specs target next := by
  refine ⟨target, [], ?_, .refl _ _, ?_, fun _ _ _ => ?_⟩
  · rcases h with rfl | rfl <;> simp [copyBuffers, buffersSize]
  · rcases h with rfl | rfl <;> simp
  · rcases h with rfl | rfl <;> simp [sliceBuffers]

variable {target u u' : List UInt8} {infos : List ArrowTypeInfo} {n : Nat}

private theorem copiesBuffers (h : buffersSize buffers specs next ≤ target.length) :
    CopiesBuffers buffers specs target next := by
  induction buffers generalizing specs target next with
  | nil => exact copiesBuffers_nil (.inl rfl) target next
  | cons buffer buffers ih =>
    cases specs with
    | nil => exact copiesBuffers_nil (.inr rfl) target next
    | cons spec specs =>
      rw [buffersSize] at h
      have ha := le_alignFor spec next
      have hb := le_buffersSize buffers specs (alignFor spec next + buffer.length)
      have hfit : alignFor spec next + buffer.length ≤ target.length := by omega
      have hw := agreeUpTo_writeAt (le_refl (alignFor spec next)) hfit
      rw [← hw.1] at h
      obtain ⟨target', offsets, hc, hk, ho, hs⟩ := ih h
      refine ⟨target', ⟨alignFor spec next, buffer.length⟩ :: offsets, ?_, ?_, ?_, ?_⟩
      · rw [copyBuffers, if_neg (by omega), if_neg (by omega), if_neg (by omega), hc]
        rfl
      · exact (hk.mono (by omega)).trans (hw.mono ha)
      · simpa using ho
      · intro final hl hf
        rw [buffersSize] at hf
        -- the later writes lie behind this buffer
        have hwin := (hf.mono hb).window_eq le_rfl
        rw [hk.window_eq le_rfl, window_writeAt (by omega)] at hwin
        have hlen : final.length = target.length := hf.1.trans (hk.1.trans hw.1)
        exact sliceBuffers_cons hl (by omega) hwin (hs final hl hf)

/-! ## What the decoder returns -/

/-- Null mask that the decoder reads: the whole bitmap, at the offset of the array. -/
def rereadNulls {len : Nat} (offset : Nat) : Option (NullBuffer len) → Option (NullBuffer len)
  | some nulls =>
    if fits : offset + len ≤ 8 * nulls.bytes.length then
      maskAt nulls.bytes offset fits
    else none
  | none => none

variable (arrow) in
mutual
/-- The array with the buffers of its layout only and with its null bitmap, and those of its
children, read at the offset of the array. -/
def rebase : ArrayData → ArrayData
  | ⟨dataType, len, offset, buffers, nulls, childData⟩ =>
    ⟨dataType, len, offset, buffers.take (arrow.layout dataType).length,
      rereadNulls offset nulls, rebaseChildren childData⟩

/-- The children, one after the other. -/
def rebaseChildren : List ArrayData → List ArrayData
  | [] => []
  | child :: children => rebase child :: rebaseChildren children
end

variable (arrow) in
/-- The decoder takes the array at a depth: the limits on nesting, buffers and children hold, the
null bitmap is long enough from the offset of the array on, and the crate accepts the result. -/
inductive Accepted : ArrayData → Nat → Prop
  | node {a : ArrayData} {depth : Nat} (hdepth : depth ≤ maxTypeDepth)
    (hbuffers : (a.buffers.take (arrow.layout a.dataType).length).length ≤ maxEntries)
    (hchildren : a.childData.length ≤ maxEntries)
    (hmask : ∀ nulls ∈ a.nulls, a.offset + a.len ≤ 8 * nulls.bytes.length)
    (hvalid : arrow.validateData (rebase arrow a) = .ok ())
    (hrec : ∀ c ∈ a.childData, Accepted c (depth + 1)) : Accepted a depth

private theorem rebaseChildren_eq_map (children : List ArrayData) :
    rebaseChildren arrow children = children.map (rebase arrow) := by
  induction children with
  | nil => rfl
  | cons child children ih => rw [rebaseChildren, ih, map_cons]

private theorem rebase_eq (a : ArrayData) :
    rebase arrow a = ⟨a.dataType, a.len, a.offset,
      a.buffers.take (arrow.layout a.dataType).length, rereadNulls a.offset a.nulls,
      a.childData.map (rebase arrow)⟩ := by
  cases a
  rw [rebase, rebaseChildren_eq_map]

private theorem mapError_eq_ok {α : Type} {x : Except String α} {f : String → String} {b : α} :
    x.mapError f = .ok b ↔ x = .ok b := by
  cases x <;> simp [Except.mapError]

private theorem tryNew_mapError_eq_ok {dataType : DataType} {len offset : Nat}
    {nulls : Option (NullBuffer len)} {b : ArrayData} {f : String → String} :
    (arrow.tryNew dataType len (nulls.map NullBuffer.bytes) offset buffers children).mapError f =
        .ok b ↔
      (∀ n ∈ nulls, offset + len ≤ 8 * n.bytes.length) ∧
      arrow.validateData
        ⟨dataType, len, offset, buffers, rereadNulls offset nulls, children⟩ = .ok () ∧
      b = ⟨dataType, len, offset, buffers, rereadNulls offset nulls, children⟩ := by
  rw [mapError_eq_ok, arrow.tryNew_eq_ok]
  cases nulls with
  | none => simp [IsMask, rereadNulls]
  | some n =>
    by_cases h : offset + len ≤ 8 * n.bytes.length
    · simp [IsMask, rereadNulls, h]
    · simp [IsMask, h]

/-- Type information that describes an array in a sample: decoding takes the array whenever its
limits and the crate do, and returns it with its bitmaps read at its offsets. -/
def Describes (arrow : ArrowCrate) (sample : List UInt8) (info : ArrowTypeInfo) (a : ArrayData) :
    Prop :=
  ∀ depth b, bufferIntoArrowArrayInner arrow sample info depth = .ok b ↔
    Accepted arrow a depth ∧ b = rebase arrow a

private theorem decodeChildren_eq_ok {sample : List UInt8}
    (h : List.Forall₂ (Describes arrow sample) infos children) (depth : Nat) (bs : List ArrayData) :
    decodeChildren arrow sample infos depth = .ok bs ↔
      (∀ c ∈ children, Accepted arrow c depth) ∧ bs = rebaseChildren arrow children := by
  induction h generalizing bs with
  | nil => simp [decodeChildren, rebaseChildren, eq_comm]
  | @cons info child infos children hd _ ih =>
    rw [decodeChildren, except_bind_eq_ok]
    simp only [hd depth, except_bind_eq_ok, ih, rebaseChildren, forall_mem_cons]
    constructor
    · rintro ⟨b, ⟨hb, rfl⟩, bs', ⟨hbs, rfl⟩, hp⟩
      exact ⟨⟨hb, hbs⟩, (Except.ok.inj hp).symm⟩
    · rintro ⟨⟨hb, hbs⟩, rfl⟩
      exact ⟨_, ⟨hb, rfl⟩, _, ⟨hbs, rfl⟩, rfl⟩

private theorem describes_node {sample : List UInt8} (hne : sample ≠ [])
    (hcount : offsets.length = (a.buffers.take (arrow.layout a.dataType).length).length)
    (hslice : sliceBuffers sample offsets = .ok (a.buffers.take (arrow.layout a.dataType).length))
    (hrec : List.Forall₂ (Describes arrow sample) infos a.childData) :
    Describes arrow sample (arrowTypeInfo arrow a offsets infos) a := by
  obtain ⟨dataType, len, offset, buffers, nulls, children⟩ := a
  dsimp only at hcount hslice hrec
  intro depth b
  have hn := hrec.length_eq
  rw [arrowTypeInfo, bufferIntoArrowArrayInner, if_neg hne]
  constructor
  · intro h
    split at h
    · cases h
    · split at h
      · cases h
      · split at h
        · cases h
        · obtain ⟨kept, hkept, h⟩ := except_bind_eq_ok.mp h
          obtain rfl := Except.ok.inj (hslice.symm.trans hkept)
          obtain ⟨bs, hbs, ht⟩ := except_bind_eq_ok.mp h
          obtain ⟨hc, rfl⟩ := (decodeChildren_eq_ok hrec _ bs).mp hbs
          obtain ⟨hm, hv, rfl⟩ := tryNew_mapError_eq_ok.mp ht
          exact ⟨.node (by omega) (by dsimp only; omega) (by dsimp only; omega) hm hv hc, rfl⟩
  · rintro ⟨⟨hd, hb, hc, hm, hv, hr⟩, rfl⟩
    dsimp only at hb hc
    rw [if_neg (by omega), if_neg (by omega), if_neg (by omega)]
    refine except_bind_eq_ok.mpr ⟨_, hslice, except_bind_eq_ok.mpr ?_⟩
    exact ⟨_, (decodeChildren_eq_ok hrec _ _).mpr ⟨hr, rfl⟩, tryNew_mapError_eq_ok.mpr ⟨hm, hv, rfl⟩⟩

/-! ## Copying whole arrays -/

private theorem le_requiredChildrenSize_of
    (h : ∀ c ∈ children, ∀ next, next ≤ requiredDataSizeInner arrow c next) (next : Nat) :
    next ≤ requiredChildrenSize arrow children next := by
  induction children generalizing next with
  | nil => rw [requiredChildrenSize]
  | cons child children ih =>
    obtain ⟨hc, hcs⟩ := forall_mem_cons.mp h
    rw [requiredChildrenSize]
    exact (hc next).trans (ih hcs _)

private theorem le_requiredDataSizeInner (a : ArrayData) (next : Nat) :
    next ≤ requiredDataSizeInner arrow a next := by
  induction a using ArrayData.childInduction generalizing next with
  | node a ih =>
    cases a
    rw [requiredDataSizeInner]
    exact (le_buffersSize _ _ _).trans (le_requiredChildrenSize_of ih _)

private theorem le_requiredChildrenSize (children : List ArrayData) (next : Nat) :
    next ≤ requiredChildrenSize arrow children next :=
  le_requiredChildrenSize_of (fun c _ next => le_requiredDataSizeInner c next) next

variable (arrow) in
/-- The copy of an array into a large enough target: it returns, it leaves what was there before,
and its type information describes the array in every sample that keeps what was written. -/
def CopiesAt (a : ArrayData) : Prop :=
  ∀ (target : List UInt8) (next : Nat),
    requiredDataSizeInner arrow a next ≤ target.length →
      ∃ target' info,
        copyArrayIntoSampleInner arrow a target next =
          .ok (target', requiredDataSizeInner arrow a next, info) ∧
        AgreeUpTo next target' target ∧ info.dataType = a.dataType ∧
        ∀ final, final ≠ [] → final.length < 2 ^ 64 →
          AgreeUpTo (requiredDataSizeInner arrow a next) final target' → Describes arrow final info a

private theorem copyChildren_spec (h : ∀ c ∈ children, CopiesAt arrow c)
    (hfit : requiredChildrenSize arrow children next ≤ target.length) :
    ∃ target' infos,
      copyChildren arrow children target next =
        .ok (target', requiredChildrenSize arrow children next, infos) ∧
      AgreeUpTo next target' target ∧
      ∀ final, final ≠ [] → final.length < 2 ^ 64 →
        AgreeUpTo (requiredChildrenSize arrow children next) final target' →
        List.Forall₂ (Describes arrow final) infos children := by
  induction children generalizing target next with
  | nil =>
    refine ⟨target, [], by rw [copyChildren, requiredChildrenSize], .refl _ _, ?_⟩
    intro final _ _ _
    exact .nil
  | cons child children ih =>
    obtain ⟨hc, hcs⟩ := forall_mem_cons.mp h
    rw [requiredChildrenSize] at hfit ⊢
    have hnext : next ≤ requiredDataSizeInner arrow child next := le_requiredDataSizeInner _ _
    generalize hm : requiredDataSizeInner arrow child next = mid at hfit hnext ⊢
    have hle : mid ≤ requiredChildrenSize arrow children mid := le_requiredChildrenSize _ _
    obtain ⟨t, info, hcopy, hk, -, hd⟩ := hc target next (by omega)
    rw [hm] at hcopy hd
    rw [← hk.1] at hfit
    obtain ⟨t', infos, hcopies, hks, hds⟩ := ih hcs hfit
    refine ⟨t', info :: infos, ?_, (hks.mono hnext).trans hk, ?_⟩
    · simp only [copyChildren, hcopy, hcopies, ok_bind, pure_eq_ok]
    · intro final hne hl hf
      -- the later children lie behind this one
      exact .cons (hd final hne hl ((hf.mono hle).trans hks)) (hds final hne hl hf)

/-- Every array is copied and described, by induction along its children. -/
theorem copiesAt (a : ArrayData) : CopiesAt arrow a := by
  induction a using ArrayData.childInduction with
  | node a ih =>
    intro target next hfit
    obtain ⟨dataType, len, offset, buffers, nulls, children⟩ := a
    dsimp only at ih
    rw [requiredDataSizeInner] at hfit ⊢
    have hnext : next ≤ buffersSize buffers (arrow.layout dataType) next := le_buffersSize _ _ _
    generalize hm : buffersSize buffers (arrow.layout dataType) next = mid at hfit hnext ⊢
    have hle : mid ≤ requiredChildrenSize arrow children mid := le_requiredChildrenSize _ _
    have hbuf : buffersSize buffers (arrow.layout dataType) next ≤ target.length := by omega
    obtain ⟨t, offsets, hcopy, hk, ho, hs⟩ := copiesBuffers hbuf
    rw [hm] at hcopy hs
    rw [← hk.1] at hfit
    obtain ⟨t', infos, hcopies, hks, hds⟩ := copyChildren_spec ih hfit
    refine ⟨t', arrowTypeInfo arrow ⟨dataType, len, offset, buffers, nulls, children⟩ offsets infos,
      ?_, (hks.mono hnext).trans hk, rfl, ?_⟩
    · simp only [copyArrayIntoSampleInner, hcopy, hcopies, ok_bind, pure_eq_ok]
    · intro final hne hl hf
      exact describes_node hne ho (hs final hl ((hf.mono hle).trans hks)) (hds final hne hl hf)

/-! ## Type information -/

private theorem copyBuffers_cons_eq_ok {buffer : List UInt8} {spec : BufferSpec}
    (h : copyBuffers (buffer :: buffers) (spec :: specs) t next = .ok (t', n, offsets)) :
    ∃ rest, copyBuffers buffers specs (writeAt t (alignFor spec next) buffer)
        (alignFor spec next + buffer.length) = .ok (t', n, rest) ∧
      offsets = ⟨alignFor spec next, buffer.length⟩ :: rest := by
  rw [copyBuffers] at h
  split at h
  · cases h
  · split at h
    · cases h
    · split at h
      · cases h
      · obtain ⟨⟨_, _, rest⟩, hrest, h⟩ := bind_eq_ok.mp h
        cases h
        exact ⟨rest, hrest, rfl⟩

/-- Ranges that the buffers of one level take. -/
def placeBuffers : List (List UInt8) → List BufferSpec → Nat → List BufferOffset
  | buffer :: buffers, spec :: specs, next =>
    ⟨alignFor spec next, buffer.length⟩ ::
      placeBuffers buffers specs (alignFor spec next + buffer.length)
  | _, _, _ => []

variable (arrow) in
mutual
/-- Type information of an array that is copied to a position. -/
def typeInfoAt : ArrayData → Nat → ArrowTypeInfo
  | ⟨dataType, len, offset, buffers, nulls, childData⟩, next =>
    arrowTypeInfo arrow ⟨dataType, len, offset, buffers, nulls, childData⟩
      (placeBuffers buffers (arrow.layout dataType) next)
      (typeInfosAt childData (buffersSize buffers (arrow.layout dataType) next))

/-- Type information of the children. -/
def typeInfosAt : List ArrayData → Nat → List ArrowTypeInfo
  | [], _ => []
  | child :: children, next =>
    typeInfoAt child next :: typeInfosAt children (requiredDataSizeInner arrow child next)
end

private theorem copyBuffers_eq_ok (h : copyBuffers buffers specs t next = .ok (t', n, offsets)) :
    n = buffersSize buffers specs next ∧ offsets = placeBuffers buffers specs next := by
  induction buffers generalizing specs t next offsets with
  | nil => simp_all [copyBuffers, buffersSize, placeBuffers]
  | cons buffer buffers ih =>
    cases specs with
    | nil => simp_all [copyBuffers, buffersSize, placeBuffers]
    | cons spec specs =>
      obtain ⟨rest, hrest, rfl⟩ := copyBuffers_cons_eq_ok h
      obtain ⟨rfl, rfl⟩ := ih hrest
      exact ⟨rfl, rfl⟩

variable (arrow) in
/-- Position and type information after a copy do not depend on the target. -/
def InfoFixed (a : ArrayData) : Prop :=
  ∀ {t t' : List UInt8} {next n : Nat} {info : ArrowTypeInfo},
    copyArrayIntoSampleInner arrow a t next = .ok (t', n, info) →
      n = requiredDataSizeInner arrow a next ∧ info = typeInfoAt arrow a next

private theorem copyChildren_eq_ok (h : ∀ c ∈ children, InfoFixed arrow c)
    (ht : copyChildren arrow children t next = .ok (t', n, infos)) :
    n = requiredChildrenSize arrow children next ∧ infos = typeInfosAt arrow children next := by
  induction children generalizing t t' next n infos with
  | nil => simp_all [copyChildren, requiredChildrenSize, typeInfosAt]
  | cons child children ih =>
    obtain ⟨hc, hcs⟩ := forall_mem_cons.mp h
    rw [copyChildren] at ht
    obtain ⟨⟨_, _, _⟩, ht, ht'⟩ := bind_eq_ok.mp ht
    obtain ⟨rfl, rfl⟩ := hc ht
    obtain ⟨⟨_, _, _⟩, ht, ht'⟩ := bind_eq_ok.mp ht'
    obtain ⟨rfl, rfl⟩ := ih hcs ht
    cases ht'
    rw [requiredChildrenSize, typeInfosAt]
    exact ⟨rfl, rfl⟩

private theorem infoFixed (a : ArrayData) : InfoFixed arrow a := by
  induction a using ArrayData.childInduction with
  | node a ih =>
    intro t t' next n info ht
    obtain ⟨dataType, len, offset, buffers, nulls, children⟩ := a
    rw [copyArrayIntoSampleInner] at ht
    obtain ⟨⟨_, _, _⟩, ht, ht'⟩ := bind_eq_ok.mp ht
    obtain ⟨rfl, rfl⟩ := copyBuffers_eq_ok ht
    obtain ⟨⟨_, _, _⟩, ht, ht'⟩ := bind_eq_ok.mp ht'
    obtain ⟨rfl, rfl⟩ := copyChildren_eq_ok ih ht
    cases ht'
    rw [requiredDataSizeInner, typeInfoAt]
    exact ⟨rfl, rfl⟩

/-- Two copies of an array have the same type information. -/
theorem copyArrayIntoSample_info {info info' : ArrowTypeInfo}
    (ht : copyArrayIntoSample arrow t a = .ok (t', info))
    (hu : copyArrayIntoSample arrow u a = .ok (u', info')) : info = info' := by
  obtain ⟨⟨_, _, _⟩, ht, ht'⟩ := bind_eq_ok.mp ht
  obtain ⟨⟨_, _, _⟩, hu, hu'⟩ := bind_eq_ok.mp hu
  cases ht'
  cases hu'
  exact (infoFixed a ht).2.trans (infoFixed a hu).2.symm

/-! ## Empty samples -/

variable (arrow) in
/-- No buffer of a layout holds a byte, neither in the array nor in its children. -/
inductive Bytesless : ArrayData → Prop
  | node {a : ArrayData}
    (hbuffers : ∀ b ∈ a.buffers.take (arrow.layout a.dataType).length, b = [])
    (hrec : ∀ c ∈ a.childData, Bytesless c) : Bytesless a

private theorem alignFor_zero (spec : BufferSpec) : alignFor spec 0 = 0 := by
  cases spec with
  | fixedWidth byteWidth alignment alignment_pos =>
    rw [alignFor, Nat.div_eq_of_lt (by omega), Nat.zero_mul]
  | variableWidth | bitMap | alwaysNull => rfl

private theorem buffersSize_eq_zero :
    buffersSize buffers specs 0 = 0 ↔ ∀ b ∈ buffers.take specs.length, b = [] := by
  induction buffers generalizing specs with
  | nil => simp [buffersSize]
  | cons buffer buffers ih =>
    cases specs with
    | nil => simp [buffersSize]
    | cons spec specs =>
      rw [buffersSize, alignFor_zero, Nat.zero_add, length_cons, take_succ_cons,
        forall_mem_cons]
      cases buffer with
      | nil => simpa using ih
      | cons byte bytes =>
        have := le_buffersSize buffers specs (byte :: bytes).length
        rw [length_cons] at this ⊢
        simp only [reduceCtorEq, false_and, iff_false]
        omega

private theorem requiredChildrenSize_eq_zero_iff :
    requiredChildrenSize arrow children next = 0 ↔
      next = 0 ∧ requiredChildrenSize arrow children 0 = 0 := by
  constructor
  · intro h
    have hle : next ≤ requiredChildrenSize arrow children next := le_requiredChildrenSize _ _
    have hz : next = 0 := by omega
    exact ⟨hz, hz ▸ h⟩
  · rintro ⟨rfl, h⟩
    exact h

private theorem requiredChildrenSize_eq_zero
    (h : ∀ c ∈ children, requiredDataSizeInner arrow c 0 = 0 ↔ Bytesless arrow c) :
    requiredChildrenSize arrow children 0 = 0 ↔ ∀ c ∈ children, Bytesless arrow c := by
  induction children with
  | nil => simp [requiredChildrenSize]
  | cons child children ih =>
    obtain ⟨hc, hcs⟩ := forall_mem_cons.mp h
    rw [requiredChildrenSize, requiredChildrenSize_eq_zero_iff, hc, ih hcs, forall_mem_cons]

private theorem requiredDataSize_eq_zero :
    requiredDataSize arrow a = 0 ↔ Bytesless arrow a := by
  unfold requiredDataSize
  induction a using ArrayData.childInduction with
  | node a ih =>
    obtain ⟨dataType, len, offset, buffers, nulls, children⟩ := a
    rw [requiredDataSizeInner, requiredChildrenSize_eq_zero_iff, buffersSize_eq_zero,
      requiredChildrenSize_eq_zero ih]
    exact ⟨fun ⟨hb, hc⟩ => .node hb hc, fun ⟨hb, hc⟩ => ⟨hb, hc⟩⟩

/-! ## Comparing the decoded array -/

variable (arrow) in
/-- Same type, length, values and null positions. The offset and the buffers are kept, without
buffers that no element reads, and the children are compared in turn. Arrays without elements
only have a type to compare. -/
inductive SameData : ArrayData → ArrayData → Prop
  | empty {a b : ArrayData} (htype : b.dataType = a.dataType) (ha : a.len = 0)
    (hb : b.len = 0) : SameData a b
  | node {a b : ArrayData} (htype : b.dataType = a.dataType) (hlen : b.len = a.len)
    (hoffset : b.offset = a.offset) (hbuffers : b.buffers <+: a.buffers)
    (hreads : ∀ k, arrow.reads a.dataType (a.buffers.take (arrow.layout a.dataType).length) k →
      k < b.buffers.length)
    (hnulls : ∀ i < a.len, b.isNull i = a.isNull i)
    (hcount : b.childData.length = a.childData.length)
    (hchildren : ∀ (k : Nat) c d, a.childData[k]? = some c → b.childData[k]? = some d →
      SameData c d) : SameData a b

/-- In every array of the tree that has elements, the null bitmap shows the same bits from the
offset of the array on as from its own first bit on. -/
inductive MasksAgree : ArrayData → Prop
  | empty {a : ArrayData} (h : a.len = 0) : MasksAgree a
  | node {a : ArrayData}
    (hbits : ∀ nulls ∈ a.nulls, ∀ i < a.len,
      bitAt nulls.bytes (a.offset + i) = bitAt nulls.bytes (nulls.offset + i))
    (hchildren : ∀ c ∈ a.childData, MasksAgree c) : MasksAgree a

private theorem isNull_maskAt {dataType : DataType} {len offset i : Nat} {bytes : List UInt8}
    (fits : offset + len ≤ 8 * bytes.length) (hi : i < len) :
    (ArrayData.mk dataType len offset buffers (maskAt bytes offset fits)
      children).isNull i = !bitAt bytes (offset + i) := by
  unfold maskAt
  split
  · next h =>
    have hn := countP_eq_zero.mp h i (mem_range.mpr hi)
    simpa [ArrayData.isNull, NullBuffer.isNull] using hn
  · rfl

private theorem isNull_rebase_iff
    (h : ∀ nulls ∈ a.nulls, a.offset + a.len ≤ 8 * nulls.bytes.length) :
    (∀ i < a.len, (rebase arrow a).isNull i = a.isNull i) ↔
      ∀ nulls ∈ a.nulls, ∀ i < a.len,
        bitAt nulls.bytes (a.offset + i) = bitAt nulls.bytes (nulls.offset + i) := by
  obtain ⟨dataType, len, offset, buffers, nulls, children⟩ := a
  cases nulls with
  | none => simp [rebase, rereadNulls, ArrayData.isNull]
  | some n =>
    have hfits : offset + len ≤ 8 * n.bytes.length := h n rfl
    simp only [rebase, rereadNulls, dif_pos hfits, Option.mem_some_iff, forall_eq']
    apply forall₂_congr
    intro i hi
    rw [isNull_maskAt hfits hi]
    simp [ArrayData.isNull, NullBuffer.isNull]

private theorem sameData_rebase_iff {depth : Nat} (h : Accepted arrow a depth) :
    SameData arrow a (rebase arrow a) ↔ MasksAgree a := by
  induction a using ArrayData.childInduction generalizing depth with
  | node a ih =>
    obtain ⟨-, -, -, hm, hv, hr⟩ := h
    have hchild : (rebase arrow a).childData = a.childData.map (rebase arrow) := by
      rw [rebase_eq]
    constructor
    · intro hs
      cases hs with
      | empty _ ha _ => exact .empty ha
      | node _ _ _ _ _ hn _ hc =>
        refine .node ((isNull_rebase_iff hm).mp hn) fun c hc' => ?_
        obtain ⟨k, hk⟩ := mem_iff_getElem?.mp hc'
        have hd : (rebase arrow a).childData[k]? = some (rebase arrow c) := by
          rw [hchild, getElem?_map, hk, Option.map_some]
        exact (ih c hc' (hr c hc')).mp (hc k c _ hk hd)
    · intro hs
      cases hs with
      | empty ha => exact .empty (by rw [rebase_eq]) ha (by rw [rebase_eq]; exact ha)
      | node hb hc =>
        have hreads := arrow.reads_of_valid _ hv
        refine .node (by rw [rebase_eq]) (by rw [rebase_eq]) (by rw [rebase_eq]) ?_ ?_
          ((isNull_rebase_iff hm).mpr hb) ?_ ?_
        · rw [rebase_eq]
          exact take_prefix _ _
        · intro k hk
          apply hreads k
          rw [rebase_eq]
          rwa [take_take, Nat.min_self]
        · rw [hchild, length_map]
        · intro k c d hk hd
          rw [hchild, getElem?_map, hk] at hd
          obtain rfl := Option.some.inj hd
          have hmem := mem_of_getElem? hk
          exact (ih c hmem (hr c hmem)).mpr (hc c hmem)

private theorem sameData_newEmpty_iff :
    SameData arrow a (arrow.newEmpty a.dataType) ↔ a.len = 0 := by
  constructor
  · intro h
    cases h with
    | empty _ ha _ => exact ha
    | node _ hl _ _ _ _ _ _ => rw [← hl, arrow.len_newEmpty]
  · intro h
    exact .empty (arrow.dataType_newEmpty _) h (arrow.len_newEmpty _)

/-! ## Round trips -/

/-- The copy into a sample of the computed size returns; an empty sample decodes to an array
without elements, any other as the copied array with its bitmaps read anew. -/
theorem copyArrayIntoSample_spec (hsize : target.length = requiredDataSize arrow a)
    (hl : target.length < 2 ^ 64) :
    ∃ sample info, copyArrayIntoSample arrow target a = .ok (sample, info) ∧
      (Bytesless arrow a →
        bufferIntoArrowArray arrow sample info = .ok (arrow.newEmpty a.dataType)) ∧
      (¬ Bytesless arrow a → ∀ b, bufferIntoArrowArray arrow sample info = .ok b ↔
        Accepted arrow a 0 ∧ b = rebase arrow a) := by
  obtain ⟨sample, info, hc, hk, ht, hd⟩ := copiesAt a target 0 hsize.ge
  rw [← requiredDataSize_eq_zero]
  refine ⟨sample, info, by rw [copyArrayIntoSample, hc]; rfl, ?_, ?_⟩
  · intro hz
    have hs : sample = [] := eq_nil_of_length_eq_zero (by rw [hk.1, hsize, hz])
    obtain ⟨dataType, len, nullCount, validity, offset, offsets, infos, names, hash⟩ := info
    dsimp only at ht
    subst hs ht
    rw [bufferIntoArrowArray, bufferIntoArrowArrayInner, if_neg (by decide), if_pos rfl]
  · intro hz
    have hs : sample ≠ [] := by
      rintro rfl
      exact hz (hsize ▸ hk.1.symm)
    exact hd sample hs (hk.1 ▸ hl) (.refl _ _) 0

variable (arrow) in
/-- The send fails with an error, or decoding the sample gives the data of the array back. -/
def ArrivesOrSendFails (target : List UInt8) (a : ArrayData) : Prop :=
  match copyArrayIntoSample arrow target a with
  | .ok (sample, info) => ∃ b, bufferIntoArrowArray arrow sample info = .ok b ∧ SameData arrow a b
  | .err _ => True
  | .panic _ => False

variable (arrow) in
/-- The send fails with an error, or the sample decodes to the data of the array or not at all. -/
def NeverDecodesDifferently (target : List UInt8) (a : ArrayData) : Prop :=
  match copyArrayIntoSample arrow target a with
  | .ok (sample, info) => ∀ b, bufferIntoArrowArray arrow sample info = .ok b → SameData arrow a b
  | .err _ => True
  | .panic _ => False

/-- An array arrives exactly if it has no elements in case there is no byte to copy, and otherwise
the decoder accepts it and its null bitmaps read the same at its offsets. It decodes to different
data exactly if it has elements and no byte to copy, or is accepted though a bitmap reads
differently. -/
theorem arrives_iff (target : List UInt8) (a : ArrayData)
    (hsize : target.length = requiredDataSize arrow a) (hl : requiredDataSize arrow a < 2 ^ 63) :
    (ArrivesOrSendFails arrow target a ↔
      (Bytesless arrow a → a.len = 0) ∧
      (¬ Bytesless arrow a → Accepted arrow a 0 ∧ MasksAgree a)) ∧
    (NeverDecodesDifferently arrow target a ↔
      (Bytesless arrow a → a.len = 0) ∧
      (¬ Bytesless arrow a → Accepted arrow a 0 → MasksAgree a)) := by
  obtain ⟨sample, info, hc, hz, hn⟩ := copyArrayIntoSample_spec hsize (by omega)
  simp only [ArrivesOrSendFails, NeverDecodesDifferently, hc]
  by_cases h : Bytesless arrow a
  · simp [h, hz h, sameData_newEmpty_iff]
  · simp only [h, hn h, false_imp_iff, true_and, not_false_eq_true, true_imp_iff]
    constructor
    · constructor
      · rintro ⟨b, ⟨ha, rfl⟩, hs⟩
        exact ⟨ha, (sameData_rebase_iff ha).mp hs⟩
      · rintro ⟨ha, hm⟩
        exact ⟨_, ⟨ha, rfl⟩, (sameData_rebase_iff ha).mpr hm⟩
    · constructor
      · intro hs ha
        exact (sameData_rebase_iff ha).mp (hs _ ⟨ha, rfl⟩)
      · rintro hm b ⟨ha, rfl⟩
        exact (sameData_rebase_iff ha).mpr (hm ha)

/-- Validation of 32-bit integers and of arrays of nulls; other types are refused. -/
def smallValidate (a : ArrayData) : Except String Unit :=
  match a.dataType, a.buffers, a.childData with
  | .int32, [values], [] =>
    if 4 * (a.offset + a.len) ≤ values.length then .ok () else .error "buffer too small"
  | .null, [], [] => .ok ()
  | _, _, _ => .error "invalid array"

/-- Arrays of these types from their parts. -/
def smallTryNew (dataType : DataType) (len : Nat) (validity : Option (List UInt8)) (offset : Nat)
    (buffers : List (List UInt8)) (childData : List ArrayData) : Except String ArrayData :=
  let checked (nulls : Option (NullBuffer len)) :=
    (smallValidate ⟨dataType, len, offset, buffers, nulls, childData⟩).map fun _ =>
      ArrayData.mk dataType len offset buffers nulls childData
  match validity with
  | none => checked none
  | some bytes =>
    if fits : offset + len ≤ 8 * bytes.length then checked (maskAt bytes offset fits)
    else .error "null_bit_buffer size too small"

private theorem map_eq_ok {α : Type} {x : Except String Unit} {a b : α} :
    x.map (fun _ => a) = .ok b ↔ x = .ok () ∧ b = a := by
  cases x <;> simp [Except.map, eq_comm]

/-- Layout of these types. -/
def smallCrate : ArrowCrate where
  layout
    | .int32 => [.fixedWidth 4 4 (by decide)]
    | _ => []
  debug
    | .int32 => "Int32"
    | _ => "Null"
  validateData := smallValidate
  reads _ kept k := k < kept.length
  reads_of_valid a _ k h := lt_of_lt_of_le h (List.length_take_le' _ _)
  newEmpty t := ⟨t, 0, 0, [], none, []⟩
  dataType_newEmpty _ := rfl
  len_newEmpty _ := rfl
  tryNew := smallTryNew
  tryNew_eq_ok {_ len validity offset _ _ _} := by
    cases validity with
    | none => simp [smallTryNew, IsMask, map_eq_ok]
    | some bytes =>
      by_cases fits : offset + len ≤ 8 * bytes.length
      · simp [smallTryNew, IsMask, map_eq_ok, fits]
      · simp [smallTryNew, IsMask, fits]

/-- The array `[Some 1, None, Some 3]`. -/
def threeInts : ArrayData :=
  ⟨.int32, 3, 0, [[1, 0, 0, 0, 0, 0, 0, 0, 3, 0, 0, 0]], some ⟨[0b101], 0, by decide⟩, []⟩

/-- Its slice `[None, Some 3]`: the values start at the slice, the bitmap is kept from bit 1 on. -/
def slicedInts : ArrayData :=
  ⟨.int32, 2, 0, [[0, 0, 0, 0, 3, 0, 0, 0]], some ⟨[0b101], 1, by decide⟩, []⟩

/-- The sample has bytes. -/
theorem not_bytesless_threeInts : ¬ Bytesless smallCrate threeInts :=
  fun h => absurd (requiredDataSize_eq_zero.mpr h) (by decide)

/-- The decoder takes the sample. -/
theorem accepted_threeInts : Accepted smallCrate threeInts 0 := by
  refine .node (by decide) (by decide) (by decide) ?_ rfl (by simp [threeInts])
  rintro nulls ⟨⟩
  decide

/-- The whole array arrives. -/
theorem arrives_threeInts :
    ArrivesOrSendFails smallCrate (List.replicate 12 0) threeInts := by
  refine (arrives_iff _ _ rfl (by decide)).1.mpr
    ⟨fun h => absurd h not_bytesless_threeInts, fun _ => ⟨accepted_threeInts, ?_⟩⟩
  · refine .node ?_ (by simp [threeInts])
    rintro nulls ⟨⟩ i -
    rfl

/-- Five elements that are all null; the type has no buffers and no bitmap. -/
def fiveNulls : ArrayData := ⟨.null, 5, 0, [], none, []⟩

/-- The null of the slice moves from its first to its second element, and the empty sample of an
array of nulls decodes to no element. -/
theorem slicedInts_nulls_move :
    (∃ sample info b, copyArrayIntoSample smallCrate (List.replicate 8 0) slicedInts =
        .ok (sample, info) ∧ bufferIntoArrowArray smallCrate sample info = .ok b ∧
      [0, 1].map slicedInts.isNull = [true, false] ∧ [0, 1].map b.isNull = [false, true] ∧
      ¬ SameData smallCrate slicedInts b) ∧
    ∃ sample info b, copyArrayIntoSample smallCrate [] fiveNulls = .ok (sample, info) ∧
      bufferIntoArrowArray smallCrate sample info = .ok b ∧ b.len = 0 ∧
      ¬ SameData smallCrate fiveNulls b := by
  refine ⟨⟨_, _, _, rfl, rfl, by decide, by decide, ?_⟩, _, _, _, rfl, rfl, rfl, ?_⟩
  · intro h
    cases h with
    | empty _ ha _ => exact absurd ha (by decide)
    | node _ _ _ _ _ hn _ _ => exact absurd (hn 0 (by decide)) (by decide)
  · intro h
    cases h with
    | empty _ ha _ => exact absurd ha (by decide)
    | node _ hl _ _ _ _ _ _ => exact absurd hl (by decide)

end DoraSpec.Node
