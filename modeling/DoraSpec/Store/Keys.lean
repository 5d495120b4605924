import DoraSpec.Base.Text
import DoraSpec.Store.CoordinatorStore

/-!
# Keys of the redb tables

Different identifiers and parameters have different keys, as long as no node identifier has a null
character. The parameters of a node are the keys with a common prefix, which are adjacent in the
order of the table.
-/

namespace DoraSpec.Store
open Base Base.OrderedTable Base.Text Message List Option
open Recording (Uuid)
open Std (ExtTreeMap LawfulEqOrd)

/-! ## Identifiers -/

private theorem uuid_ext {a b : Uuid} (h : a.bytes = b.bytes) : a = b := by
  cases a
  cases b
  cases h
  rfl

/-- Dataflows have different keys. -/
theorem uuid_keyInjective : KeyInjective (fun _ : Uuid => True) Uuid.bytes :=
  fun _ _ _ _ h => uuid_ext h

private theorem digitChar_inj {a b : Nat} (ha : a < 16) (hb : b < 16)
    (h : Nat.digitChar a = Nat.digitChar b) : a = b := by
  have hall : ∀ a < 16, ∀ b < 16, Nat.digitChar a = Nat.digitChar b → a = b := by decide
  exact hall a ha b hb h

private theorem hexByte_inj {a b : UInt8} (h : hexByte a = hexByte b) : a = b := by
  simp only [hexByte, List.cons.injEq, and_true] at h
  have ha := a.toNat_lt
  have hb := b.toNat_lt
  have h1 := digitChar_inj (by omega) (by omega) h.1
  have h2 := digitChar_inj (by omega) (by omega) h.2
  exact UInt8.toNat_inj.mp (by omega)

private theorem length_hex (l : List UInt8) : (hex l).length = 2 * l.length := by
  induction l with
  | nil => rfl
  | cons b l ih =>
    rw [hex, flatMap_cons, length_append, length_cons, ← hex, ih]
    simp only [hexByte, length_cons, length_nil]
    omega

private theorem hex_inj {l l' : List UInt8} (h : hex l = hex l') : l = l' := by
  induction l generalizing l' with
  | nil =>
    cases l' with
    | nil => rfl
    | cons b' l' => simp [hex, hexByte] at h
  | cons b l ih =>
    cases l' with
    | nil => simp [hex, hexByte] at h
    | cons b' l' =>
      have hs : hexByte b ++ hex l = hexByte b' ++ hex l' := h
      obtain ⟨hb, hl⟩ := append_inj hs rfl
      rw [hexByte_inj hb, ih hl]

private theorem group_inj {g g' : List UInt8} {rest rest' : List Char}
    (hl : g.length = g'.length) (h : hex g ++ '-' :: rest = hex g' ++ '-' :: rest') :
    g = g' ∧ rest = rest' := by
  obtain ⟨hg, hr⟩ := append_inj h (by rw [length_hex, length_hex, hl])
  exact ⟨hex_inj hg, (List.cons.inj hr).2⟩

private theorem uuidText_inj {a b : Uuid} (h : uuidText a = uuidText b) : a = b := by
  have ha := a.length_eq
  have hb := b.length_eq
  rw [uuidText, uuidText, String.ofList_inj] at h
  obtain ⟨h1, h⟩ := group_inj (by simp [ha, hb]) h
  obtain ⟨h2, h⟩ := group_inj (by simp [ha, hb]) h
  obtain ⟨h3, h⟩ := group_inj (by simp [ha, hb]) h
  obtain ⟨h4, h⟩ := group_inj (by simp [ha, hb]) h
  have h5 := hex_inj h
  apply uuid_ext
  have hcut (n : Nat) (l : List UInt8) : l.drop n = (l.drop n).take 2 ++ l.drop (n + 2) := by
    rw [← drop_drop, take_append_drop]
  have hgroups (l : List UInt8) : l = l.take 4 ++ ((l.drop 4).take 2 ++ ((l.drop 6).take 2 ++
      ((l.drop 8).take 2 ++ l.drop 10))) := by
    rw [← hcut 8, ← hcut 6, ← hcut 4, take_append_drop]
  rw [hgroups a.bytes, hgroups b.bytes, h1, h2, h3, h4, h5]

private theorem keySeparator_notMem_uuidText (id : Uuid) : keySeparator ∉ (uuidText id).toList := by
  have hdigit : ∀ n < 16, keySeparator ≠ Nat.digitChar n := by decide
  have hhex (l : List UInt8) : keySeparator ∉ hex l := by
    intro hm
    obtain ⟨b, -, hb⟩ := mem_flatMap.mp hm
    have := b.toNat_lt
    simp only [hexByte, mem_cons, not_mem_nil, or_false] at hb
    rcases hb with hb | hb
    · exact hdigit _ (by omega) hb
    · exact hdigit _ (by omega) hb
  have hdash : keySeparator ≠ '-' := by decide
  simp [uuidText, hhex, hdash]

/-! ## Daemon identifiers -/

private theorem length_varint_mono {n n' : Nat} (h : n ≤ n') :
    (varint n).length ≤ (varint n').length := by
  unfold varint
  split_ifs <;> simp_all <;> omega

private theorem lengthPrefixed_inj {l l' : List UInt8} (h : lengthPrefixed l = lengthPrefixed l') :
    l = l' := by
  have hlen := congrArg List.length h
  simp only [lengthPrefixed, length_append] at hlen
  have hl : l.length = l'.length := by
    rcases Nat.lt_trichotomy l.length l'.length with hlt | he | hlt
    · have := length_varint_mono hlt.le
      omega
    · exact he
    · have := length_varint_mono hlt.le
      omega
  simp only [lengthPrefixed, hl] at h
  exact append_cancel_left h

private theorem ofText_inj {s s' : String} (h : Bytes.ofText s = Bytes.ofText s') : s = s' := by
  have := Bytes.toText_ofText s
  rw [h, Bytes.toText_ofText] at this
  exact (some.inj this).symm

/-- So do daemons. -/
theorem daemonId_keyInjective : KeyInjective (fun _ : DaemonId => True) encodeDaemonId := by
  intro a b _ _ h
  have ha := a.uuid.length_eq
  have hb := b.uuid.length_eq
  have hlen : (lengthPrefixed a.uuid.bytes).length = (lengthPrefixed b.uuid.bytes).length := by
    simp only [lengthPrefixed, length_append, ha, hb]
  obtain ⟨hm, hu⟩ := append_inj' h hlen
  have huuid : a.uuid = b.uuid := uuid_ext (lengthPrefixed_inj hu)
  cases a with
  | mk ma ua =>
    cases b with
    | mk mb ub =>
      cases huuid
      cases ma with
      | none =>
        cases mb with
        | none => rfl
        | some m => cases hm
      | some m =>
        cases mb with
        | none => cases hm
        | some m' => rw [ofText_inj (lengthPrefixed_inj (List.cons.inj hm).2)]

private theorem compare_append_left (front a b : List UInt8) :
    compare (front ++ a) (front ++ b) = compare a b := by
  induction front with
  | nil => rfl
  | cons c front ih =>
    rw [List.cons_append, List.cons_append, ← ih, List.compare_cons_cons]
    simp

/-- The keys of the daemons of one machine are ordered as the daemons are. -/
theorem compare_encodeDaemonId {a b : DaemonId} (h : a.machineId = b.machineId) :
    compare (encodeDaemonId a) (encodeDaemonId b) = compare a b := by
  have hm : compare a.machineId b.machineId = .eq := by simp [h]
  rw [DaemonId.compare_eq, hm, Ordering.eq_then, encodeDaemonId, encodeDaemonId, h,
    compare_append_left]
  unfold lengthPrefixed
  rw [a.uuid.length_eq, b.uuid.length_eq, compare_append_left]
  rfl

/-! ## Parameter keys -/

/-- Common front of the keys of a node. -/
def paramPrefix (dataflowId : Uuid) (nodeId : NodeId) : String :=
  joinOnce keySeparator (uuidText dataflowId) (joinOnce keySeparator nodeId.val "")

/-- Key under which the redb store keeps a parameter. -/
def paramKeyText (k : ParamKey) : String := paramPrefix k.dataflowId k.nodeId ++ k.key

/-- The node identifier can be told apart from the rest of the key. -/
def NodeClean (nodeId : NodeId) : Prop := keySeparator ∉ nodeId.val.toList

instance (nodeId : NodeId) : Decidable (NodeClean nodeId) := inferInstanceAs (Decidable (¬ _))

private theorem paramKeyText_eq (k : ParamKey) : paramKeyText k =
    joinOnce keySeparator (uuidText k.dataflowId) (joinOnce keySeparator k.nodeId.val k.key) := by
  simp [paramKeyText, paramPrefix, joinOnce, String.append_assoc]

/-- The prefix of a clean node. -/
theorem makeParamPrefix_eq_ok {dataflowId : Uuid} {nodeId : NodeId} (h : NodeClean nodeId) :
    makeParamPrefix dataflowId nodeId = .ok (paramPrefix dataflowId nodeId) := by
  have hc : checkNoSeparator nodeId.val "node_id" = .ok () := if_neg h
  rw [makeParamPrefix, hc]
  refine congrArg Except.ok ?_
  rw [← String.toList_inj]
  simp [paramPrefix, toList_joinOnce]

/-- The key of a clean node. -/
theorem makeParamKey_eq_ok {dataflowId : Uuid} {nodeId : NodeId} {key : String}
    (h : NodeClean nodeId) (hk : keySeparator ∉ key.toList) :
    makeParamKey dataflowId nodeId key = .ok (paramKeyText ⟨dataflowId, nodeId, key⟩) := by
  have hc : checkNoSeparator nodeId.val "node_id" = .ok () := if_neg h
  have hc' : checkNoSeparator key "param key" = .ok () := if_neg hk
  rw [makeParamKey, hc, hc']
  refine congrArg Except.ok ?_
  rw [← String.toList_inj]
  simp [paramKeyText_eq, toList_joinOnce]

/-- Parameters of clean nodes have different keys. -/
theorem param_keyInjective : KeyInjective (fun k => NodeClean k.nodeId) paramKeyText := by
  intro a b ha hb h
  rw [paramKeyText_eq, paramKeyText_eq] at h
  obtain ⟨hu, h⟩ := joinOnce_inj (keySeparator_notMem_uuidText _)
    (keySeparator_notMem_uuidText _) h
  obtain ⟨hn, hk⟩ := joinOnce_inj ha hb h
  have hd := uuidText_inj hu
  cases a with
  | mk da na ka =>
    cases b with
    | mk db nb kb =>
      cases na
      cases nb
      cases hd
      cases hn
      cases hk
      rfl

/-! ## Prefix scans -/

section Prefixes

variable {front k k' : List Char}

private theorem not_append_lt (front rest : List Char) : ¬ front ++ rest < front := by
  induction front with
  | nil => simp
  | cons c front ih => simpa using ih

private theorem append_lt_append (front a b : List Char) : front ++ a < front ++ b ↔ a < b := by
  induction front with
  | nil => rfl
  | cons c front ih => simpa using ih

private theorem isPrefix_of_between (h0 : ¬ k < front) (hlt : k < k') (hp : front <+: k') :
    front <+: k := by
  induction front generalizing k k' with
  | nil => exact nil_prefix
  | cons c front ih =>
    obtain ⟨rest, rfl⟩ := hp
    cases k with
    | nil => exact absurd (nil_lt_cons c front) h0
    | cons d k =>
      rw [cons_append, cons_lt_cons_iff] at hlt
      rw [cons_lt_cons_iff] at h0
      push Not at h0
      obtain ⟨hdc, hk⟩ := h0
      rcases hlt with hd | ⟨rfl, hlt⟩
      · exact absurd hd hdc.not_gt
      · exact cons_prefix_cons.mpr ⟨rfl, ih (hk rfl).not_gt hlt ⟨rest, rfl⟩⟩

end Prefixes

private theorem stripPrefix_eq_some {front s rest : String} :
    stripPrefix front s = some rest ↔ s = front ++ rest := by
  unfold stripPrefix
  split
  · next h =>
    obtain ⟨tail, ht⟩ := isPrefixOf_iff_prefix.mp h
    rw [← ht, drop_left, some.injEq, ← String.toList_inj, ← String.toList_inj,
      ← ht, String.toList_append, String.toList_ofList, append_cancel_left_eq]
  · next h =>
    simp only [reduceCtorEq, false_iff]
    rintro rfl
    exact h (List.isPrefixOf_iff_prefix.mpr (by simp))

private theorem isSome_stripPrefix {front s : String} :
    (stripPrefix front s).isSome ↔ front.toList <+: s.toList := by
  rw [isSome_iff_exists]
  simp only [stripPrefix_eq_some]
  constructor
  · rintro ⟨rest, rfl⟩
    simp
  · rintro ⟨rest, hr⟩
    exact ⟨String.ofList rest, by rw [← String.toList_inj, ← hr]; simp⟩

private def cutEntry (front : String) (e : String × List UInt8) : Option (String × List UInt8) :=
  (stripPrefix front e.1).map fun key => (key, e.2)

private theorem scanPrefix_eq (front : String) (l : List (String × List UInt8)) :
    RedbStore.scanPrefix front l =
      (l.takeWhile fun e => (stripPrefix front e.1).isSome).filterMap (cutEntry front) := by
  induction l with
  | nil => rfl
  | cons e l ih =>
    rw [RedbStore.scanPrefix, takeWhile_cons]
    cases hs : stripPrefix front e.1 with
    | none => simp
    | some key => simp [cutEntry, hs, ih]

private theorem scanPrefix_rangeFrom (t : ExtTreeMap String (List UInt8)) (front : String) :
    RedbStore.scanPrefix front (rangeFrom t front) = t.toList.filterMap (cutEntry front) := by
  rw [scanPrefix_eq, takeWhile_rangeFrom t (p := fun k => (stripPrefix front k).isSome),
    filterMap_filter]
  · refine filterMap_congr fun e _ => ?_
    cases hs : stripPrefix front e.1 <;> simp [cutEntry, hs]
  · intro k hk hlt
    obtain ⟨rest, hr⟩ := isSome_stripPrefix.mp hk
    rw [compare_lt_iff_lt, String.lt_iff_toList_lt, ← hr] at hlt
    exact not_append_lt _ _ hlt
  · intro k k' hge hlt hk'
    rw [isSome_stripPrefix] at hk' ⊢
    rw [compare_lt_iff_lt, String.lt_iff_toList_lt] at hlt
    rw [Ne, compare_lt_iff_lt, String.lt_iff_toList_lt] at hge
    exact isPrefix_of_between hge hlt hk'

/-- A prefix scan yields the values of the extensions of the prefix. -/
theorem mem_scanPrefix {t : ExtTreeMap String (List UInt8)} {front key : String}
    {value : List UInt8} :
    (key, value) ∈ RedbStore.scanPrefix front (rangeFrom t front) ↔
      t[front ++ key]? = some value := by
  rw [scanPrefix_rangeFrom, mem_filterMap, ← ExtTreeMap.mem_toList_iff_getElem?_eq_some]
  constructor
  · rintro ⟨⟨k, v⟩, he, hc⟩
    obtain ⟨key', hs, hkv⟩ := map_eq_some_iff.mp hc
    cases hkv
    rwa [← stripPrefix_eq_some.mp hs]
  · intro he
    exact ⟨_, he, by simp [cutEntry, stripPrefix_eq_some.mpr rfl]⟩

/-- A prefix scan yields its keys in order. -/
theorem pairwise_scanPrefix (t : ExtTreeMap String (List UInt8)) (front : String) :
    (RedbStore.scanPrefix front (rangeFrom t front)).Pairwise
      fun a b => compare a.1 b.1 = .lt := by
  rw [scanPrefix_rangeFrom, pairwise_filterMap]
  refine ExtTreeMap.ordered_keys_toList.imp ?_
  intro a b hlt a' ha b' hb
  obtain ⟨ka, hsa, rfl⟩ := map_eq_some_iff.mp ha
  obtain ⟨kb, hsb, rfl⟩ := map_eq_some_iff.mp hb
  rw [stripPrefix_eq_some.mp hsa, stripPrefix_eq_some.mp hsb, compare_lt_iff_lt,
    String.lt_iff_toList_lt, String.toList_append, String.toList_append, append_lt_append] at hlt
  rwa [compare_lt_iff_lt, String.lt_iff_toList_lt]

end DoraSpec.Store
