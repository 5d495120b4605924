import Mathlib.Data.List.Induction
import Mathlib.Data.List.Perm.Basic
import Mathlib.Data.List.Sort
import Mathlib.Data.String.Basic

/-!
# Ordered tables

An ordered table is a finite map that is listed in the order of its keys. Scanning it from a key
while a condition holds gives all entries with the condition, if the keys that meet it form an
interval that starts there. A table of encoded keys and values stores a map if it has exactly the
entries of the map; listing it then gives the values of the map.
-/

namespace DoraSpec.Base.OrderedTable
open Std List

universe u v w x

/-! ## Lookups -/

section Lookup

variable {α : Type u} {β : Type v} [Ord α] [TransOrd α] [LawfulEqOrd α] [DecidableEq α]

/-- Lookup after an insertion. -/
theorem getElem?_insert (m : ExtTreeMap α β) (k k' : α) (v : β) :
    (m.insert k v)[k']? = if k = k' then some v else m[k']? := by
  simp [ExtTreeMap.getElem?_insert]

/-- Lookup after a removal. -/
theorem getElem?_erase (m : ExtTreeMap α β) (k k' : α) :
    (m.erase k)[k']? = if k = k' then none else m[k']? := by
  simp [ExtTreeMap.getElem?_erase]

/-- A table from a list of entries; a later entry replaces an earlier one with its key. -/
def ofEntries (entries : List (α × β)) : ExtTreeMap α β :=
  entries.foldl (fun m e => m.insert e.1 e.2) ∅

omit [LawfulEqOrd α] [DecidableEq α] in
private theorem ofEntries_concat (entries : List (α × β)) (e : α × β) :
    ofEntries (entries ++ [e]) = (ofEntries entries).insert e.1 e.2 := by
  simp [ofEntries]

/-- Every value comes from an entry with its key. -/
theorem mem_of_getElem?_ofEntries {entries : List (α × β)} {k : α} {v : β}
    (h : (ofEntries entries)[k]? = some v) : (k, v) ∈ entries := by
  induction entries using reverseRecOn with
  | nil => simp [ofEntries] at h
  | append_singleton entries e ih =>
    rw [ofEntries_concat, getElem?_insert] at h
    split at h
    · next hk =>
      subst hk
      exact mem_append_right _ (mem_singleton.mpr (Prod.ext rfl (Option.some.inj h).symm))
    · exact mem_append_left _ (ih h)

/-- Every entry is found if all entries with its key have its value. -/
theorem getElem?_ofEntries {entries : List (α × β)} {k : α} {v : β} (h : (k, v) ∈ entries)
    (huniq : ∀ v', (k, v') ∈ entries → v' = v) : (ofEntries entries)[k]? = some v := by
  induction entries using reverseRecOn with
  | nil => cases h
  | append_singleton entries e ih =>
    rw [ofEntries_concat, getElem?_insert]
    split
    · next hk =>
      have hlast : (k, e.2) ∈ entries ++ [e] := by simp [← hk]
      rw [huniq e.2 hlast]
    · next hk =>
      refine ih ?_ fun v' hv' => huniq v' (mem_append_left _ hv')
      rcases mem_append.mp h with h | h
      · exact h
      · exact absurd (congrArg Prod.fst (mem_singleton.mp h)).symm hk

end Lookup

/-! ## Scans -/

section Scan

variable {α : Type u} {β : Type v} [Ord α] [TransOrd α]

/-- Entries from a key on, in the order of the keys. -/
def rangeFrom (m : ExtTreeMap α β) (start : α) : List (α × β) :=
  m.toList.dropWhile fun e => (compare e.1 start).isLT

variable {start : α} {p : α → Bool}

omit [TransOrd α] in
private theorem takeWhile_eq_filter {l : List (α × β)}
    (hs : l.Pairwise fun a b => compare a.1 b.1 = .lt)
    (hge : ∀ e ∈ l, compare e.1 start ≠ .lt)
    (hclosed : ∀ k k', compare k start ≠ .lt → compare k k' = .lt → p k' → p k) :
    l.takeWhile (fun e => p e.1) = l.filter fun e => p e.1 := by
  induction l with
  | nil => rfl
  | cons e l ih =>
    obtain ⟨he, hl⟩ := pairwise_cons.mp hs
    rw [takeWhile_cons, filter_cons]
    split
    · rw [ih hl fun e' h => hge e' (mem_cons_of_mem e h)]
    · next hp =>
      symm
      rw [filter_eq_nil_iff]
      exact fun e' h hp' => hp (hclosed _ _ (hge e mem_cons_self) (he e' h) hp')

/-- A scan while a condition holds finds every entry with the condition. -/
theorem takeWhile_rangeFrom (m : ExtTreeMap α β)
    (hge : ∀ k, p k → compare k start ≠ .lt)
    (hclosed : ∀ k k', compare k start ≠ .lt → compare k k' = .lt → p k' → p k) :
    (rangeFrom m start).takeWhile (fun e => p e.1) = m.toList.filter fun e => p e.1 := by
  have hs : m.toList.Pairwise fun a b => compare a.1 b.1 = .lt := ExtTreeMap.ordered_keys_toList
  unfold rangeFrom
  revert hs
  generalize m.toList = l
  intro hs
  induction l with
  | nil => rfl
  | cons e l ih =>
    obtain ⟨he, hl⟩ := pairwise_cons.mp hs
    rw [dropWhile_cons]
    split
    · next h =>
      have hp : ¬ p e.1 := fun hp => hge _ hp (Ordering.isLT_iff_eq_lt.mp h)
      rw [ih hl, filter_cons, if_neg hp]
    · next h =>
      have h0 : compare e.1 start ≠ .lt := fun hlt => h (Ordering.isLT_iff_eq_lt.mpr hlt)
      refine takeWhile_eq_filter hs (forall_mem_cons.mpr ⟨h0, fun e' h' hlt => ?_⟩) hclosed
      exact h0 (TransCmp.lt_trans (he e' h') hlt)

/-! ## Lists in the order of their keys -/

/-- Lists with the same entries in the same strict order are equal. -/
theorem eq_of_mem_iff {l l' : List (α × β)}
    (hl : l.Pairwise fun a b => compare a.1 b.1 = .lt)
    (hl' : l'.Pairwise fun a b => compare a.1 b.1 = .lt) (h : ∀ e, e ∈ l ↔ e ∈ l') : l = l' := by
  have hne : ∀ {a b : α × β}, compare a.1 b.1 = .lt → a ≠ b := by
    rintro a b hlt rfl
    simp at hlt
  have hp : l.Perm l' :=
    (perm_ext_iff_of_nodup (hl.imp hne) (hl'.imp hne)).mpr h
  refine List.Perm.eq_of_pairwise (fun a b _ _ hab hba => ?_) hl hl' hp
  have := TransCmp.lt_trans hab hba
  simp at this

end Scan

/-! ## Tables that store a map -/

section Stores

variable {κ : Type u} {ν : Type v} {β : Type w} {ω : Type x}
variable [Ord κ] [TransOrd κ] [LawfulEqOrd κ] [Ord β] [TransOrd β] [LawfulEqOrd β]
variable (Dom : κ → Prop) (key : κ → β) (decode : ω → Except String ν)

/-- Different keys of the domain have different codes. -/
def KeyInjective : Prop := ∀ k k', Dom k → Dom k' → key k = key k' → k = k'

/-- The table has exactly the entries of the map, under the codes of their keys. -/
structure Stores (m : ExtTreeMap κ ν) (t : ExtTreeMap β ω) : Prop where
  dom : ∀ k v, m[k]? = some v → Dom k
  found : ∀ k v, m[k]? = some v → ∃ c, t[key k]? = some c ∧ decode c = .ok v
  origin : ∀ b c, t[b]? = some c → ∃ k v, b = key k ∧ m[k]? = some v

variable {Dom key decode} {m : ExtTreeMap κ ν} {t : ExtTreeMap β ω}

omit [LawfulEqOrd κ] [LawfulEqOrd β] in
/-- Empty tables are in step. -/
theorem stores_empty : Stores Dom key decode (∅ : ExtTreeMap κ ν) (∅ : ExtTreeMap β ω) where
  dom := by simp
  found := by simp
  origin := by simp

/-! ### Records -/

/-- Keys are listed once. -/
theorem nodup_keys {γ : Type u} {δ : Type v} [Ord γ] [TransOrd γ] (t : ExtTreeMap γ δ) :
    (t.toList.map Prod.fst).Nodup := by
  refine pairwise_map.mpr (ExtTreeMap.ordered_keys_toList.imp ?_)
  intro a b hlt he
  rw [he] at hlt
  simp at hlt

omit [Ord β] [TransOrd β] [LawfulEqOrd β] in
private theorem mapM_decode {l : List (β × ω)} {Q : β × ω → ν → Prop}
    (h : ∀ e ∈ l, ∃ v, decode e.2 = .ok v ∧ Q e v) :
    ∃ vs, l.mapM (fun e => decode e.2) = .ok vs ∧ List.Forall₂ Q l vs := by
  induction l with
  | nil => exact ⟨[], rfl, .nil⟩
  | cons e l ih =>
    obtain ⟨v, hv, hq⟩ := h e mem_cons_self
    obtain ⟨vs, hvs, hqs⟩ := ih fun e' h' => h e' (mem_cons_of_mem e h')
    refine ⟨v :: vs, ?_, .cons hq hqs⟩
    rw [mapM_cons, hv, hvs]
    rfl

section

variable (h : Stores Dom key decode m t)
include h

omit [LawfulEqOrd κ] in
/-- Listing the table decodes every record, each under the code of its key. -/
theorem Stores.list :
    ∃ vs, t.toList.mapM (fun e => decode e.2) = .ok vs ∧
      List.Forall₂ (fun e v => ∃ k, e.1 = key k ∧ m[k]? = some v) t.toList vs := by
  refine mapM_decode ?_
  rintro ⟨b, c⟩ he
  rw [ExtTreeMap.mem_toList_iff_getElem?_eq_some] at he
  obtain ⟨k, v, rfl, hv⟩ := h.origin b c he
  obtain ⟨c', hc', hd⟩ := h.found k v hv
  rw [he] at hc'
  cases hc'
  exact ⟨v, hd, k, rfl, hv⟩

omit [LawfulEqOrd β] in
private theorem Stores.value_of_key : ∃ value : β → Option ν,
    (∀ vs, List.Forall₂ (fun e v => ∃ k, e.1 = key k ∧ m[k]? = some v) t.toList vs →
      (t.toList.map Prod.fst).map value = vs.map some) ∧
    (m.toList.map fun e => key e.1).map value = (m.toList.map Prod.snd).map some := by
  let value (b : β) : Option ν := t[b]?.bind fun c => (decode c).toOption
  have hval : ∀ k v, m[k]? = some v → value (key k) = some v := by
    intro k v hv
    obtain ⟨c, hc, hd⟩ := h.found k v hv
    simp [value, hc, hd, Except.toOption]
  refine ⟨value, fun vs hvs => ?_, ?_⟩
  · rw [map_map, ← forall₂_eq_eq_eq, forall₂_map_left_iff,
      forall₂_map_right_iff]
    refine hvs.imp ?_
    rintro e v ⟨k, he, hv⟩
    rw [Function.comp_apply, he, hval k v hv]
  · simp only [map_map]
    refine map_congr_left fun e he => ?_
    exact hval e.1 e.2 (ExtTreeMap.mem_toList_iff_getElem?_eq_some.mp he)

/-! ### Keys -/

variable (hk : KeyInjective Dom key)
include hk

private theorem Stores.compare_key {k k' : κ} {v' : ν} (hd : Dom k) (hv : m[k']? = some v') :
    compare (key k) (key k') = .eq ↔ compare k k' = .eq := by
  rw [LawfulEqOrd.compare_eq_iff_eq, LawfulEqOrd.compare_eq_iff_eq]
  exact ⟨hk k k' hd (h.dom k' v' hv), congrArg key⟩

/-- Insertion keeps the tables in step. -/
theorem Stores.insert {k : κ} {v : ν} {c : ω} (hd : Dom k) (hc : decode c = .ok v) :
    Stores Dom key decode (m.insert k v) (t.insert (key k) c) where
  dom k' v' hv := by
    rw [ExtTreeMap.getElem?_insert] at hv
    split at hv
    · next he => exact LawfulEqOrd.eq_of_compare he ▸ hd
    · exact h.dom k' v' hv
  found k' v' hv := by
    rw [ExtTreeMap.getElem?_insert] at hv
    split at hv
    · next he =>
      cases LawfulEqOrd.eq_of_compare he
      cases hv
      exact ⟨c, by simp, hc⟩
    · next he =>
      rw [ExtTreeMap.getElem?_insert, if_neg (mt (h.compare_key hk hd hv).mp he)]
      exact h.found k' v' hv
  origin b c' hb := by
    rw [ExtTreeMap.getElem?_insert] at hb
    split at hb
    · next he => exact ⟨k, v, (LawfulEqOrd.eq_of_compare he).symm, by simp⟩
    · next he =>
      obtain ⟨k', v', rfl, hv⟩ := h.origin b c' hb
      refine ⟨k', v', rfl, ?_⟩
      rw [ExtTreeMap.getElem?_insert, if_neg (mt (h.compare_key hk hd hv).mpr he), hv]

/-- Removal keeps the tables in step. -/
theorem Stores.erase {k : κ} (hd : Dom k) :
    Stores Dom key decode (m.erase k) (t.erase (key k)) where
  dom k' v' hv := by
    rw [ExtTreeMap.getElem?_erase] at hv
    split at hv
    · cases hv
    · exact h.dom k' v' hv
  found k' v' hv := by
    rw [ExtTreeMap.getElem?_erase] at hv
    split at hv
    · cases hv
    · next he =>
      rw [ExtTreeMap.getElem?_erase, if_neg (mt (h.compare_key hk hd hv).mp he)]
      exact h.found k' v' hv
  origin b c' hb := by
    rw [ExtTreeMap.getElem?_erase] at hb
    split at hb
    · cases hb
    · next he =>
      obtain ⟨k', v', rfl, hv⟩ := h.origin b c' hb
      refine ⟨k', v', rfl, ?_⟩
      rw [ExtTreeMap.getElem?_erase, if_neg (mt (h.compare_key hk hd hv).mpr he), hv]

omit [LawfulEqOrd κ] [LawfulEqOrd β] in
/-- Looking a key up under its code finds the encoded value of the map. -/
theorem Stores.lookup {k : κ} (hd : Dom k) : t[key k]?.mapM decode = .ok m[k]? := by
  cases hm : m[k]? with
  | some v =>
    obtain ⟨c, hc, hv⟩ := h.found k v hm
    rw [hc]
    simp [hv]
  | none =>
    cases ht : t[key k]? with
    | none => rfl
    | some c =>
      obtain ⟨k', v', he, hv⟩ := h.origin _ c ht
      rw [hk k k' hd (h.dom k' v' hv) he, hv] at hm
      cases hm

private theorem Stores.keys_perm :
    (t.toList.map Prod.fst).Perm (m.toList.map fun e => key e.1) := by
  refine (perm_ext_iff_of_nodup (nodup_keys t) ?_).mpr ?_
  · have hm : (m.toList.map Prod.fst).Nodup := nodup_keys m
    have hon := hm.map_on (f := key) ?_
    · simpa only [map_map, Function.comp_def] using hon
    · intro k hk1 k' hk2 he
      obtain ⟨⟨_, v⟩, hv, rfl⟩ := mem_map.mp hk1
      obtain ⟨⟨_, v'⟩, hv', rfl⟩ := mem_map.mp hk2
      rw [ExtTreeMap.mem_toList_iff_getElem?_eq_some] at hv hv'
      exact hk _ _ (h.dom _ v hv) (h.dom _ v' hv') he
  · intro b
    simp only [mem_map, Prod.exists, exists_and_right, exists_eq_right,
      ExtTreeMap.mem_toList_iff_getElem?_eq_some]
    constructor
    · rintro ⟨c, hc⟩
      obtain ⟨k, v, rfl, hv⟩ := h.origin b c hc
      exact ⟨k, ⟨v, hv⟩, rfl⟩
    · rintro ⟨k, ⟨v, hv⟩, rfl⟩
      obtain ⟨c, hc, -⟩ := h.found k v hv
      exact ⟨c, hc⟩

private theorem Stores.keys_eq
    (hmono : ∀ k k', compare k k' = .lt → compare (key k) (key k') = .lt) :
    t.toList.map Prod.fst = m.toList.map fun e => key e.1 := by
  have hs : (t.toList.map Prod.fst).Pairwise fun a b => compare a b = .lt :=
    pairwise_map.mpr ExtTreeMap.ordered_keys_toList
  have hs' : (m.toList.map fun e => key e.1).Pairwise fun a b => compare a b = .lt :=
    pairwise_map.mpr (ExtTreeMap.ordered_keys_toList.imp (hmono _ _))
  refine List.Perm.eq_of_pairwise (fun a b _ _ hab hba => ?_) hs hs' (h.keys_perm hk)
  have := TransCmp.lt_trans hab hba
  simp at this

/-- Listing the table gives the values of the map in some order. -/
theorem Stores.perm_of_list {vs : List ν}
    (hvs : List.Forall₂ (fun e v => ∃ k, e.1 = key k ∧ m[k]? = some v) t.toList vs) :
    vs.Perm (m.toList.map Prod.snd) := by
  obtain ⟨value, ht, hm⟩ := h.value_of_key
  refine (map_perm_map_iff (Option.some_injective ν)).mp ?_
  rw [← ht vs hvs, ← hm]
  exact (h.keys_perm hk).map value

/-- If codes are ordered as keys, listing the table gives the values in the order of the map. -/
theorem Stores.list_eq
    (hmono : ∀ k k', compare k k' = .lt → compare (key k) (key k') = .lt) :
    t.toList.mapM (fun e => decode e.2) = .ok (m.toList.map Prod.snd) := by
  obtain ⟨value, ht, hm⟩ := h.value_of_key
  obtain ⟨vs, hvs, hq⟩ := h.list
  have hs := ht vs hq
  rw [h.keys_eq hk hmono, hm] at hs
  rw [hvs, map_injective_iff.mpr (Option.some_injective ν) hs]

end

omit [LawfulEqOrd κ] [LawfulEqOrd β] in
/-- A table of plain values is looked up like the map. -/
theorem Stores.lookup_ok {t : ExtTreeMap β ν} (h : Stores Dom key Except.ok m t)
    (hk : KeyInjective Dom key) {k : κ} (hd : Dom k) : t[key k]? = m[k]? := by
  have hl := h.lookup hk hd
  cases ht : t[key k]? with
  | none | some =>
    rw [ht] at hl
    exact Except.ok.inj hl

end Stores

end DoraSpec.Base.OrderedTable
