import DoraSpec.Ros2.Serialize

/-!
# Declared bounds of written messages

A message type declares the size of a fixed array and the maximum length of a bounded sequence or
string. The serializer checks the size of an array only if its elements are basic, the length of a
string only if it is no element, and the length of a sequence of bytes before it looks into a binary
array. So what is written is within the bounds if and only if what is given is, at every level.
-/

namespace DoraSpec.Ros2
open Base List

/-! ## Bounds on what is written -/

namespace Datum

/-- Elements of a tuple or a sequence. -/
def items : Datum → List Datum
  | seq items | tuple items => items
  | _ => []

/-- Length of a string, or the number of units of a wide string. -/
def textLength : Datum → Nat
  | str value => value.utf8ByteSize
  | seq items => items.length
  | _ => 0

/-- Basic values at the place of one: the bytes of a binary value are a sequence of their own. -/
def basicCount : Datum → Nat
  | seq items => items.length
  | _ => 1

end Datum

/-- A written string is not longer than declared. -/
def GenericString.Obeys (t : GenericString) (d : Datum) : Prop := ∀ max ∈ t.max?, d.textLength ≤ max

namespace NestableType

/-- An element obeys the bound of its own type; messages are left to `ObeysBounds`. -/
def Obeys : NestableType → Datum → Prop
  | genericString t, d => t.Obeys d
  | _, _ => True

/-- Number of values of an element type. -/
def count : NestableType → List Datum → Nat
  | basicType _, items => (items.map Datum.basicCount).sum
  | _, items => items.length

end NestableType

namespace MemberType

/-- Bounds of a member type. -/
def Obeys : MemberType → Datum → Prop
  | nestableType t, d => t.Obeys d
  | array t size, d => t.count d.items = size ∧ ∀ item ∈ d.items, t.Obeys item
  | sequence t, d => ∀ item ∈ d.items, t.Obeys item
  | boundedSequence t max, d => t.count d.items ≤ max ∧ ∀ item ∈ d.items, t.Obeys item

/-- Places of messages in what is written for a member. -/
def messageData : MemberType → Datum → List Datum
  | nestableType _, d => [d]
  | _, d => d.items

end MemberType

/-- A written message obeys the bounds of its members, and so do the messages in it. -/
inductive ObeysBounds (env : Env) : String → String → Datum → Prop
  | intro {package name : String} {message : Message} {fields : List Datum}
    (hmessage : env.messages package name = some message)
    (hfields : List.Forall₂ (fun m field => m.type.Obeys field) message.members fields)
    (hnested : ∀ m field, (m, field) ∈ message.members.zip fields → ∀ reference,
      m.type.element.message? package = some reference → ∀ d ∈ m.type.messageData field,
        ObeysBounds env reference.1 reference.2 d) :
    ObeysBounds env package name (.tuple fields)

/-! ## Bounds on what is given -/

namespace Arr

/-- Strings of an array, where a slot that is not valid counts as empty. -/
def strings : Arr → List String
  | string _ slots => slots.map fun slot => slot.getD ""
  | _ => []

/-- Values in the entry of a list; the values of a binary array are its bytes. -/
def valueCount : Arr → Nat
  | binary _ slots => (slots.map fun slot => (slot.getD []).length).sum
  | entry => entry.len

end Arr

/-- The strings of an entry are not longer than declared. -/
def NestableType.StringsFit : NestableType → Arr → Prop
  | genericString t, entry => ∀ s ∈ entry.strings, t.Fits s
  | _, _ => True

namespace MemberType

/-- Bounds of a member type for a column. A single string is left to the serializer. -/
def Fits : MemberType → Arr → Prop
  | nestableType _, _ => True
  | array t size, column => ∀ entry, IsEntry column entry →
    entry.valueCount = size ∧ t.StringsFit entry
  | sequence t, column => ∀ entry, IsEntry column entry → t.StringsFit entry
  | boundedSequence t max, column => ∀ entry, IsEntry column entry →
    entry.valueCount ≤ max ∧ t.StringsFit entry

end MemberType

/-- Column that a struct gives for a member, or the default of a member that it omits. -/
def Takes (env : Env) (package : String) (columns : List (String × Arr)) (rows : List (List Arr))
    (m : Member) (column : Arr) : Prop :=
  Arr.columnByName columns rows m.name = some column ∨
    Arr.columnByName columns rows m.name = none ∧
      ∃ depth, defaultForMember env (defaultForMessage env depth) package m = .ok column

/-- The columns of a struct are within the bounds of the message, and so are the structs in it. -/
inductive FitsBounds (env : Env) : String → String → Arr → Prop
  | intro {package name : String} {message : Message} {columns : List (String × Arr)}
    {rows : List (List Arr)} (hmessage : env.messages package name = some message)
    (hcolumns : ∀ m ∈ message.members, ∀ column, Takes env package columns rows m column →
      m.type.Fits column)
    (hnested : ∀ m ∈ message.members, ∀ column, Takes env package columns rows m column →
      ∀ reference, m.type.element.message? package = some reference →
        ∀ value ∈ m.type.messageArrays column, FitsBounds env reference.1 reference.2 value) :
    FitsBounds env package name (.struct columns rows)

/-! ## One field -/

section

variable {message : String → String → Arr → Outcome String Datum} {package : String}

private theorem GenericString.textLength_datum (t : GenericString) (s : String) :
    (t.datum s).textLength = t.lengthOf s := by
  unfold datum lengthOf
  split
  · simp [Datum.textLength]
  · rfl

private theorem GenericString.obeys_datum_iff {t : GenericString} {s : String} :
    t.Obeys (t.datum s) ↔ t.Fits s := by
  rw [Obeys, textLength_datum, Fits]

variable {t : NestableType} {entry column : Arr} {d : Datum}

private theorem count_map {α : Type} {f : α → Datum} {xs : List α}
    (hf : ∀ x, (f x).basicCount = 1) : t.count (xs.map f) = xs.length := by
  cases t with
  | basicType t => simp [NestableType.count, hf, Function.comp_def]
  | _ => simp [NestableType.count]

private theorem WritesItems.count_eq {items : List Datum}
    (h : WritesItems message package t entry items) :
    t.count items = entry.valueCount := by
  cases h with
  | prim | bool => exact count_map fun _ => rfl
  | string => exact length_map _
  | message ht hitems =>
    have hlen := hitems.length_eq
    cases t with
    | basicType => cases ht
    | _ => simpa [NestableType.count, Arr.valueCount, Arr.len, Arr.structRows] using hlen.symm

private theorem WritesItems.obeys_iff {items : List Datum}
    (h : WritesItems message package t entry items) :
    (∀ item ∈ items, t.Obeys item) ↔ t.StringsFit entry := by
  cases h with
  | prim | bool => simp [NestableType.Obeys, NestableType.StringsFit]
  | string =>
    simp [NestableType.Obeys, NestableType.StringsFit, Arr.strings, GenericString.obeys_datum_iff]
  | message ht =>
    cases t with
    | genericString => cases ht
    | _ => simp [NestableType.Obeys, NestableType.StringsFit]

private theorem WritesEntry.count_eq (h : WritesEntry message package t entry d) :
    t.count d.items = entry.valueCount := by
  cases h with
  | items _ hitems => exact hitems.count_eq
  | bools => exact count_map fun _ => rfl
  | bytes =>
    simp [Datum.items, NestableType.count, Datum.basicCount, Arr.valueCount, Function.comp_def]

private theorem WritesEntry.obeys_iff (h : WritesEntry message package t entry d) :
    (∀ item ∈ d.items, t.Obeys item) ↔ t.StringsFit entry := by
  cases h with
  | items _ hitems => exact hitems.obeys_iff
  | bools | bytes => simp [NestableType.Obeys, NestableType.StringsFit]

private theorem forall_isEntry {P : Arr → Prop} (h : IsEntry column entry) :
    (∀ e, IsEntry column e → P e) ↔ P entry := by
  constructor
  · exact fun hP => hP entry h
  · intro hP e he
    cases h <;> cases he <;> exact hP

private theorem WritesField.obeys_iff {t : MemberType}
    (h : WritesField message package t column d) :
    t.Obeys d ↔ t.Fits column := by
  cases h with
  | prim | bool => exact Iff.rfl
  | string hfits => exact iff_of_true (GenericString.obeys_datum_iff.mpr hfits) trivial
  | @message t _ _ _ ht =>
    cases t with
    | genericString => cases ht
    | _ => exact Iff.rfl
  | array hitems =>
    rw [MemberType.Fits, forall_isEntry .list, ← hitems.count_eq, ← hitems.obeys_iff]
    exact Iff.rfl
  | sequence hentry hd =>
    rw [MemberType.Fits, forall_isEntry hentry, ← hd.obeys_iff]
    exact Iff.rfl
  | boundedSequence hentry _ hd =>
    rw [MemberType.Fits, forall_isEntry hentry, ← hd.count_eq, ← hd.obeys_iff]
    exact Iff.rfl

private theorem WritesEntry.forall₂_messages {reference : String × String}
    (ht : t.message? package = some reference) (hentry : IsEntry column entry)
    (h : WritesEntry message package t entry d) :
    ∃ large, column = .list large [entry] ∧
      List.Forall₂ (fun value d => message reference.1 reference.2 value = .ok d)
        entry.structRows d.items := by
  cases h with
  | items _ hitems =>
    cases hitems with
    | message ht' hitems =>
      obtain rfl := Option.some.inj (ht.symm.trans ht')
      cases hentry with
      | list => exact ⟨_, rfl, hitems⟩
    | _ => cases ht
  | _ => cases ht

private theorem WritesField.forall₂_messages {t : MemberType} {reference : String × String}
    (ht : t.element.message? package = some reference)
    (h : WritesField message package t column d) :
    List.Forall₂ (fun value d => message reference.1 reference.2 value = .ok d)
      (t.messageArrays column) (t.messageData d) := by
  cases h with
  | message ht' hd =>
    obtain rfl := Option.some.inj (ht.symm.trans ht')
    exact .cons hd .nil
  | array hitems =>
    cases hitems with
    | message ht' hitems =>
      obtain rfl := Option.some.inj (ht.symm.trans ht')
      exact hitems
    | _ => cases ht
  | sequence hentry hd =>
    obtain ⟨_, rfl, hitems⟩ := hd.forall₂_messages ht hentry
    exact hitems
  | boundedSequence hentry _ hd =>
    obtain ⟨_, rfl, hitems⟩ := hd.forall₂_messages ht hentry
    exact hitems
  | _ => cases ht

end

/-! ## Whole messages -/

section

variable {env : Env} {package name : String} {columns : List (String × Arr)}
  {rows : List (List Arr)} {m : Member}

private theorem takes_of_fieldColumn {depth : Nat} {message : Message} {column : Arr}
    (h : fieldColumn env depth package message columns rows m = .ok column) :
    Takes env package columns rows m column := by
  unfold fieldColumn at h
  split at h
  · next hgiven => exact .inl (hgiven.trans (congrArg some (Outcome.ok.inj h)))
  · next hnone => exact .inr ⟨hnone, depth, Outcome.mapErr_eq_ok.mp (Outcome.mapErr_eq_ok.mp h)⟩

private theorem Takes.unique {column column' : Arr} (h : Takes env package columns rows m column)
    (h' : Takes env package columns rows m column') : column = column' := by
  rcases h with h | ⟨h, depth, hd⟩
  · rcases h' with h' | ⟨h', -⟩
    · exact Option.some.inj (h.symm.trans h')
    · cases h.symm.trans h'
  · rcases h' with h' | ⟨-, depth', hd'⟩
    · cases h.symm.trans h'
    · -- both are the default with the larger of the two rooms on the stack
      have hmax {k : Nat} {c : Arr} (hk : k ≤ max depth depth')
          (hc : defaultForMember env (defaultForMessage env k) package m = .ok c) :
          defaultForMember env (defaultForMessage env (max depth depth')) package m = .ok c :=
        defaultForMember_mono (fun _ _ _ => defaultForMessage_mono hk) hc
      exact Outcome.ok.inj ((hmax (le_max_left ..) hd).symm.trans (hmax (le_max_right ..) hd'))

/-- What is written obeys the bounds exactly if the value fits them. -/
theorem obeysBounds_iff_fitsBounds {depth : Nat} {value : Arr} {d : Datum}
    (h : serialize env depth package name value = .ok d) :
    ObeysBounds env package name d ↔ FitsBounds env package name value := by
  induction depth generalizing package name value d with
  | zero => cases h
  | succ depth ih =>
    obtain ⟨message, columns, rows, fields, hmessage, rfl, -, -, hfields, rfl⟩ :=
      serialize_eq_ok.mp h
    constructor
    · intro hobeys
      cases hobeys with
      | intro hmessage' hall hnested =>
        obtain rfl := Option.some.inj (hmessage.symm.trans hmessage')
        -- the field of a member is written from the column that it takes
        have hfield {m column} (hm : m ∈ message.members)
            (hc : Takes env package columns rows m column) :
            ∃ field, (m, field) ∈ message.members.zip fields ∧
              WritesField (serialize env depth) package m.type column field := by
          obtain ⟨field, hzip, column', hcolumn', hwrites⟩ := exists_zip_of_mem hfields hm
          obtain rfl := hc.unique (takes_of_fieldColumn hcolumn')
          exact ⟨field, hzip, hwrites⟩
        refine .intro hmessage (fun m hm column hc => ?_) fun m hm column hc reference href value hv => ?_
        · obtain ⟨field, hzip, hwrites⟩ := hfield hm hc
          exact hwrites.obeys_iff.mp ((forall₂_iff_zip.mp hall).2 hzip)
        · obtain ⟨field, hzip, hwrites⟩ := hfield hm hc
          obtain ⟨d, hd, hser⟩ := exists_zip_of_mem (hwrites.forall₂_messages href) hv
          exact (ih hser).mp (hnested m field hzip reference href d (of_mem_zip hd).2)
    · intro hfits
      cases hfits with
      | intro hmessage' hcolumns hnested =>
        obtain rfl := Option.some.inj (hmessage.symm.trans hmessage')
        have hzip := forall₂_iff_zip.mp hfields
        refine .intro hmessage (forall₂_iff_zip.mpr ⟨hzip.1, fun {m field} hmem => ?_⟩)
          fun m field hmem reference href d hd => ?_
        · obtain ⟨column, hcolumn, hwrites⟩ := hzip.2 hmem
          exact hwrites.obeys_iff.mpr
            (hcolumns m (of_mem_zip hmem).1 column (takes_of_fieldColumn hcolumn))
        · obtain ⟨column, hcolumn, hwrites⟩ := hzip.2 hmem
          obtain ⟨value, hvalue, hser⟩ := exists_of_mem_right (hwrites.forall₂_messages href) hd
          exact (ih hser).mpr (hnested m (of_mem_zip hmem).1 column
            (takes_of_fieldColumn hcolumn) reference href value hvalue)

end

/-- `string[2] names` -/
def pairMessage : Message where
  package := "demo"
  name := "Pair"
  members := [{ name := "names", type := .array (.genericString .string) 2 }]

def pairEnv : Env := .ofList [pairMessage] (by decide)

def pairValue (names : List String) : Arr :=
  .struct [("names", .list false [])] [[.list false [.string false (names.map fun s => ⟨s, true⟩)]]]

private theorem serialize_pairValue (names : List String) :
    serialize pairEnv 1 "demo" "Pair" (pairValue names) =
      .ok (.tuple [.tuple (names.map .str)]) := by
  have hitems : (names.map fun s => (⟨s, true⟩ : Slot String)).map
      (fun slot => GenericString.string.datum (slot.getD "")) = names.map .str := by
    rw [map_map]
    rfl
  refine serialize_eq_ok.mpr
    ⟨pairMessage, _, _, _, rfl, rfl, by decide, le_rfl, .cons ⟨_, rfl, ?_⟩ .nil, rfl⟩
  exact hitems ▸ .array .string nofun

private theorem fitsBounds_pairValue {names : List String} (h : names.length = 2) :
    FitsBounds pairEnv "demo" "Pair" (pairValue names) := by
  have htakes : Takes pairEnv "demo" [("names", .list false [])]
      [[.list false [.string false (names.map fun s => ⟨s, true⟩)]]]
      { name := "names", type := .array (.genericString .string) 2 }
      (.list false [.string false (names.map fun s => ⟨s, true⟩)]) := .inl rfl
  refine .intro (rfl : _ = some pairMessage) (fun m hm column hc => ?_) fun m hm column hc reference href => ?_
  · obtain rfl := mem_singleton.mp hm
    obtain rfl := hc.unique htakes
    rintro _ ⟨⟩
    exact ⟨(length_map _).trans h, fun _ _ => nofun⟩
  · obtain rfl := mem_singleton.mp hm
    cases href

/-- A pair of short strings. -/
theorem obeysBounds_pairValue :
    serialize pairEnv 1 "demo" "Pair" (pairValue ["north", "south"]) =
      .ok (.tuple [.tuple [.str "north", .str "south"]]) ∧
    ObeysBounds pairEnv "demo" "Pair" (.tuple [.tuple [.str "north", .str "south"]]) :=
  ⟨serialize_pairValue _, (obeysBounds_iff_fitsBounds (serialize_pairValue ["north", "south"])).mpr
    (fitsBounds_pairValue rfl)⟩

/-- Three strings are written for an array of two. -/
theorem not_obeysBounds :
    ∃ env depth package name value d, serialize env depth package name value = .ok d ∧
      ¬ ObeysBounds env package name d := by
  refine ⟨pairEnv, 1, "demo", "Pair", pairValue ["north", "south", "west"], _,
    serialize_pairValue _, fun h => ?_⟩
  cases h with
  | intro hmessage hfields =>
    obtain rfl : pairMessage = _ := Option.some.inj hmessage
    cases hfields with
    | cons hfield => exact absurd hfield.1 (by decide)

end DoraSpec.Ros2
