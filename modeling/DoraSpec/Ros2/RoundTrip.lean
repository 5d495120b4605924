import Mathlib.Data.Set.List
import DoraSpec.Ros2.Deserialize

/-!
# Round trips of ROS2 messages

A value that was serialised is read back as it was if it is laid out in the way in which the
deserializer lays out values and none of the cases occurs in which the two sides do not fit: a sequence
of booleans is written without its length, and a list of messages without elements, a message without
members and a list of more than `MAX_SEQUENCE_ELEMENTS` elements cannot be read.
-/

namespace DoraSpec.Ros2
open Base List

/-! ## Values that can be read back -/

/-- Layout of a value or of the elements of a list. -/
def NestableType.Layout : NestableType → Arr → Prop
  | basicType t, array => (∃ type values, t.prim? = some type ∧ array = .prim type values) ∨
    t.prim? = none ∧ ∃ values, array = .bool values
  | genericString _, array => ∃ strings, array = .ofStrings strings
  | namedType _, array | namespacedType _, array =>
    ∃ columns rows, array = .struct columns rows ∧ rows ≠ []

/-- Layout of a column that the deserializer can return for what was written. -/
def MemberType.Layout : MemberType → Arr → Prop
  | nestableType t, column => t.Layout column ∧ column.len = 1
  | array t size, column => size ≤ maxSequenceElements ∧
    ∃ entry, column = .list false [entry] ∧ t.Layout entry ∧ entry.len = size
  | sequence t, column | boundedSequence t _, column => t ≠ .basicType .bool ∧
    ∃ entry, column = .list false [entry] ∧ t.Layout entry ∧ entry.len ≤ maxSequenceElements

/-- Struct of one row with the members as columns. -/
def Arr.ofRow (message : Message) (row : List Arr) : Arr :=
  .struct ((message.members.map Member.name).zip (row.map (Arr.slice 0 0))) [row]

/-- A struct with one column for each member, in their order, that is laid out at every level. -/
inductive Readable (env : Env) : String → String → Arr → Prop
  | intro {package name : String} {message : Message} {row : List Arr}
    (hmessage : env.messages package name = some message) (hmembers : message.members ≠ [])
    (hrow : List.Forall₂ (fun m column => m.type.Layout column) message.members row)
    (hnested : ∀ m column, (m, column) ∈ message.members.zip row → ∀ reference : String × String,
      m.type.element.message? package = some reference →
        ∀ value ∈ m.type.messageArrays column, Readable env reference.1 reference.2 value) :
    Readable env package name (.ofRow message row)

/-- Whatever the wire format, the value is read back from what was written, given at least the room on
the stack with which it was written. -/
def RoundTrips (env : Env) (depth : Nat) (package name : String) (value : Arr) (d : Datum) : Prop :=
  ∀ (β : Type) (wire : Wire AtomKind.Val β) (depth' pos : Nat), depth ≤ depth' →
    ∃ pos', deserialize wire env depth' package name (pos, wire.writeAll pos d.atoms) =
      .ok (value, pos', [])

/-! ## Reading what was written -/

variable {members : List Member} {message : Message}

section

variable {β : Type} {wire : Wire AtomKind.Val β} {package : String}
  {write : String → String → Arr → Outcome String Datum} {read : String → String → Reader β Arr}

private theorem reads_prim (type : PrimType) (value : type.Native) :
    Reads wire (wire.next (.prim type)) (Datum.prim type value).atoms value :=
  @reads_next AtomKind AtomKind.Val β wire (.prim type) value

private theorem reads_bool (value : Bool) :
    Reads wire (wire.next .bool) (Datum.bool value).atoms value :=
  @reads_next AtomKind AtomKind.Val β wire .bool value

private theorem reads_str (value : String) :
    Reads wire (wire.next .str) (Datum.str value).atoms value :=
  @reads_next AtomKind AtomKind.Val β wire .str value

variable {α : Type} {t : NestableType} {column : Arr}

private theorem reads_seq {f : Nat → Reader β α} {items : List Datum} {a : α}
    (h : Reads wire (f items.length) (items.flatMap Datum.atoms) a) :
    Reads wire (wire.next .len >>= f) (Datum.seq items).atoms a := by
  have hlen : Reads wire (wire.next .len) [⟨.len, items.length⟩] items.length :=
    @reads_next AtomKind AtomKind.Val β wire .len items.length
  rw [Datum.atoms_seq]
  exact hlen.bind h

variable {γ : Type} {env : Env} {reference : String × String} {m : Member} {d : Datum}
  {columns : List (String × Arr)}

private theorem reads_many {ι : Type} {limit : Option Nat} {message : String} {item : Reader β α}
    {convert : α → Outcome String γ} {xs : List ι} {datum : ι → Datum} {result : ι → γ}
    (h : ∀ x ∈ xs, ∃ a, Reads wire item (datum x).atoms a ∧ convert a = .ok (result x))
    (hlimit : ∀ max ∈ limit, xs.length ≤ max) :
    Reads wire (Reader.many limit message item convert 0 (xs.map datum).length)
      ((xs.map datum).flatMap Datum.atoms) (xs.map result) := by
  rw [length_map, flatMap_map]
  exact .many h fun max hmax => (Nat.zero_add _).trans_le (hlimit max hmax)

private theorem reads_readUnits (units : List UInt16) :
    Reads wire (readUnits wire) (Datum.seq (units.map (.prim .u16))).atoms units := by
  have hunits : Reads wire (Reader.many none "" (wire.next (.prim .u16)) .ok 0
      (units.map (Datum.prim .u16)).length) _ (units.map id) :=
    reads_many (fun u _ => ⟨u, reads_prim .u16 u, rfl⟩) nofun
  rw [map_id] at hunits
  exact reads_seq hunits

private theorem fromUtf16_encode (s : String) : fromUtf16 (Utf16.encode s) = .ok s := by
  rw [fromUtf16, Utf16.decode_encode]
  rfl

private theorem reads_string (t : GenericString) (s : String) :
    Reads wire (deserializeString wire t) (t.datum s).atoms (.ofStrings [s]) := by
  unfold deserializeString GenericString.datum
  split
  · exact (reads_readUnits (Utf16.encode s)).bind_lift (fromUtf16_encode s)
  · exact (reads_str s).bind_pure

private theorem reads_readItems {kind : String} {item : Reader β α} {convert : α → Outcome String γ}
    {array : List γ → Arr} {values : List γ} {datum : γ → Datum}
    (h : ∀ v ∈ values, ∃ a, Reads wire item (datum v).atoms a ∧ convert a = .ok v)
    (hlimit : values.length ≤ maxSequenceElements) :
    Reads wire (readItems kind item convert array (values.map datum).length)
      ((values.map datum).flatMap Datum.atoms) (.list false [array values]) := by
  have hmany : Reads wire (readItems kind item convert array (values.map datum).length) _
      (.list false [array (values.map id)]) :=
    (reads_many h fun _ hmax => Option.some.inj hmax ▸ hlimit).bind_pure
  rwa [map_id] at hmany

private theorem message?_cases (h : t.message? package = some reference) :
    (t = .namedType reference.2 ∧ package = reference.1) ∨
      t = .namespacedType ⟨reference.1, "msg", reference.2⟩ := by
  match t with
  | .namedType name =>
    cases h
    exact .inl ⟨rfl, rfl⟩
  | .namespacedType ⟨package', nameSpace, name⟩ =>
    simp only [NestableType.message?] at h
    split at h
    · next hns =>
      cases h
      exact .inr (by rw [← hns])
    · cases h

private theorem layout_struct {rows : List (List Arr)} (h : t.message? package = some reference) :
    t.Layout (.struct columns rows) ↔ rows ≠ [] := by
  rcases message?_cases h with ⟨rfl, rfl⟩ | rfl
  · simp [NestableType.Layout]
  · simp [NestableType.Layout]

private theorem visitSeq_of_message (h : t.message? package = some reference) (count : Nat) :
    visitSeq wire env read package t count =
      deserializeStructSeq env (read reference.1 reference.2) count := by
  rcases message?_cases h with ⟨rfl, rfl⟩ | rfl
  · rfl
  · simp [visitSeq]

private def ReadsMessages (wire : Wire AtomKind.Val β)
    (write : String → String → Arr → Outcome String Datum) (read : String → String → Reader β Arr)
    (package : String) (t : NestableType) (values : List Arr) : Prop :=
  ∀ reference, t.message? package = some reference → ∀ value ∈ values, ∀ d,
    write reference.1 reference.2 value = .ok d →
      Reads wire (read reference.1 reference.2) d.atoms value

private theorem reads_visitSeq {entry : Arr} {items : List Datum}
    (hitems : WritesItems write package t entry items) (hlayout : t.Layout entry)
    (hlen : entry.len ≤ maxSequenceElements)
    (hmessage : ReadsMessages wire write read package t entry.structRows) :
    Reads wire (visitSeq wire env read package t items.length) (items.flatMap Datum.atoms)
      (.list false [entry]) := by
  cases hitems with
  | @prim t type values ht =>
    simp only [visitSeq, ht]
    exact reads_readItems (fun v _ => ⟨v, reads_prim type v, rfl⟩) hlen
  | @bool values => exact reads_readItems (fun v _ => ⟨v, reads_bool v, rfl⟩) hlen
  | @string t large slots =>
    obtain ⟨strings, hstrings⟩ := hlayout
    cases hstrings
    have hdata : (strings.map fun s => (⟨s, true⟩ : Slot String)).map
        (fun slot => t.datum (slot.getD "")) = strings.map t.datum := by
      rw [map_map]
      rfl
    have hlen' : strings.length ≤ maxSequenceElements := by
      rwa [Arr.len, length_map] at hlen
    rw [hdata, visitSeq]
    split
    · next hwide =>
      refine reads_readItems (fun s _ => ⟨Utf16.encode s, ?_, fromUtf16_encode s⟩) hlen'
      rw [GenericString.datum, if_pos hwide]
      exact reads_readUnits _
    · next hwide =>
      refine reads_readItems (fun s _ => ⟨s, ?_, rfl⟩) hlen'
      rw [GenericString.datum, if_neg hwide]
      exact reads_str s
  | @message t reference columns rows items ht hitems =>
    have hlength := hitems.length_eq
    have hmany : Reads wire (Reader.many (some maxSequenceElements)
        s!"struct sequence exceeds maximum of {maxSequenceElements} elements"
        (read reference.1 reference.2) .ok 0
        (((Arr.struct columns rows).structRows.zip items).map Prod.snd).length)
        ((((Arr.struct columns rows).structRows.zip items).map Prod.snd).flatMap Datum.atoms)
        (((Arr.struct columns rows).structRows.zip items).map Prod.fst) := by
      refine reads_many (fun x hx => ⟨x.1, hmessage reference ht x.1 (of_mem_zip hx).1 x.2
        ((forall₂_iff_zip.mp hitems).2 hx), rfl⟩) ?_
      rintro _ ⟨⟩
      rw [length_zip, ← hlength, Nat.min_self, Arr.structRows, length_map]
      exact hlen
    rw [map_snd_zip hlength.ge, map_fst_zip hlength.le] at hmany
    rw [visitSeq_of_message ht]
    refine hmany.bind_lift ?_
    rw [Arr.structRows, env.concat_rows ((layout_struct ht).mp hlayout)]
    rfl

private theorem deserializeField_of_message (hm : m.type = .nestableType t)
    (h : t.message? package = some reference) :
    deserializeField wire env read package m = read reference.1 reference.2 := by
  rcases message?_cases h with ⟨rfl, rfl⟩ | rfl
  · simp [deserializeField, hm]
  · simp [deserializeField, hm]

private theorem reads_sequence {entry : Arr} (hbool : t ≠ .basicType .bool)
    (hd : WritesEntry write package t entry d) (hlayout : t.Layout entry)
    (hlen : entry.len ≤ maxSequenceElements)
    (hmessage : ReadsMessages wire write read package t entry.structRows) :
    Reads wire (wire.next .len >>= fun count => visitSeq wire env read package t count) d.atoms
      (.list false [entry]) := by
  cases hd with
  | items _ hitems => exact reads_seq (reads_visitSeq hitems hlayout hlen hmessage)
  | bools => exact absurd rfl hbool
  | bytes => simp [NestableType.Layout] at hlayout

private theorem reads_deserializeField (hd : WritesField write package m.type column d)
    (hlayout : m.type.Layout column)
    (hmessage : ReadsMessages wire write read package m.type.element
      (m.type.messageArrays column)) :
    Reads wire (deserializeField wire env read package m) d.atoms column := by
  obtain ⟨name, type, default⟩ := m
  cases hd with
  | @prim t type value ht =>
    simp only [deserializeField, deserializePrimitive, ht]
    exact (reads_prim type value).bind_pure
  | @bool value => exact (reads_bool value).bind_pure
  | @string t large slot =>
    obtain ⟨⟨strings, hstrings⟩, -⟩ := hlayout
    match strings with
    | [s] =>
      cases hstrings
      exact reads_string t s
  | message ht hd =>
    rw [deserializeField_of_message rfl ht]
    exact hmessage _ ht column mem_cons_self _ hd
  | @array t size large entry items hitems =>
    obtain ⟨hsize, _, ⟨⟩, hentry, hlen⟩ := hlayout
    have h : Reads wire (visitSeq wire env read package t items.length) _ (.list false [entry]) :=
      reads_visitSeq hitems hentry (hlen.trans_le hsize) hmessage
    rwa [hitems.length_eq, hlen, ← Datum.atoms_tuple] at h
  | sequence hentry hd | boundedSequence hentry _ hd =>
    obtain ⟨hbool, _, rfl, hlayout, hlen⟩ := hlayout
    cases hentry
    exact reads_sequence hbool hd hlayout hlen hmessage

/-! ## Whole messages -/

private theorem lookup_zip {names : List String} {values : List α} (hnodup : names.Nodup)
    {name : String} {value : α} (h : (name, value) ∈ names.zip values) :
    (names.zip values).lookup name = some value := by
  induction names generalizing values with
  | nil => cases h
  | cons n names ih =>
    obtain ⟨hn, hnodup⟩ := nodup_cons.mp hnodup
    cases values with
    | nil => cases h
    | cons v values =>
      rcases mem_cons.mp h with h | h
      · cases h
        simp
      · have hne : name ≠ n := fun heq => hn (heq ▸ (of_mem_zip h).1)
        rw [zip_cons_cons, lookup_cons, beq_false_of_ne hne]
        exact ih hnodup h

private theorem columnByName_ofRow {row : List Arr}
    (hnodup : (message.members.map Member.name).Nodup)
    (hlen : message.members.length = row.length) (h : (m, column) ∈ message.members.zip row) :
    Arr.columnByName ((message.members.map Member.name).zip (row.map (Arr.slice 0 0))) [row] m.name =
      some column := by
  rw [Arr.columnByName, map_fst_zip (by simp [hlen])]
  refine lookup_zip hnodup ?_
  rw [zip_map_left]
  exact mem_map_of_mem (f := Prod.map Member.name id) h

private theorem structFrom_eq {row : List Arr} (hlen : message.members.length = row.length)
    (hmembers : message.members ≠ []) (hrow : ∀ column ∈ row, column.len = 1) :
    env.structFrom ((message.members.map Member.name).zip row) = .ok (.ofRow message row) := by
  have hne : (message.members.map Member.name).zip row ≠ [] := by
    rw [ne_eq, zip_eq_nil_iff, map_eq_nil_iff, ← length_eq_zero_iff (l := row), ← hlen,
      length_eq_zero_iff]
    simpa using hmembers
  have hsnd : ((message.members.map Member.name).zip row).map Prod.snd = row :=
    map_snd_zip (by simp [hlen])
  rw [env.structFrom_of_len_one hne fun c hc => hrow _ (of_mem_zip hc).2, hsnd, Arr.ofRow,
    zip_map_right]
  rfl

private theorem len_of_layout {t : MemberType} (h : t.Layout column) :
    column.len = 1 := by
  cases t with
  | nestableType => exact h.2
  | array | sequence | boundedSequence =>
    obtain ⟨_, _, rfl, _⟩ := h
    rfl

private theorem reads_members {f : Member → Reader β Arr} {data : List (Arr × Datum)}
    (h : List.Forall₂ (fun m p => Reads wire (f m) p.2.atoms p.1) members data) :
    Reads wire (members.mapM fun m => f m >>= fun value => pure (m.name, value))
      ((data.map Prod.snd).flatMap Datum.atoms)
      ((members.map Member.name).zip (data.map Prod.fst)) := by
  induction h with
  | nil => exact .pure []
  | cons hm _ ih =>
    rw [mapM_cons]
    exact hm.bind_pure.bind ih.bind_pure

private theorem exists_pairs {ι : Type} {R : ι → α → Prop} {S : ι → γ → Prop} {is : List ι}
    {as : List α} {cs : List γ} (hR : List.Forall₂ R is as) (hS : List.Forall₂ S is cs) :
    ∃ data : List (α × γ), data.map Prod.fst = as ∧ data.map Prod.snd = cs ∧
      List.Forall₂ (fun i p => R i p.1 ∧ S i p.2) is data := by
  induction hR generalizing cs with
  | nil =>
    cases hS
    exact ⟨[], rfl, rfl, .nil⟩
  | cons hi _ ih =>
    cases hS with
    | cons hj hS =>
      obtain ⟨data, rfl, rfl, hdata⟩ := ih hS
      exact ⟨(_, _) :: data, rfl, rfl, .cons ⟨hi, hj⟩ hdata⟩

private theorem reads_deserialize {env : Env} {depth depth' : Nat} {package name : String}
    {value : Arr} (hle : depth ≤ depth') (h : serialize env depth package name value = .ok d)
    (hr : Readable env package name value) :
    Reads wire (deserialize wire env depth' package name) d.atoms value := by
  induction depth generalizing depth' package name value d with
  | zero => cases h
  | succ depth ih =>
    obtain ⟨depth', rfl⟩ : ∃ k, depth' = k + 1 := ⟨depth' - 1, by omega⟩
    obtain ⟨message, columns, rows, fields, hmessage, hvalue, -, -, hfields, rfl⟩ :=
      serialize_eq_ok.mp h
    cases hr with
    | @intro _ _ message' row hmessage' hmembers hrow hnested =>
      obtain rfl := Option.some.inj (hmessage.symm.trans hmessage')
      obtain ⟨rfl, rfl⟩ := Arr.struct.inj hvalue
      have hlen := hrow.length_eq
      have hcolumns : List.Forall₂ (fun m column => (m, column) ∈ message.members.zip row)
          message.members row := forall₂_iff_zip.mpr ⟨hlen, id⟩
      have hlens : ∀ column ∈ row, column.len = 1 := by
        intro column hc
        obtain ⟨m, -, hlayout⟩ := exists_of_mem_right hrow hc
        exact len_of_layout hlayout
      obtain ⟨data, hfst, rfl, hdata⟩ := exists_pairs hcolumns hfields
      have hmember : List.Forall₂
          (fun m p => Reads wire (deserializeField wire env (deserialize wire env depth') package m)
            p.2.atoms p.1) message.members data := by
        refine hdata.imp ?_
        rintro m ⟨column, field⟩ ⟨hzip, column', hcolumn', hwrites⟩
        -- the column is the one in the place of the member
        rw [fieldColumn, columnByName_ofRow (env.distinct hmessage) hlen hzip] at hcolumn'
        cases hcolumn'
        refine reads_deserializeField hwrites ((forall₂_iff_zip.mp hrow).2 hzip)
          fun reference href value hv d hd => ?_
        exact ih (Nat.le_of_succ_le_succ hle) hd (hnested m column hzip reference href value hv)
      rw [deserialize, hmessage, Datum.atoms_tuple]
      refine Reads.lift_bind ?_
      have hstruct : Reads wire (Reader.lift (.ofPanics (env.structFrom
          ((message.members.map Member.name).zip (data.map Prod.fst))))) [] (.ofRow message row) := by
        rw [hfst, structFrom_eq hlen hmembers hlens]
        exact reads_lift _
      have hread := (reads_members hmember).bind
        (f := fun fields => Reader.lift (.ofPanics (env.structFrom fields))) hstruct
      rwa [append_nil] at hread

end

/-! ## What can be read

From what was written as it is, the deserializer returns values that are laid out. It has consumed at
least as many atoms as are written for such a value, and more if there is a sequence of booleans. -/

private def Covers (written read : List Atom) (P : Prop) : Prop :=
  written.length ≤ read.length ∧ (written.length = read.length → P)

private theorem Covers.of_true {atoms : List Atom} {P : Prop} (h : P) : Covers atoms atoms P :=
  ⟨le_rfl, fun _ => h⟩

private theorem Covers.imp {written read : List Atom} {P Q : Prop} (h : Covers written read P)
    (hPQ : P → Q) : Covers written read Q :=
  ⟨h.1, fun heq => hPQ (h.2 heq)⟩

private theorem covers_forall₂ {ι δ : Type} {is : List ι} {data : List ((List Atom × δ) × Datum)}
    {P : ι → (List Atom × δ) × Datum → Prop}
    (h : List.Forall₂ (fun i x => Covers x.2.atoms x.1.1 (P i x)) is data) :
    Covers ((data.map Prod.snd).flatMap Datum.atoms) ((data.map Prod.fst).flatMap Prod.fst)
      (List.Forall₂ P is data) := by
  induction h with
  | nil => exact .of_true .nil
  | cons hx _ ih =>
    obtain ⟨hle, hP⟩ := hx
    obtain ⟨hle', hP'⟩ := ih
    simp only [Covers, map_cons, flatMap_cons, length_append]
    exact ⟨by omega, fun heq => .cons (hP (by omega)) (hP' (by omega))⟩

private def emptyColumn (empty : String → String → Arr) (package : String) : MemberType → Arr
  | .nestableType (.basicType t) =>
    match t.prim? with
    | some type => .prim type []
    | none => .bool []
  | .nestableType (.genericString _) => .ofStrings []
  | .nestableType t =>
    match t.message? package with
    | some reference => empty reference.1 reference.2
    | none => .other "" 0
  | _ => .list false []

private def emptyMessage (env : Env) : Nat → String → String → Arr
  | 0, _, _ => .other "" 0
  | depth + 1, package, name =>
    match env.messages package name with
    | some message => .struct (message.members.map fun m =>
        (m.name, emptyColumn (emptyMessage env depth) package m.type)) []
    | none => .other "" 0

section

variable {env : Env} {depth : Nat} {package name : String}

private def ReadableIn (env : Env) (package : String) (t : NestableType) (values : List Arr) : Prop :=
  ∀ reference, t.message? package = some reference →
    ∀ value ∈ values, Readable env reference.1 reference.2 value

private def ReturnsItems (env : Env) (package : String) (t : NestableType) (entry : Arr)
    (atoms : List Atom) : Prop :=
  t.Layout entry ∧ ∀ depth items, WritesItems (serialize env depth) package t entry items →
    Covers (items.flatMap Datum.atoms) atoms (ReadableIn env package t entry.structRows)

private def ReturnsList (env : Env) (package : String) (t : NestableType) (count : Nat)
    (column : Arr) (atoms : List Atom) : Prop :=
  count ≤ maxSequenceElements ∧ ∃ entry, column = .list false [entry] ∧ entry.len = count ∧
    ReturnsItems env package t entry atoms

private def ReturnsColumn (env : Env) (depth : Nat) (package : String) (t : MemberType)
    (column : Arr) (atoms : List Atom) : Prop :=
  column.slice 0 0 = emptyColumn (emptyMessage env depth) package t ∧ column.len = 1 ∧
    ∀ depth' d, WritesField (serialize env depth') package t column d →
      Covers d.atoms atoms
        (t.Layout column ∧ ReadableIn env package t.element (t.messageArrays column))

private def ReturnsMessage (env : Env) (depth : Nat) (package name : String) (value : Arr)
    (atoms : List Atom) : Prop :=
  (∃ columns row, value = .struct columns [row] ∧
    .struct columns [] = emptyMessage env depth package name) ∧
    ∀ depth' d, serialize env depth' package name value = .ok d →
      Covers d.atoms atoms (Readable env package name value)

private theorem consumes_atom {kind : AtomKind} :
    Consumes ((Wire.plain AtomKind.Val).next kind) fun value atoms => atoms = [⟨kind, value⟩] :=
  consumes_next kind

private theorem consumes_many {α γ : Type} {limit : Option Nat} {message : String}
    {item : Reader Atom α} {convert : α → Outcome String γ} {P : α → List Atom → Prop}
    (datum : γ → Datum) (count : Nat) (hitem : Consumes item P)
    (hdatum : ∀ a atoms c, P a atoms → convert a = .ok c → atoms = (datum c).atoms) :
    Consumes (Reader.many limit message item convert 0 count) fun values atoms =>
      (∀ max ∈ limit, count ≤ max) ∧ values.length = count ∧
        atoms = (values.map datum).flatMap Datum.atoms := by
  refine (Consumes.many hitem fun _ _ => Nat.zero_le _).imp ?_
  rintro values _ ⟨hmax, parts, rfl, hparts, rfl, rfl⟩
  refine ⟨by simpa using hmax, length_map _, ?_⟩
  rw [map_map, flatMap_map]
  refine flatMap_congr fun part hpart => ?_
  obtain ⟨a, ha, hc⟩ := hparts part hpart
  exact hdatum a part.1 part.2 ha hc

private theorem consumes_err {α : Type} {e : String} {P : α → List Atom → Prop} :
    Consumes (Reader.lift (.err e)) P := by
  refine consumes_lift fun _ h => ?_
  cases h

private theorem consumes_outcome {α : Type} (o : Outcome String α) :
    Consumes (Reader.lift o) fun a (atoms : List Atom) => o = .ok a ∧ atoms = [] :=
  consumes_lift fun _ h => ⟨h, rfl⟩

private theorem consumes_readUnits :
    Consumes (readUnits (Wire.plain AtomKind.Val)) fun units atoms =>
      atoms = (Datum.seq (units.map (.prim .u16))).atoms := by
  refine consumes_atom.bind fun count _ hcount => ?_
  subst hcount
  refine (consumes_many (.prim .u16) count consumes_atom ?_).imp ?_
  · rintro u _ _ rfl ⟨⟩
    rfl
  · rintro units _ ⟨-, rfl, rfl⟩
    simp

variable {t : NestableType}

private theorem readableIn_of_none {values : List Arr} (h : t.message? package = none) :
    ReadableIn env package t values := by
  intro reference href
  rw [h] at href
  cases href

private theorem consumes_deserializePrimitive (t : BasicType) :
    Consumes (deserializePrimitive (Wire.plain AtomKind.Val) t)
      (ReturnsColumn env depth package (.nestableType (.basicType t))) := by
  unfold deserializePrimitive
  cases ht : t.prim? with
  | some type =>
    refine consumes_atom.bind fun value _ hvalue => .pure ?_
    subst hvalue
    refine ⟨by simp [Arr.slice, emptyColumn, ht], rfl, fun depth' d hd => ?_⟩
    cases hd with
    | prim => exact .of_true ⟨⟨.inl ⟨type, [value], ht, rfl⟩, rfl⟩, readableIn_of_none rfl⟩
    | message ht' => cases ht'
  | none =>
    refine consumes_atom.bind fun value _ hvalue => .pure ?_
    subst hvalue
    refine ⟨by simp [Arr.slice, emptyColumn, ht], rfl, fun depth' d hd => ?_⟩
    cases hd with
    | bool => exact .of_true ⟨⟨.inr ⟨ht, [value], rfl⟩, rfl⟩, readableIn_of_none rfl⟩
    | message ht' => cases ht'

private theorem atoms_of_fromUtf16 {t : GenericString} {units : List UInt16} {s : String}
    (hwide : t.isWide) (h : fromUtf16 units = .ok s) :
    (Datum.seq (units.map (.prim .u16))).atoms = (t.datum s).atoms := by
  rw [GenericString.datum, if_pos hwide, Utf16.encode_of_decode (Outcome.okOr_eq_ok.mp h)]

private theorem consumes_deserializeString (t : GenericString) :
    Consumes (deserializeString (Wire.plain AtomKind.Val) t)
      (ReturnsColumn env depth package (.nestableType (.genericString t))) := by
  have hreturns (s : String) : ReturnsColumn env depth package (.nestableType (.genericString t))
      (.ofStrings [s]) (t.datum s).atoms := by
    refine ⟨rfl, rfl, fun depth' d hd => ?_⟩
    cases hd with
    | string => exact .of_true ⟨⟨⟨[s], rfl⟩, rfl⟩, readableIn_of_none rfl⟩
    | message ht' => cases ht'
  unfold deserializeString
  split
  · next hwide =>
    refine consumes_readUnits.bind fun units _ hunits => ?_
    subst hunits
    refine (consumes_outcome _).bind fun s _ hs => .pure ?_
    obtain ⟨hs, rfl⟩ := hs
    rw [append_nil, append_nil, atoms_of_fromUtf16 hwide hs]
    exact hreturns s
  · next hwide =>
    refine consumes_atom.bind fun s _ hs => .pure ?_
    subst hs
    have hatoms : (t.datum s).atoms = [⟨.str, s⟩] := by
      rw [GenericString.datum, if_neg hwide]
      rfl
    have := hreturns s
    rwa [hatoms] at this

private theorem consumes_readItems {α γ : Type} {kind : String} {item : Reader Atom α}
    {convert : α → Outcome String γ} {array : List γ → Arr} {P : α → List Atom → Prop}
    (datum : γ → Datum) (count : Nat) (hitem : Consumes item P)
    (hdatum : ∀ a atoms c, P a atoms → convert a = .ok c → atoms = (datum c).atoms)
    (hlen : ∀ values, (array values).len = values.length)
    (hlayout : ∀ values, t.Layout (array values)) (ht : t.message? package = none)
    (hitems : ∀ values depth items,
      WritesItems (serialize env depth) package t (array values) items → items = values.map datum) :
    Consumes (readItems kind item convert array count) (ReturnsList env package t count) := by
  refine (consumes_many datum count hitem hdatum).bind fun values _ hvalues => .pure ?_
  obtain ⟨hmax, hcount, rfl⟩ := hvalues
  refine ⟨hmax _ rfl, array values, rfl, (hlen values).trans hcount, hlayout values,
    fun depth items hwrites => ?_⟩
  rw [hitems values depth items hwrites, append_nil]
  exact .of_true (readableIn_of_none ht)

private theorem exists_structRows {values : List Arr} (hne : values ≠ [])
    (h : ∀ value ∈ values, ∃ columns row, value = .struct columns [row] ∧
      .struct columns [] = emptyMessage env depth package name) :
    ∃ columns rows, values = (Arr.struct columns rows).structRows ∧ rows ≠ [] := by
  obtain ⟨first, rest, rfl⟩ := exists_cons_of_ne_nil hne
  obtain ⟨columns, row, rfl, hcolumns⟩ := h first mem_cons_self
  have hrest : rest ∈ Set.range (List.map fun row => Arr.struct columns [row]) := by
    rw [Set.range_list_map]
    intro value hv
    obtain ⟨columns', row', rfl, hcolumns'⟩ := h value (mem_cons_of_mem _ hv)
    cases hcolumns.trans hcolumns'.symm
    exact ⟨row', rfl⟩
  obtain ⟨rows, rfl⟩ := hrest
  exact ⟨columns, row :: rows, rfl, nofun⟩

variable {reference : String × String} {read : String → String → Reader Atom Arr}
  {atoms : List Atom} {parts : List (List Atom × Arr)}

private theorem consumes_deserializeStructSeq {read : Reader Atom Arr}
    (ht : t.message? package = some reference) (count : Nat)
    (hread : Consumes read (ReturnsMessage env depth reference.1 reference.2)) :
    Consumes (deserializeStructSeq env read count) (ReturnsList env package t count) := by
  refine (Consumes.many hread fun _ _ => Nat.zero_le _).bind fun values _ hvalues => ?_
  obtain ⟨hmax, parts, hcount, hparts, rfl, rfl⟩ := hvalues
  have hreturns : ∀ part ∈ parts, ReturnsMessage env depth reference.1 reference.2 part.2 part.1 := by
    intro part hp
    obtain ⟨_, ha, ⟨⟩⟩ := hparts part hp
    exact ha
  refine (consumes_outcome _).bind fun entry _ hentry => .pure ?_
  obtain ⟨hconcat, rfl⟩ := hentry
  rw [Outcome.ofExcept_eq_ok] at hconcat
  have hne : parts.map Prod.snd ≠ [] := by
    intro h
    rw [h] at hconcat
    exact env.concat_nil _ hconcat
  have hlayouts : ∀ value ∈ parts.map Prod.snd, ∃ columns row, value = .struct columns [row] ∧
      .struct columns [] = emptyMessage env depth reference.1 reference.2 := by
    intro value hv
    obtain ⟨part, hp, rfl⟩ := mem_map.mp hv
    exact (hreturns part hp).1
  obtain ⟨columns, rows, hrows, hrows_ne⟩ := exists_structRows hne hlayouts
  rw [hrows, Arr.structRows, env.concat_rows hrows_ne] at hconcat
  cases hconcat
  have hlen : rows.length = count := by
    rw [← hcount, ← length_map Prod.snd, hrows, Arr.structRows, length_map]
  refine ⟨by simpa using hmax _ rfl, _, rfl, hlen, (layout_struct ht).mpr hrows_ne,
    fun depth' items hitems => ?_⟩
  cases hitems with
  | message ht' hitems =>
    obtain rfl := Option.some.inj (ht.symm.trans ht')
    rw [← hrows, forall₂_map_left_iff] at hitems
    have hself : List.Forall₂ (fun part part' => part = part' ∧ part ∈ parts) parts parts :=
      forall₂_same.mpr fun _ hp => ⟨rfl, hp⟩
    obtain ⟨data, hfst, rfl, hdata⟩ := exists_pairs hself hitems
    have hcovers : List.Forall₂ (fun part x =>
        Covers x.2.atoms x.1.1 (Readable env reference.1 reference.2 part.2)) parts data := by
      refine hdata.imp ?_
      rintro part ⟨_, d⟩ ⟨⟨rfl, hp⟩, hd⟩
      exact (hreturns part hp).2 depth' d hd
    have hall := covers_forall₂ hcovers
    rw [hfst] at hall
    rw [append_nil, append_nil]
    refine hall.imp fun hreadable reference' href value hv => ?_
    obtain rfl := Option.some.inj (ht.symm.trans href)
    rw [← hrows] at hv
    obtain ⟨part, hp, rfl⟩ := mem_map.mp hv
    obtain ⟨_, -, h⟩ := exists_zip_of_mem hreadable hp
    exact h

private theorem returnsColumn_array {size : Nat} {entry : Arr} (hmax : size ≤ maxSequenceElements)
    (hlen : entry.len = size) (h : ReturnsItems env package t entry atoms) :
    ReturnsColumn env depth package (.array t size) (.list false [entry]) atoms := by
  refine ⟨rfl, rfl, fun depth' d hd => ?_⟩
  cases hd with
  | array hitems =>
    rw [Datum.atoms_tuple]
    exact (h.2 depth' _ hitems).imp fun hr => ⟨⟨hmax, entry, rfl, h.1, hlen⟩, hr⟩

private theorem covers_sequence {entry entry' : Arr} {depth' : Nat} {d : Datum} (count : Nat)
    (h : ReturnsItems env package t entry atoms) (hentry : IsEntry (.list false [entry]) entry')
    (hd : WritesEntry (serialize env depth') package t entry' d) :
    Covers d.atoms (⟨.len, count⟩ :: atoms)
      (t ≠ .basicType .bool ∧ ReadableIn env package t entry.structRows) := by
  cases hentry with
  | list =>
    cases hd with
    | items ht hitems =>
      obtain ⟨hle, hP⟩ := h.2 depth' _ hitems
      rw [Datum.atoms_seq]
      exact ⟨Nat.succ_le_succ hle, fun heq => ⟨ht, hP (Nat.succ.inj heq)⟩⟩
    | bools =>
      obtain ⟨hle, -⟩ := h.2 depth' _ .bool
      rw [Datum.atoms_tuple]
      exact ⟨Nat.le_succ_of_le hle, fun heq => absurd heq (Nat.lt_succ_of_le hle).ne⟩
    | bytes =>
      have := h.1
      simp [NestableType.Layout] at this

private theorem ReturnsMessage.column {value : Arr} (ht : t.message? package = some reference)
    (h : ReturnsMessage env depth reference.1 reference.2 value atoms) :
    ReturnsColumn env depth package (.nestableType t) value atoms := by
  obtain ⟨⟨columns, row, rfl, hcolumns⟩, h⟩ := h
  refine ⟨?_, rfl, fun depth' d hd => ?_⟩
  · have hempty : emptyColumn (emptyMessage env depth) package (.nestableType t) =
        emptyMessage env depth reference.1 reference.2 := by
      rcases message?_cases ht with ⟨rfl, rfl⟩ | rfl <;> simp [emptyColumn, NestableType.message?]
    rw [hempty, ← hcolumns]
    rfl
  · cases hd with
    | message ht' hd =>
      obtain rfl := Option.some.inj (ht.symm.trans ht')
      refine (h depth' d hd).imp fun hr => ⟨⟨(layout_struct ht).mpr (by simp), rfl⟩, ?_⟩
      intro reference' href value hv
      obtain rfl := mem_singleton.mp hv
      obtain rfl := Option.some.inj (ht.symm.trans href)
      exact hr

section

variable (hread : ∀ p n, Consumes (read p n) (ReturnsMessage env depth p n))

include hread

private theorem consumes_visitSeq (t : NestableType) (count : Nat) :
    Consumes (visitSeq (Wire.plain AtomKind.Val) env read package t count)
      (ReturnsList env package t count) := by
  match t with
  | .basicType t =>
    rw [visitSeq]
    cases ht : t.prim? with
    | some type =>
      refine consumes_readItems (.prim type) count consumes_atom ?_ (fun _ => rfl)
        (fun values => .inl ⟨type, values, ht, rfl⟩) rfl ?_
      · rintro v _ _ rfl ⟨⟩
        rfl
      · intro values depth' items h
        cases h with
        | prim => rfl
    | none =>
      refine consumes_readItems .bool count consumes_atom ?_ (fun _ => rfl)
        (fun values => .inr ⟨ht, values, rfl⟩) rfl ?_
      · rintro v _ _ rfl ⟨⟩
        rfl
      · intro values depth' items h
        cases h with
        | bool => rfl
  | .namedType name =>
    exact consumes_deserializeStructSeq (t := .namedType name) rfl count (hread _ _)
  | .namespacedType reference =>
    rw [visitSeq]
    split
    · exact consumes_err
    · next hns =>
      exact consumes_deserializeStructSeq (t := .namespacedType reference)
        (if_pos (not_not.mp hns)) count (hread _ _)
  | .genericString t =>
    have hitems : ∀ strings depth items, WritesItems (serialize env depth) package
        (.genericString t) (.ofStrings strings) items → items = strings.map t.datum := by
      intro strings depth' items h
      cases h with
      | string =>
        rw [map_map]
        rfl
    rw [visitSeq]
    split
    · next hwide =>
      refine consumes_readItems t.datum count consumes_readUnits ?_ (fun _ => length_map _)
        (fun strings => ⟨strings, rfl⟩) rfl hitems
      rintro units _ s rfl hs
      exact atoms_of_fromUtf16 hwide hs
    · next hwide =>
      refine consumes_readItems t.datum count consumes_atom ?_ (fun _ => length_map _)
        (fun strings => ⟨strings, rfl⟩) rfl hitems
      rintro s _ _ rfl ⟨⟩
      rw [GenericString.datum, if_neg hwide]
      rfl

private theorem consumes_sequence (t : NestableType) :
    Consumes ((Wire.plain AtomKind.Val).next .len >>= fun count =>
      visitSeq (Wire.plain AtomKind.Val) env read package t count) fun column atoms =>
        ∃ entry count atoms', column = .list false [entry] ∧ entry.len ≤ maxSequenceElements ∧
          atoms = ⟨.len, count⟩ :: atoms' ∧ ReturnsItems env package t entry atoms' := by
  refine consumes_atom.bind fun count _ hcount => ?_
  subst hcount
  refine (consumes_visitSeq hread t count).imp ?_
  rintro _ atoms' ⟨hmax, entry, rfl, hlen, h⟩
  exact ⟨entry, count, atoms', rfl, hlen.trans_le hmax, rfl, h⟩

private theorem consumes_deserializeField (m : Member) :
    Consumes (deserializeField (Wire.plain AtomKind.Val) env read package m)
      (ReturnsColumn env depth package m.type) := by
  obtain ⟨name, type, default⟩ := m
  cases type with
  | nestableType t =>
    cases t with
    | basicType t => exact consumes_deserializePrimitive t
    | genericString t => exact consumes_deserializeString t
    | namedType name =>
      exact (hread _ _).imp fun _ _ => ReturnsMessage.column (t := .namedType name) rfl
    | namespacedType reference =>
      simp only [deserializeField]
      split
      · exact consumes_err
      · next hns =>
        exact (hread _ _).imp fun _ _ =>
          ReturnsMessage.column (t := .namespacedType reference) (if_pos (not_not.mp hns))
  | array t size =>
    refine (consumes_visitSeq hread t size).imp ?_
    rintro _ atoms ⟨hmax, entry, rfl, hlen, h⟩
    exact returnsColumn_array hmax hlen h
  | sequence t | boundedSequence t =>
    refine (consumes_sequence hread t).imp ?_
    rintro _ _ ⟨entry, count, atoms, rfl, hmax, rfl, h⟩
    refine ⟨rfl, rfl, fun depth' d hd => ?_⟩
    -- the bound plays no part in what is read
    obtain ⟨entry', hentry, hd⟩ : ∃ entry', IsEntry (.list false [entry]) entry' ∧
        WritesEntry (serialize env depth') package t entry' d := by
      cases hd
      exact ⟨_, ‹_›, ‹_›⟩
    exact (covers_sequence count h hentry hd).imp fun hP =>
      ⟨⟨hP.1, entry, rfl, h.1, hmax⟩, hP.2⟩

end

private theorem zip_empty
    (h : List.Forall₂ (fun m part => ReturnsColumn env depth package m.type part.2 part.1)
      members parts) :
    (members.map Member.name).zip ((parts.map Prod.snd).map (Arr.slice 0 0)) =
      members.map fun m => (m.name, emptyColumn (emptyMessage env depth) package m.type) := by
  induction h with
  | nil => rfl
  | cons hm _ ih =>
    simp only [map_cons, zip_cons_cons, hm.1]
    exact congrArg _ ih

private theorem returnsMessage_ofRow
    (hmessage : env.messages package name = some message) (hmembers : message.members ≠ [])
    (hparts : List.Forall₂ (fun m part => ReturnsColumn env depth package m.type part.2 part.1)
      message.members parts) :
    ReturnsMessage env (depth + 1) package name (.ofRow message (parts.map Prod.snd))
      (parts.flatMap Prod.fst) := by
  have hlen : message.members.length = (parts.map Prod.snd).length := by
    rw [hparts.length_eq, length_map]
  constructor
  · refine ⟨_, _, rfl, ?_⟩
    rw [zip_empty hparts, emptyMessage, hmessage]
  · intro depth' d hd
    obtain ⟨depth', rfl⟩ : ∃ k, depth' = k + 1 := by
      cases depth' with
      | zero => cases hd
      | succ k => exact ⟨k, rfl⟩
    obtain ⟨message', columns, rows, fields, hmessage', hvalue, -, -, hfields, rfl⟩ :=
      serialize_eq_ok.mp hd
    obtain rfl := Option.some.inj (hmessage.symm.trans hmessage')
    obtain ⟨rfl, rfl⟩ := Arr.struct.inj hvalue
    have hzip : List.Forall₂
        (fun m part => (m, part.2) ∈ message.members.zip (parts.map Prod.snd)) message.members parts :=
      forall₂_map_right_iff.mp (forall₂_iff_zip.mpr ⟨hlen, id⟩)
    obtain ⟨data, hfst, rfl, hdata⟩ := exists_pairs hzip hfields
    have hcovers : List.Forall₂ (fun m x => Covers x.2.atoms x.1.1 (m.type.Layout x.1.2 ∧
        ReadableIn env package m.type.element (m.type.messageArrays x.1.2))) message.members data := by
      rw [← hfst, forall₂_map_right_iff] at hparts
      refine forall₂_iff_zip.mpr ⟨hdata.length_eq, fun {m x} hmx => ?_⟩
      obtain ⟨hmem, column, hcolumn, hwrites⟩ := (forall₂_iff_zip.mp hdata).2 hmx
      rw [fieldColumn, columnByName_ofRow (env.distinct hmessage) hlen hmem] at hcolumn
      cases hcolumn
      exact ((forall₂_iff_zip.mp hparts).2 hmx).2.2 depth' x.2 hwrites
    have hall := covers_forall₂ hcovers
    rw [hfst] at hall
    rw [Datum.atoms_tuple]
    refine hall.imp fun hgood => ?_
    have hrow : List.Forall₂ (fun m column => m.type.Layout column ∧
        ReadableIn env package m.type.element (m.type.messageArrays column))
        message.members (parts.map Prod.snd) := by
      rw [← hfst, map_map]
      exact forall₂_map_right_iff.mpr hgood
    exact .intro hmessage hmembers (hrow.imp fun _ _ h => h.1) fun m column hmc =>
      ((forall₂_iff_zip.mp hrow).2 hmc).2

private theorem fields_eq_zip {P : Member → List Atom × String × Arr → Prop}
    {parts : List (List Atom × String × Arr)}
    (h : List.Forall₂ (fun m part => part.2.1 = m.name ∧ P m part) members parts) :
    parts.map Prod.snd = (members.map Member.name).zip (parts.map fun part => part.2.2) := by
  induction h with
  | nil => rfl
  | cons hm _ ih =>
    simp only [map_cons, zip_cons_cons, ← hm.1]
    exact congrArg _ ih

private theorem consumes_deserialize (depth : Nat) (package name : String) :
    Consumes (deserialize (Wire.plain AtomKind.Val) env depth package name)
      (ReturnsMessage env depth package name) := by
  induction depth generalizing package name with
  | zero => exact consumes_lift nofun
  | succ depth ih =>
    refine (consumes_outcome _).bind fun message _ hmessage => ?_
    obtain ⟨hmessage, rfl⟩ := hmessage
    rw [Outcome.okOr_eq_ok] at hmessage
    have hmember (m : Member) : Consumes
        (deserializeField (Wire.plain AtomKind.Val) env (deserialize (Wire.plain AtomKind.Val) env depth)
          package m >>= fun value => pure (m.name, value))
        fun field atoms => field.1 = m.name ∧ ReturnsColumn env depth package m.type field.2 atoms :=
      (consumes_deserializeField ih m).bind fun value atoms h => .pure ⟨rfl, by simpa using h⟩
    refine (Consumes.mapM fun m _ => hmember m).bind fun fields _ hfields => ?_
    obtain ⟨parts, hparts, rfl, rfl⟩ := hfields
    refine consumes_lift fun value hvalue => ?_
    have hreturns : List.Forall₂
        (fun m part => ReturnsColumn env depth package m.type part.2 part.1) message.members
        (parts.map fun part => (part.1, part.2.2)) :=
      forall₂_map_right_iff.mpr (hparts.imp fun _ _ h => h.2)
    have hmembers : message.members ≠ [] := by
      intro hnil
      rw [fields_eq_zip hparts, hnil] at hvalue
      exact env.structFrom_nil _ (Outcome.ofPanics_eq_ok.mp hvalue)
    have hlens : ∀ column ∈ parts.map (fun part => part.2.2), column.len = 1 := by
      intro column hc
      obtain ⟨part, hp, rfl⟩ := mem_map.mp hc
      obtain ⟨m, -, h⟩ := exists_of_mem_right hparts hp
      exact h.2.2.1
    rw [fields_eq_zip hparts, structFrom_eq (by simp [hparts.length_eq]) hmembers hlens] at hvalue
    cases hvalue
    have h := returnsMessage_ofRow hmessage hmembers hreturns
    rw [flatMap_map, map_map] at h
    rw [nil_append, append_nil]
    exact h

end

/-- A value is read back if and only if it is laid out in this way at every level. -/
theorem roundTrips_iff_readable {env : Env} {depth : Nat} {package name : String} {value : Arr}
    {d : Datum} (h : serialize env depth package name value = .ok d) :
    RoundTrips env depth package name value d ↔ Readable env package name value := by
  constructor
  · intro hround
    obtain ⟨pos, hpos⟩ := hround Atom (Wire.plain AtomKind.Val) depth 0 le_rfl
    rw [Wire.writeAll_plain] at hpos
    obtain ⟨atoms, hatoms, -, hcovers⟩ := consumes_deserialize depth package name _ _ _ _ hpos
    rw [append_nil] at hatoms
    subst hatoms
    exact (hcovers depth d h).2 rfl
  · intro hr β wire depth' pos hle
    have hread : Reads wire _ _ _ := reads_deserialize hle h hr
    have := hread pos []
    rw [append_nil] at this
    exact ⟨_, this⟩

/-- `bool[] flags` -/
def flagsMessage : Message where
  package := "demo"
  name := "Flags"
  members := [{ name := "flags", type := .sequence (.basicType .bool) }]

/-- `uint8[] levels` -/
def levelsMessage : Message where
  package := "demo"
  name := "Levels"
  members := [{ name := "levels", type := .sequence (.basicType .u8) }]

def sequencesEnv : Env := .ofList [flagsMessage, levelsMessage] (by decide)

def flagsValue : Arr := .struct [("flags", .list false [])] [[.list false [.bool [true, false]]]]

def levelsValue : Arr := .struct [("levels", .list false [])] [[.list false [.prim .u8 [3, 5]]]]

private theorem serialize_levelsValue : serialize sequencesEnv 1 "demo" "Levels" levelsValue =
    .ok (.tuple [.seq [.prim .u8 3, .prim .u8 5]]) :=
  serialize_eq_ok.mpr ⟨levelsMessage, _, _, _, rfl, rfl, by decide, le_rfl,
    .cons ⟨_, rfl, .sequence .list (.items (by decide) (.prim rfl))⟩ .nil, rfl⟩

private theorem readable_levelsValue : Readable sequencesEnv "demo" "Levels" levelsValue := by
  have hmessage : sequencesEnv.messages "demo" "Levels" = some levelsMessage := rfl
  have hlayout : (MemberType.sequence (.basicType .u8)).Layout (.list false [.prim .u8 [3, 5]]) :=
    ⟨by decide, _, rfl, .inl ⟨.u8, [3, 5], rfl, rfl⟩, by decide⟩
  refine .intro hmessage (by decide) (.cons hlayout .nil) fun m column hmc reference href => ?_
  obtain ⟨rfl, rfl⟩ := Prod.mk.inj (mem_singleton.mp hmc)
  cases href

/-- A message with two levels. -/
theorem roundTrips_levelsValue :
    RoundTrips sequencesEnv 1 "demo" "Levels" levelsValue
      (.tuple [.seq [.prim .u8 3, .prim .u8 5]]) :=
  (roundTrips_iff_readable serialize_levelsValue).mpr readable_levelsValue

/-- The length of a sequence of booleans is missing. -/
theorem not_roundTrips :
    ∃ env depth package name value d, serialize env depth package name value = .ok d ∧
      ¬ RoundTrips env depth package name value d := by
  have hserialize : serialize sequencesEnv 1 "demo" "Flags" flagsValue =
      .ok (.tuple [.tuple [.bool true, .bool false]]) :=
    serialize_eq_ok.mpr ⟨flagsMessage, _, _, _, rfl, rfl, by decide, le_rfl,
      .cons ⟨_, rfl, .sequence .list .bools⟩ .nil, rfl⟩
  refine ⟨sequencesEnv, 1, "demo", "Flags", flagsValue, _, hserialize, fun hround => ?_⟩
  obtain ⟨pos, hpos⟩ := hround Atom (Wire.plain AtomKind.Val) 1 0 le_rfl
  cases hpos

end DoraSpec.Ros2
