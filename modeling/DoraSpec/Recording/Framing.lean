import DoraSpec.Recording.Format

/-!
# Framing of recordings and corrupt records

Reading a recording is framing followed by parsing: the outer lengths cut the bytes into record
bodies, and each body is parsed by itself. A body panics the reader exactly when one of its own
length fields points past its end.
-/

namespace DoraSpec.Recording
open Base Base.Bytes

/-- Record bodies that the outer lengths delimit, and how the framing ends. -/
def frames (bytes : List UInt8) : List (List UInt8) × ReadEnd :=
  match _h : readFrame bytes with
  | .ok none => ([], .eof)
  | .error message => ([], .error message)
  | .ok (some (body, rest)) =>
    let tail := frames rest
    (body :: tail.1, tail.2)
termination_by bytes.length
decreasing_by exact length_of_readFrame _h

/-- Parse record bodies in turn, up to the first that is not parsed. -/
def parseAll : List (List UInt8) → ReadEnd → List RecordEntry × ReadEnd
  | [], ending => ([], ending)
  | body :: bodies, ending =>
    match parseRecord body with
    | .err message => ([], .error message)
    | .panic message => ([], .panic message)
    | .ok entry =>
      let tail := parseAll bodies ending
      (entry :: tail.1, tail.2)

/-- The reading stopped because the code panicked. -/
def ReadEnd.Panics : ReadEnd → Prop
  | .panic _ => True
  | _ => False

instance (ending : ReadEnd) : Decidable ending.Panics :=
  match ending with
  | .eof => .isFalse id
  | .error _ => .isFalse id
  | .panic _ => .isTrue True.intro

variable {bytes body : List UInt8} {nodeId : String}

/-- The end of the stream. -/
theorem frames_of_none (h : readFrame bytes = .ok none) :
    frames bytes = ([], .eof) := by
  rw [frames]
  split <;> simp_all

/-- A bad frame. -/
theorem frames_of_error {message : String} (h : readFrame bytes = .error message) :
    frames bytes = ([], .error message) := by
  rw [frames]
  split <;> simp_all

/-- A frame and the others. -/
theorem frames_of_some {rest : List UInt8} (h : readFrame bytes = .ok (some (body, rest))) :
    frames bytes = (body :: (frames rest).1, (frames rest).2) := by
  rw [frames]
  split <;> simp_all

/-- Framing by itself never panics. -/
theorem not_panics_frames (bytes : List UInt8) : ¬ (frames bytes).2.Panics := by
  induction bytes using frames.induct with
  | case1 bytes h => rw [frames_of_none h]; exact id
  | case2 bytes message h => rw [frames_of_error h]; exact id
  | case3 bytes body rest h ih => rw [frames_of_some h]; exact ih

/-- Reading entries one by one is framing followed by parsing. -/
theorem readEntries_eq_parseAll (bytes : List UInt8) :
    readEntries bytes = parseAll (frames bytes).1 (frames bytes).2 := by
  induction bytes using frames.induct with
  | case1 bytes h =>
    rw [frames_of_none h, readEntries]
    have hn : nextEntry bytes = .ok none := by rw [nextEntry, h]
    split <;> simp_all [parseAll]
  | case2 bytes message h =>
    rw [frames_of_error h, readEntries]
    have hn : nextEntry bytes = .err message := by rw [nextEntry, h]
    split <;> simp_all [parseAll]
  | case3 bytes body rest h ih =>
    have hn : nextEntry bytes = (do let entry ← parseRecord body; pure (some (entry, rest))) := by
      rw [nextEntry, h]
    rw [frames_of_some h, readEntries]
    cases hp : parseRecord body with
    | ok | err | panic =>
      rw [hp] at hn
      split <;> simp_all [parseAll]

/-! ## Fields of a record body -/

/-- Length field of the node identifier. -/
def nodeIdLen (body : List UInt8) : Nat := ofLE (window body 0 2)

/-- Position of the output identifier's length field. -/
def outputIdPos (body : List UInt8) : Nat := 2 + nodeIdLen body

/-- Length field of the output identifier. -/
def outputIdLen (body : List UInt8) : Nat := ofLE (window body (outputIdPos body) 2)

/-- Position of the timestamp. -/
def timestampPos (body : List UInt8) : Nat := outputIdPos body + 2 + outputIdLen body

/-- Length field of the event. -/
def eventBytesLen (body : List UInt8) : Nat := ofLE (window body (timestampPos body + 8) 4)

/-- The bytes of the node identifier are UTF-8 text. -/
def NodeIdText (body : List UInt8) : Prop := (toText (window body 2 (nodeIdLen body))).isSome

/-- The bytes of the output identifier are UTF-8 text. -/
def OutputIdText (body : List UInt8) : Prop :=
  (toText (window body (outputIdPos body + 2) (outputIdLen body))).isSome

instance (body : List UInt8) : Decidable (NodeIdText body) :=
  inferInstanceAs (Decidable (_ = true))

instance (body : List UInt8) : Decidable (OutputIdText body) :=
  inferInstanceAs (Decidable (_ = true))

/-- Every length field that lies inside the body, behind valid text, fits into the body. -/
def LengthsFit (body : List UInt8) : Prop :=
  2 ≤ body.length → outputIdPos body ≤ body.length ∧
    (NodeIdText body → outputIdPos body + 2 ≤ body.length →
      timestampPos body ≤ body.length ∧
        (OutputIdText body → timestampPos body + 12 ≤ body.length →
          timestampPos body + 12 + eventBytesLen body ≤ body.length))

instance (body : List UInt8) : Decidable (LengthsFit body) :=
  inferInstanceAs (Decidable (_ → _))

/-- The body holds all fields, and both identifiers are text. -/
def WellFormed (body : List UInt8) : Prop :=
  timestampPos body + 12 + eventBytesLen body ≤ body.length ∧ NodeIdText body ∧
    OutputIdText body

instance (body : List UInt8) : Decidable (WellFormed body) :=
  inferInstanceAs (Decidable (_ ∧ _))

section Identifier

variable {message : String} {buf : List UInt8} {pos : Nat}

private theorem identifier_short (h : buf.length < pos + 2) :
    ∃ m, readIdentifier message buf pos = .err m := by
  refine ⟨s!"buffer too short at offset {pos}", ?_⟩
  rw [readIdentifier, readArray, if_pos h]
  rfl

private theorem readIdentifier_eq (h : pos + 2 ≤ buf.length) :
    readIdentifier message buf pos = (do
      let raw ← indexRange (ofLE (window buf pos 2)) buf (pos + 2)
      let text ← Outcome.okOr message (toText raw)
      pure (text, pos + 2 + ofLE (window buf pos 2))) := by
  rw [readIdentifier, readArray, if_neg (Nat.not_lt.mpr h)]
  rfl

private theorem identifier_long (h : pos + 2 ≤ buf.length)
    (hn : buf.length < pos + 2 + ofLE (window buf pos 2)) :
    ∃ m, readIdentifier message buf pos = .panic m := by
  rw [readIdentifier_eq h, indexRange, if_pos hn]
  exact ⟨_, rfl⟩

/-- An identifier inside the buffer is read when its bytes are text. -/
theorem readIdentifier_fits (h : pos + 2 + ofLE (window buf pos 2) ≤ buf.length) :
    readIdentifier message buf pos =
      match toText (window buf (pos + 2) (ofLE (window buf pos 2))) with
      | none => .err message
      | some text => .ok (text, pos + 2 + ofLE (window buf pos 2)) := by
  rw [readIdentifier_eq (by omega), indexRange, if_neg (Nat.not_lt.mpr h),
    Outcome.ok_bind]
  cases toText (window buf (pos + 2) (ofLE (window buf pos 2))) <;> rfl

end Identifier

private theorem node_identifier (h : outputIdPos body ≤ body.length) :
    readIdentifier "invalid node_id utf8" body 0 =
      match toText (window body 2 (nodeIdLen body)) with
      | none => .err "invalid node_id utf8"
      | some text => .ok (text, outputIdPos body) :=
  readIdentifier_fits h

private theorem output_identifier (h : timestampPos body ≤ body.length) :
    readIdentifier "invalid output_id utf8" body (outputIdPos body) =
      match toText (window body (outputIdPos body + 2) (outputIdLen body)) with
      | none => .err "invalid output_id utf8"
      | some text => .ok (text, timestampPos body) :=
  readIdentifier_fits h

/-- What parsing a body does, by the layout of the body alone. -/
inductive Verdict (body : List UInt8) : Prop
  | panics (m : String) (hp : parseRecord body = .panic m) (hl : ¬ LengthsFit body)
  | rejected (m : String) (hp : parseRecord body = .err m) (hl : LengthsFit body)
      (hw : ¬ WellFormed body)
  | parsed (e : RecordEntry) (hp : parseRecord body = .ok e) (hl : LengthsFit body)
      (hw : WellFormed body)

private theorem positions (body : List UInt8) :
    timestampPos body = outputIdPos body + 2 + outputIdLen body ∧
      outputIdPos body = 2 + nodeIdLen body :=
  ⟨rfl, rfl⟩

section Fields

variable (hn : readIdentifier "invalid node_id utf8" body 0 = .ok (nodeId, outputIdPos body))
include hn

section

variable {outputId : String}
  (ho : readIdentifier "invalid output_id utf8" body (outputIdPos body) =
    .ok (outputId, timestampPos body))
include ho

private theorem parse_of_identifiers (h : timestampPos body + 12 ≤ body.length) :
    parseRecord body = (do
      let eventBytes ← indexRange (eventBytesLen body) body (timestampPos body + 12)
      pure ⟨nodeId, outputId, UInt64.ofNat (ofLE (window body (timestampPos body) 8)),
        eventBytes⟩) := by
  have h8 : readArray 8 body (timestampPos body) =
      .ok (window body (timestampPos body) 8, timestampPos body + 8) :=
    if_neg (by omega)
  have h4 : readArray 4 body (timestampPos body + 8) =
      .ok (window body (timestampPos body + 8) 4, timestampPos body + 12) :=
    if_neg (by omega)
  simp only [parseRecord, hn, ho, h8, h4, Outcome.ok_bind]
  rfl

private theorem parse_tail (h : body.length < timestampPos body + 12) :
    ∃ m, parseRecord body = .err m := by
  simp only [parseRecord, hn, ho, Outcome.ok_bind]
  by_cases h8 : timestampPos body + 8 > body.length
  · rw [readArray, if_pos h8]
    exact ⟨_, rfl⟩
  · rw [readArray, if_neg h8, Outcome.ok_bind]
    refine ⟨s!"buffer too short at offset {timestampPos body + 8}", ?_⟩
    rw [readArray, if_pos (by omega)]
    rfl

private theorem verdict_of_identifiers (hx : NodeIdText body) (hy : OutputIdText body)
    (ht : timestampPos body ≤ body.length) : Verdict body := by
  obtain ⟨hto, hon⟩ := positions body
  by_cases h12 : timestampPos body + 12 ≤ body.length
  · have hp := parse_of_identifiers hn ho h12
    by_cases he : timestampPos body + 12 + eventBytesLen body ≤ body.length
    · rw [indexRange, if_neg (Nat.not_lt.mpr he)] at hp
      exact .parsed _ hp (fun _ => ⟨by omega, fun _ _ => ⟨ht, fun _ _ => he⟩⟩) ⟨he, hx, hy⟩
    · rw [indexRange, if_pos (Nat.not_le.mp he)] at hp
      exact .panics _ hp fun h => he (((h (by omega)).2 hx (by omega)).2 hy h12)
  · obtain ⟨m, hm⟩ := parse_tail hn ho (Nat.not_le.mp h12)
    refine .rejected m hm (fun _ => ⟨by omega, fun _ _ => ⟨ht, fun _ h => absurd h h12⟩⟩) fun hw => ?_
    have := hw.1
    omega

end

private theorem verdict_of_node (hx : NodeIdText body) (h : outputIdPos body ≤ body.length) :
    Verdict body := by
  obtain ⟨hto, hon⟩ := positions body
  by_cases h4 : outputIdPos body + 2 ≤ body.length
  · by_cases ht : timestampPos body ≤ body.length
    · have ho := output_identifier ht
      cases hc : toText (window body (outputIdPos body + 2) (outputIdLen body)) with
      | some outputId =>
        rw [hc] at ho
        exact verdict_of_identifiers hn ho hx (by simp [OutputIdText, hc]) ht
      | none =>
        rw [hc] at ho
        have hy : ¬ OutputIdText body := by simp [OutputIdText, hc]
        exact .rejected "invalid output_id utf8" (by simp [parseRecord, hn, ho])
          (fun _ => ⟨h, fun _ _ => ⟨ht, fun hy' => absurd hy' hy⟩⟩) fun hw => hy hw.2.2
    · obtain ⟨m, hm⟩ :
          ∃ m, readIdentifier "invalid output_id utf8" body (outputIdPos body) = .panic m :=
        identifier_long h4 (Nat.not_le.mp ht)
      exact .panics m (by simp [parseRecord, hn, hm]) fun hl =>
        ht ((hl (by omega)).2 hx h4).1
  · obtain ⟨m, hm⟩ :
        ∃ m, readIdentifier "invalid output_id utf8" body (outputIdPos body) = .err m :=
      identifier_short (by omega)
    refine .rejected m (by simp [parseRecord, hn, hm])
      (fun _ => ⟨h, fun _ h4' => absurd h4' h4⟩) fun hw => ?_
    have := hw.1
    omega

end Fields

/-- The layout of a body decides whether it is parsed, rejected or panics the reader. -/
theorem parseRecord_verdict (body : List UInt8) : Verdict body := by
  obtain ⟨hto, hon⟩ := positions body
  by_cases h2 : 2 ≤ body.length
  · by_cases h : outputIdPos body ≤ body.length
    · have hn := node_identifier h
      cases hc : toText (window body 2 (nodeIdLen body)) with
      | some nodeId =>
        rw [hc] at hn
        exact verdict_of_node hn (by simp [NodeIdText, hc]) h
      | none =>
        rw [hc] at hn
        have hx : ¬ NodeIdText body := by simp [NodeIdText, hc]
        exact .rejected "invalid node_id utf8" (by simp [parseRecord, hn])
          (fun _ => ⟨h, fun hx' => absurd hx' hx⟩) fun hw => hx hw.2.1
    · obtain ⟨m, hm⟩ : ∃ m, readIdentifier "invalid node_id utf8" body 0 = .panic m :=
        identifier_long (by omega) (Nat.not_le.mp h)
      exact .panics m (by simp [parseRecord, hm]) fun hl => h (hl h2).1
  · obtain ⟨m, hm⟩ : ∃ m, readIdentifier "invalid node_id utf8" body 0 = .err m :=
      identifier_short (by omega)
    refine .rejected m (by simp [parseRecord, hm]) (fun h => absurd h h2) fun hw => ?_
    have := hw.1
    omega

/-! ## Corrupt recordings -/

private theorem panics_parseAll_iff {ending : ReadEnd} (he : ¬ ending.Panics)
    (bodies : List (List UInt8)) :
    (parseAll bodies ending).2.Panics ↔ ∃ front body back, bodies = front ++ body :: back ∧
      (∀ b ∈ front, WellFormed b) ∧ ¬ LengthsFit body := by
  induction bodies with
  | nil => simp [parseAll, he]
  | cons first bodies ih =>
    cases parseRecord_verdict first with
    | panics m hp hl =>
      simp only [parseAll, hp, ReadEnd.Panics, true_iff]
      exact ⟨[], first, bodies, rfl, by simp, hl⟩
    | rejected m hp hl hw =>
      simp only [parseAll, hp, ReadEnd.Panics, false_iff]
      rintro ⟨front, body, back, hb, hf, hn⟩
      cases front with
      | nil =>
        obtain ⟨rfl, -⟩ := List.cons.inj hb
        exact hn hl
      | cons b front =>
        obtain ⟨rfl, -⟩ := List.cons.inj hb
        exact hw (hf first List.mem_cons_self)
    | parsed e hp hl hw =>
      simp only [parseAll, hp, ih]
      constructor
      · rintro ⟨front, body, back, rfl, hf, hn⟩
        exact ⟨first :: front, body, back, rfl, by simpa using ⟨hw, hf⟩, hn⟩
      · rintro ⟨front, body, back, hb, hf, hn⟩
        cases front with
        | nil =>
          obtain ⟨rfl, -⟩ := List.cons.inj hb
          exact absurd hl hn
        | cons b front =>
          obtain ⟨rfl, rfl⟩ := List.cons.inj hb
          exact ⟨front, body, back, rfl, fun x hx => hf x (List.mem_cons_of_mem _ hx), hn⟩

/-- Opening the bytes as a recording and reading it to its end panics. -/
def ReadPanics (bytes : List UInt8) : Prop :=
  ∃ header entries message, readRecording bytes = .ok (header, entries, .panic message)

private theorem readPanics_iff_of_header {rest : List UInt8} {header : RecordingHeader}
    (h : readHeader bytes = .ok (header, rest)) :
    ReadPanics bytes ↔ (parseAll (frames rest).1 (frames rest).2).2.Panics := by
  have hr : readRecording bytes = .ok (header, readEntries rest) := by
    rw [readRecording, h]
    rfl
  rw [← readEntries_eq_parseAll]
  constructor
  · rintro ⟨header', entries, message, he⟩
    rw [hr] at he
    rw [(Prod.mk.inj (Except.ok.inj he)).2]
    exact True.intro
  · intro hp
    cases hc : readEntries rest with
    | mk entries ending =>
      rw [hc] at hp
      cases ending with
      | panic message => exact ⟨header, entries, message, by rw [hr, hc]⟩
      | eof | error => exact absurd hp id

/-- Reading a byte stream never panics exactly when the lengths inside every record that is
reached fit into that record. -/
theorem not_readPanics_iff (bytes : List UInt8) :
    ¬ ReadPanics bytes ↔ ∀ header rest, readHeader bytes = .ok (header, rest) →
      ∀ front body back, (frames rest).1 = front ++ body :: back →
        (∀ b ∈ front, WellFormed b) → LengthsFit body := by
  constructor
  · intro hn header rest hh front body back hb hf
    by_contra hl
    apply hn
    rw [readPanics_iff_of_header hh, panics_parseAll_iff (not_panics_frames rest)]
    exact ⟨front, body, back, hb, hf, hl⟩
  · rintro h ⟨header, entries, message, he⟩
    obtain ⟨⟨header', rest⟩, hh, -⟩ := except_bind_eq_ok.mp he
    have hp : ReadPanics bytes := ⟨header, entries, message, he⟩
    rw [readPanics_iff_of_header hh, panics_parseAll_iff (not_panics_frames rest)] at hp
    obtain ⟨front, body, back, hb, hf, hl⟩ := hp
    exact hl (h header' rest hh front body back hb hf)

/-- Header of an empty descriptor. -/
def sampleHeader : RecordingHeader :=
  ⟨formatVersion, 0, .nil, []⟩

/-- A record of two bytes that announces a node identifier of five bytes. -/
theorem readPanics_long_node_id :
    ReadPanics (headerBytes sampleHeader ++ [2, 0, 0, 0, 5, 0]) := by
  have hh : readHeader (headerBytes sampleHeader ++ [2, 0, 0, 0, 5, 0]) =
      .ok (sampleHeader, [2, 0, 0, 0, 5, 0]) := by rfl
  have hf : readFrame [2, 0, 0, 0, 5, 0] = .ok (some ([5, 0], [])) := by rfl
  rw [readPanics_iff_of_header hh, frames_of_some hf,
    panics_parseAll_iff (not_panics_frames [])]
  exact ⟨[], [5, 0], (frames []).1, rfl, by simp, by decide⟩

end DoraSpec.Recording
