import DoraSpec.Recording.Framing

/-!
# Reading back what was recorded

Source `libraries/recording/src/lib.rs`. The framing of a written recording, cut anywhere behind
its header, gives back the first record bodies. Whether the bodies parse to the written entries
depends on the identifiers alone: their lengths are cut to sixteen bits by the writer.
-/

namespace DoraSpec.Recording
open Base Base.Bytes Outcome List

/-- Both identifiers fit the sixteen-bit length fields. -/
def RecordEntry.ShortIds (entry : RecordEntry) : Prop :=
  (ofText entry.nodeId).length < 2 ^ 16 ∧ (ofText entry.outputId).length < 2 ^ 16

instance (entry : RecordEntry) : Decidable entry.ShortIds :=
  inferInstanceAs (Decidable (_ ∧ _))

private theorem length_recordBytes (entry : RecordEntry) :
    (recordBytes entry).length = recordLen entry := by
  simp only [recordBytes, recordLen, length_append, length_toLE]
  omega

/-! ## Writer -/

variable {entry : RecordEntry} {w : RecordingWriter} {entries : List RecordEntry}
  {header : RecordingHeader} {n : Nat} {closing : List UInt8}

private theorem writeEntry_eq_ok {v : RecordingWriter} (h : w.writeEntry entry = .ok v) :
    recordLen entry ≤ maxRecordBytes ∧ v.written = w.written ++ frame entry := by
  unfold RecordingWriter.writeEntry at h
  split at h
  · cases h
  · next hl =>
    split at h
    · cases h
    · obtain rfl := Except.ok.inj h
      exact ⟨Nat.not_lt.mp hl, rfl⟩

private theorem writeEntries_eq_ok {v : RecordingWriter} (h : w.writeEntries entries = .ok v) :
    (∀ e ∈ entries, recordLen e ≤ maxRecordBytes) ∧
      v.written = w.written ++ entries.flatMap frame := by
  induction entries generalizing w with
  | nil =>
    obtain rfl := Except.ok.inj h
    simp
  | cons entry entries ih =>
    unfold RecordingWriter.writeEntries at h
    rw [foldlM_cons] at h
    obtain ⟨u, hu, hv⟩ := except_bind_eq_ok.mp h
    obtain ⟨hl, hw⟩ := writeEntry_eq_ok hu
    obtain ⟨hls, hws⟩ := ih hv
    constructor
    · simpa using ⟨hl, hls⟩
    · rw [hws, hw, flatMap_cons, append_assoc]

/-- An accepted recording is its header followed by the frames of its entries. -/
theorem record_eq_ok (h : record header entries = .ok w) :
    header.descriptorYaml.length ≤ maxRecordBytes ∧
      (∀ e ∈ entries, recordLen e ≤ maxRecordBytes) ∧
      w.written = headerBytes header ++ entries.flatMap frame := by
  obtain ⟨v, hv, hw⟩ := except_bind_eq_ok.mp h
  obtain ⟨bytes, hb, hp⟩ := except_bind_eq_ok.mp hv
  obtain rfl := Except.ok.inj hp
  obtain ⟨hl, hs⟩ := writeEntries_eq_ok hw
  unfold writeHeader at hb
  split at hb
  · cases hb
  · next hy =>
    obtain rfl := Except.ok.inj hb
    exact ⟨Nat.not_lt.mp hy, hl, hs⟩

/-! ## Header -/

private theorem ofLE_version (header : RecordingHeader) :
    UInt16.ofNat (ofLE (toLE 2 header.version.toNat)) = header.version := by
  rw [ofLE_toLE_of_lt header.version.toNat_lt, UInt16.ofNat_toNat]

/-- A supported header is read back in front of anything. -/
theorem readHeader_headerBytes (hy : header.descriptorYaml.length ≤ maxRecordBytes)
    (hv : header.version ≤ formatVersion) (rest : List UInt8) :
    readHeader (headerBytes header ++ rest) = .ok (header, rest) := by
  have hn : ofLE (toLE 4 header.descriptorYaml.length) = header.descriptorYaml.length :=
    ofLE_toLE_of_lt (by unfold maxRecordBytes at hy; omega)
  have h8 : UInt64.ofNat (ofLE (toLE 8 header.startNanos.toNat)) = header.startNanos := by
    rw [ofLE_toLE_of_lt header.startNanos.toNat_lt, UInt64.ofNat_toNat]
  have hm : magic.length = 8 := rfl
  unfold readHeader headerBytes
  simp only [append_assoc, readExact_append hm, readExact_append (length_toLE _ _),
    readUuid_append, ofLE_version, h8, hn, readExact_append rfl, UInt16.not_lt.mpr hv,
    gt_iff_lt, Nat.not_lt.mpr hy, if_false, ne_eq, not_true]

private theorem readHeader_unsupported (hv : formatVersion < header.version) (rest : List UInt8) :
    ∃ m, readHeader (headerBytes header ++ rest) = .error m := by
  have hm : magic.length = 8 := rfl
  refine ⟨s!"unsupported recording format version {header.version} (max supported: {formatVersion})",
    ?_⟩
  unfold readHeader headerBytes
  simp only [append_assoc, readExact_append hm, readExact_append (length_toLE _ _),
    ofLE_version, gt_iff_lt, hv, if_true, if_false, ne_eq, not_true]

/-! ## Frames -/

section Frame

variable (h : recordLen entry ≤ maxRecordBytes)
include h

private theorem ofLE_recordLen : ofLE (toLE 4 (recordLen entry)) = recordLen entry :=
  ofLE_toLE_of_lt (by unfold maxRecordBytes at h; omega)

-- `DORA` as a little-endian number exceeds the largest record length.
private theorem recordLen_ne_footer : toLE 4 (recordLen entry) ≠ footerMagic.take 4 := by
  intro hc
  have hn : recordLen entry = ofLE (footerMagic.take 4) := by rw [← hc, ofLE_recordLen h]
  have hf : maxRecordBytes < ofLE (footerMagic.take 4) := by decide
  omega

private theorem readFrame_recordLen (bytes : List UInt8) :
    readFrame (toLE 4 (recordLen entry) ++ bytes) =
      match readExact (recordLen entry) bytes with
      | none => .error "truncated record"
      | some (body, rest) => .ok (some (body, rest)) := by
  have hc : ¬ recordLen entry > maxRecordBytes := Nat.not_lt.mpr h
  cases hb : readExact (recordLen entry) bytes with
  | none | some parts =>
    simp only [readFrame, readExact_append (length_toLE _ _), if_neg (recordLen_ne_footer h),
      ofLE_recordLen h, if_neg hc, hb]

private theorem readFrame_frame (rest : List UInt8) :
    readFrame (frame entry ++ rest) = .ok (some (recordBytes entry, rest)) := by
  rw [frame, append_assoc, readFrame_recordLen h,
    readExact_append (length_recordBytes entry)]

private theorem readFrame_cut {cut : Nat} (hc : cut < (frame entry).length) :
    readFrame ((frame entry).take cut) = .ok none ∨
      readFrame ((frame entry).take cut) = .error "truncated record" := by
  by_cases h4 : cut < 4
  · left
    have hn : readExact 4 ((frame entry).take cut) = none :=
      readExact_eq_none.mpr (by rw [length_take]; omega)
    rw [readFrame, hn]
  · right
    have hs : (frame entry).take cut =
        toLE 4 (recordLen entry) ++ (recordBytes entry).take (cut - 4) := by
      rw [frame, take_append, length_toLE, take_of_length_le (by simp; omega)]
    have hn : readExact (recordLen entry) ((recordBytes entry).take (cut - 4)) = none := by
      rw [frame, length_append, length_toLE, length_recordBytes] at hc
      rw [readExact_eq_none, length_take, length_recordBytes]
      omega
    rw [hs, readFrame_recordLen h, hn]

end Frame

/-- The footer ends the recording wherever it is cut. -/
theorem readFrame_footer (footer : RecordingFooter) (cut : Nat) :
    readFrame ((footerBytes footer).take cut) = .ok none := by
  by_cases h4 : cut < 4
  · have hn : readExact 4 ((footerBytes footer).take cut) = none :=
      readExact_eq_none.mpr (by rw [length_take]; omega)
    rw [readFrame, hn]
  · have hs : (footerBytes footer).take cut = footerMagic.take 4 ++
        ((footerMagic.drop 4 ++ (toLE 8 footer.totalMessages.toNat ++
          toLE 8 footer.totalBytes.toNat)).take (cut - 4)) := by
      obtain ⟨k, rfl⟩ : ∃ k, cut = k + 4 := ⟨cut - 4, by omega⟩
      rfl
    have h4' : (footerMagic.take 4).length = 4 := rfl
    rw [hs, readFrame, readExact_append h4']
    exact if_pos rfl

private theorem frames_written (hl : ∀ e ∈ entries, recordLen e ≤ maxRecordBytes)
    (hc : readFrame closing = .ok none) :
    frames (entries.flatMap frame ++ closing) = (entries.map recordBytes, .eof) := by
  induction entries with
  | nil => exact frames_of_none hc
  | cons entry entries ih =>
    have he := readFrame_frame (hl entry mem_cons_self) (entries.flatMap frame ++ closing)
    rw [flatMap_cons, append_assoc, frames_of_some he,
      ih fun e h => hl e (mem_cons_of_mem _ h)]
    rfl

/-- The framing of a cut recording gives back the first bodies. -/
theorem frames_written_take (hl : ∀ e ∈ entries, recordLen e ≤ maxRecordBytes)
    (hc : ∀ cut, readFrame (closing.take cut) = .ok none) (cut : Nat) :
    ∃ n ending, frames ((entries.flatMap frame ++ closing).take cut) =
      ((entries.take n).map recordBytes, ending) := by
  induction entries generalizing cut with
  | nil => exact ⟨0, .eof, frames_of_none (hc cut)⟩
  | cons entry entries ih =>
    have he : recordLen entry ≤ maxRecordBytes := hl entry mem_cons_self
    rw [flatMap_cons, append_assoc, take_append]
    by_cases h : cut < (frame entry).length
    · rw [Nat.sub_eq_zero_of_le h.le, take_zero, append_nil]
      rcases readFrame_cut he h with hr | hr
      · exact ⟨0, _, frames_of_none hr⟩
      · exact ⟨0, _, frames_of_error hr⟩
    · obtain ⟨n, ending, hn⟩ :=
        ih (fun e h => hl e (mem_cons_of_mem _ h)) (cut - (frame entry).length)
      rw [take_of_length_le (Nat.not_lt.mp h), frames_of_some (readFrame_frame he _), hn]
      exact ⟨n + 1, ending, rfl⟩

/-! ## Bodies of written entries -/

private theorem length_of_readIdentifier {message text : String} {buf : List UInt8} {pos next : Nat}
    (h : readIdentifier message buf pos = .ok (text, next)) :
    (ofText text).length = ofLE (window buf pos 2) := by
  have hf : pos + 2 + ofLE (window buf pos 2) ≤ buf.length := by
    by_contra hn
    unfold readIdentifier readArray at h
    split at h
    · cases h
    · simp only [ok_bind, indexRange, if_pos (Nat.not_le.mp hn)] at h
      cases h
  rw [readIdentifier_fits hf] at h
  split at h
  · cases h
  · next t ht =>
    obtain ⟨rfl, -⟩ := Prod.mk.inj (Outcome.ok.inj h)
    rw [ofText_of_toText ht, length_window hf]

section Cursor

variable {buf front rest : List UInt8} {pos : Nat}

private theorem readArray_at {n : Nat} (hb : At buf pos (front ++ rest)) (hn : front.length = n) :
    readArray n buf pos = .ok (front, pos + n) ∧ At buf (pos + n) rest := by
  subst hn
  rw [readArray, if_neg (Nat.not_lt.mpr hb.le_length), hb.window_eq]
  exact ⟨rfl, hb.advance⟩

private theorem indexRange_at (hb : At buf pos (front ++ rest)) :
    indexRange front.length buf pos = .ok front := by
  rw [indexRange, if_neg (Nat.not_lt.mpr hb.le_length), hb.window_eq]

private theorem readIdentifier_at (message : String) {text : String}
    (hb : At buf pos (toLE 2 (ofText text).length ++ (ofText text ++ rest)))
    (hs : (ofText text).length < 2 ^ 16) :
    readIdentifier message buf pos = .ok (text, pos + 2 + (ofText text).length) ∧
      At buf (pos + 2 + (ofText text).length) rest := by
  obtain ⟨hr, ha⟩ := readArray_at hb (length_toLE _ _)
  rw [readIdentifier, hr, ok_bind]
  simp only [ofLE_toLE_of_lt (show (ofText text).length < 256 ^ 2 from hs),
    indexRange_at ha, ok_bind, toText_ofText, okOr]
  exact ⟨rfl, ha.advance⟩

private theorem short_of_readIdentifier {message text : String} {next : Nat}
    (hb : At buf pos (toLE 2 (ofText text).length ++ rest))
    (h : readIdentifier message buf pos = .ok (text, next)) :
    (ofText text).length < 2 ^ 16 := by
  have hw : window buf pos 2 = toLE 2 (ofText text).length := by
    simpa using hb.window_eq
  rw [length_of_readIdentifier h, hw, ofLE_toLE]
  exact Nat.mod_lt _ (by decide)

end Cursor

/-- The record of an entry with short identifiers parses to the entry, also in front of further
bytes. -/
theorem parseRecord_recordBytes (hs : entry.ShortIds) (hl : recordLen entry ≤ maxRecordBytes)
    (extra : List UInt8) :
    parseRecord (recordBytes entry ++ extra) = .ok entry := by
  have h8 : UInt64.ofNat (ofLE (toLE 8 entry.timestampOffsetNanos.toNat)) =
      entry.timestampOffsetNanos := by
    rw [ofLE_toLE_of_lt entry.timestampOffsetNanos.toNat_lt, UInt64.ofNat_toNat]
  have h4 : ofLE (toLE 4 entry.eventBytes.length) = entry.eventBytes.length := by
    apply ofLE_toLE_of_lt
    unfold recordLen maxRecordBytes at hl
    omega
  have h := at_zero (recordBytes entry ++ extra)
  nth_rewrite 2 [recordBytes] at h
  simp only [append_assoc] at h
  obtain ⟨hn, h⟩ := readIdentifier_at "invalid node_id utf8" h hs.1
  obtain ⟨ho, h⟩ := readIdentifier_at "invalid output_id utf8" h hs.2
  obtain ⟨ht, h⟩ := readArray_at h (length_toLE _ _)
  obtain ⟨he, h⟩ := readArray_at h (length_toLE _ _)
  simp only [parseRecord, hn, ho, ht, he, h4, indexRange_at h, h8, ok_bind]
  rfl

/-- Conversely, a record that parses to its entry has short identifiers. -/
theorem shortIds_of_parseRecord (h : parseRecord (recordBytes entry) = .ok entry) :
    entry.ShortIds := by
  obtain ⟨⟨nodeId, pos⟩, hn, h⟩ := bind_eq_ok.mp h
  obtain ⟨⟨outputId, _⟩, ho, h⟩ := bind_eq_ok.mp h
  obtain ⟨_, -, h⟩ := bind_eq_ok.mp h
  obtain ⟨_, -, h⟩ := bind_eq_ok.mp h
  obtain ⟨_, -, h⟩ := bind_eq_ok.mp h
  obtain rfl : nodeId = entry.nodeId := congrArg RecordEntry.nodeId (Outcome.ok.inj h)
  obtain rfl : outputId = entry.outputId := congrArg RecordEntry.outputId (Outcome.ok.inj h)
  have hs : (ofText entry.nodeId).length < 2 ^ 16 := short_of_readIdentifier (at_zero _) hn
  -- The output identifier is read where it was written because the node identifier is short.
  obtain ⟨hn', hb⟩ :=
    readIdentifier_at "invalid node_id utf8" (at_zero (recordBytes entry)) hs
  obtain rfl : pos = _ := (Prod.mk.inj (Outcome.ok.inj (hn.symm.trans hn'))).2
  exact ⟨hs, short_of_readIdentifier hb ho⟩

/-- Entries with short identifiers are parsed back in front of anything. -/
theorem parseAll_short_append {front : List RecordEntry} (hs : ∀ e ∈ front, e.ShortIds)
    (hl : ∀ e ∈ front, recordLen e ≤ maxRecordBytes) (bodies : List (List UInt8))
    (ending : ReadEnd) :
    parseAll (front.map recordBytes ++ bodies) ending =
      (front ++ (parseAll bodies ending).1, (parseAll bodies ending).2) := by
  induction front with
  | nil => rfl
  | cons entry front ih =>
    have he := parseRecord_recordBytes (hs entry mem_cons_self)
      (hl entry mem_cons_self) []
    rw [append_nil] at he
    rw [map_cons, cons_append, parseAll, he]
    rw [ih (fun e h => hs e (mem_cons_of_mem _ h))
      (fun e h => hl e (mem_cons_of_mem _ h))]
    rfl

private theorem shortIds_of_parseAll {ending : ReadEnd}
    (h : parseAll (entries.map recordBytes) ending = (entries, ending)) :
    ∀ e ∈ entries, e.ShortIds := by
  induction entries with
  | nil => simp
  | cons entry entries ih =>
    rw [map_cons, parseAll] at h
    split at h
    · cases (Prod.mk.inj h).1
    · cases (Prod.mk.inj h).1
    · next e he =>
      obtain ⟨hc, hend⟩ := Prod.mk.inj h
      obtain ⟨rfl, htail⟩ := List.cons.inj hc
      have := shortIds_of_parseRecord he
      simpa using ⟨this, ih (Prod.ext htail hend)⟩

/-! ## Round trip -/

/-- Reading a header and what follows it. -/
theorem readRecording_of_header {bytes rest : List UInt8}
    (h : readHeader bytes = .ok (header, rest)) :
    readRecording bytes = .ok (header, parseAll (frames rest).1 (frames rest).2) := by
  rw [readRecording, h, ← readEntries_eq_parseAll]
  rfl

/-- A recording of a supported version reads back as its header and its parsed bodies. -/
theorem readRecording_written (hw : record header entries = .ok w)
    (hv : header.version ≤ formatVersion) (hc : readFrame closing = .ok none) :
    readRecording (w.written ++ closing) =
      .ok (header, parseAll (entries.map recordBytes) .eof) := by
  obtain ⟨hy, hl, hb⟩ := record_eq_ok hw
  rw [hb, append_assoc, readRecording_of_header (readHeader_headerBytes hy hv _),
    frames_written hl hc]

/-- A recording of a later version is refused. -/
theorem readRecording_unsupported (hv : formatVersion < header.version) (rest : List UInt8) :
    ∃ m, readRecording (headerBytes header ++ rest) = .error m := by
  obtain ⟨m, hm⟩ := readHeader_unsupported hv rest
  exact ⟨m, by rw [readRecording, hm]; rfl⟩

private theorem readFrame_footerBytes (footer : RecordingFooter) :
    readFrame (footerBytes footer) = .ok none := by
  simpa using readFrame_footer footer (footerBytes footer).length

/-- A finished recording of a supported version with short identifiers reads back. -/
theorem readRecording_finish (hw : record header entries = .ok w)
    (hv : header.version ≤ formatVersion) (hs : ∀ e ∈ entries, e.ShortIds) :
    readRecording w.finish.1 = .ok (header, entries, .eof) := by
  obtain ⟨-, hl, -⟩ := record_eq_ok hw
  have hp := parseAll_short_append hs hl [] .eof
  rw [append_nil] at hp
  rw [RecordingWriter.finish, readRecording_written hw hv (readFrame_footerBytes _), hp]
  simp [parseAll]

/-- What an accepted recording reads back to, with and without its footer, is the header and
the entries exactly when the version is supported and all identifiers are short. -/
theorem reads_back_iff {header : RecordingHeader} {entries : List RecordEntry}
    {w : RecordingWriter} (hw : record header entries = .ok w) :
    (readRecording w.written = .ok (header, entries, .eof) ∧
      readRecording w.finish.1 = .ok (header, entries, .eof)) ↔
    header.version ≤ formatVersion ∧ ∀ e ∈ entries, e.ShortIds := by
  obtain ⟨-, hl, hb⟩ := record_eq_ok hw
  have hf := readFrame_footerBytes ⟨w.totalMessages, w.totalBytes⟩
  by_cases hv : header.version ≤ formatVersion
  · have hr : readRecording (w.written ++ []) = _ := readRecording_written hw hv rfl
    have hr' := readRecording_written hw hv hf
    rw [append_nil] at hr
    rw [RecordingWriter.finish, hr, hr']
    constructor
    · rintro ⟨h, -⟩
      exact ⟨hv, shortIds_of_parseAll (Prod.mk.inj (Except.ok.inj h)).2⟩
    · rintro ⟨-, hs⟩
      have hp := parseAll_short_append hs hl [] .eof
      rw [append_nil] at hp
      rw [hp]
      simp [parseAll]
  · obtain ⟨m, hm⟩ := readRecording_unsupported (UInt16.not_le.mp hv) (entries.flatMap frame)
    rw [hb, hm]
    simp [hv]

/-- A recording of one message reads back. -/
theorem reads_back_one :
    readRecording (headerBytes sampleHeader ++ frame ⟨"n", "o", 7, [1]⟩) =
      .ok (sampleHeader, [⟨"n", "o", 7, [1]⟩], .eof) :=
  have hw : record sampleHeader [⟨"n", "o", 7, [1]⟩] = .ok _ := rfl
  ((reads_back_iff hw).mpr ⟨by decide, by decide⟩).1

/-- An empty message of a node whose identifier is `n` zero characters. -/
def zeroEntry (n : Nat) : RecordEntry :=
  ⟨String.ofList (List.replicate n (Char.ofNat 0)), "", 0, []⟩

/-- An empty message without identifiers. -/
def blankEntry : RecordEntry := ⟨"", "", 0, []⟩

private theorem ofText_zeroEntry (n : Nat) : ofText (zeroEntry n).nodeId = List.replicate n 0 := by
  change ofText (String.ofList (List.replicate n (Char.ofNat 0))) = _
  rw [ofText, String.toByteArray_ofList, utf8Encode, data_toByteArray]
  induction n with
  | zero => rfl
  | succ n ih => rw [replicate_succ, flatMap_cons, replicate_succ, ← ih]; rfl

/-- When the length field of the identifier is cut to zero, the identifier's own characters are
read as the other fields. -/
theorem parseRecord_zeroEntry (hn : toLE 2 n = [0, 0]) (h14 : 14 ≤ n) :
    parseRecord (recordBytes (zeroEntry n)) = .ok blankEntry := by
  obtain ⟨k, rfl⟩ := Nat.exists_eq_add_of_le h14
  have hz : [0, 0] ++ List.replicate 14 0 = recordBytes blankEntry := by decide
  rw [recordBytes, ofText_zeroEntry, length_replicate, hn, replicate_add,
    append_assoc, ← append_assoc [0, 0], hz]
  exact parseRecord_recordBytes (by decide) (by decide) _

/-- The two entries differ. -/
theorem zeroEntry_ne_blank (hn : 0 < n) : zeroEntry n ≠ blankEntry := by
  intro h
  have hl : (ofText (zeroEntry n).nodeId).length = (ofText "").length :=
    congrArg (fun e => (ofText e.nodeId).length) h
  rw [ofText_zeroEntry, length_replicate] at hl
  exact absurd hl (Nat.ne_of_gt hn)

private theorem record_zeroEntry (hn : n + 16 ≤ maxRecordBytes) :
    ∃ w, record sampleHeader [zeroEntry n] = .ok w := by
  have hl : recordLen (zeroEntry n) = n + 16 := by
    rw [recordLen, ofText_zeroEntry, length_replicate]
    change 2 + n + 2 + 0 + 8 + 4 + 0 = n + 16
    omega
  have hw : ∃ w, RecordingWriter.writeEntry ⟨headerBytes sampleHeader, 0, 0⟩ (zeroEntry n) =
      .ok w := by
    unfold RecordingWriter.writeEntry
    rw [hl, if_neg (Nat.not_lt.mpr hn), if_neg (by unfold maxRecordBytes at hn; omega)]
    exact ⟨_, rfl⟩
  obtain ⟨w, hw⟩ := hw
  refine ⟨w, ?_⟩
  change (RecordingWriter.writeEntry ⟨headerBytes sampleHeader, 0, 0⟩ (zeroEntry n) >>=
    fun w => pure w) = .ok w
  rw [hw]
  rfl

/-- The recording of such an entry reads back as a message without identifiers. -/
theorem readRecording_zeroEntry (hn : toLE 2 n = [0, 0]) (h14 : 14 ≤ n)
    (hl : n + 16 ≤ maxRecordBytes) : ∃ w, record sampleHeader [zeroEntry n] = .ok w ∧
      readRecording w.written = .ok (sampleHeader, [blankEntry], .eof) := by
  obtain ⟨w, hw⟩ := record_zeroEntry hl
  have hr : readRecording (w.written ++ []) = _ := readRecording_written hw (by decide) rfl
  rw [append_nil, map_singleton, parseAll, parseRecord_zeroEntry hn h14] at hr
  exact ⟨w, hw, hr⟩

/-- An identifier of 65536 characters is accepted, and another message is read back. -/
theorem long_node_id_lost : ∃ w, record sampleHeader [zeroEntry 65536] = .ok w ∧
    readRecording w.written = .ok (sampleHeader, [blankEntry], .eof) ∧
    zeroEntry 65536 ≠ blankEntry := by
  obtain ⟨w, hw, hr⟩ := readRecording_zeroEntry (n := 65536) (by decide) (by decide) (by decide)
  exact ⟨w, hw, hr, zeroEntry_ne_blank (by decide)⟩

end DoraSpec.Recording
