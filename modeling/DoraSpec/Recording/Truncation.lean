import DoraSpec.Recording.RoundTrip

/-!
# Recordings that are cut short

A crash while recording leaves the header and a prefix of what follows it. The reader then
yields a prefix of the entries, unless it meets a record with an identifier too long for its
length field and does not reject it.
-/

namespace DoraSpec.Recording

open List

/-- The bytes are refused, or read as a prefix of the entries and then end of file or an
error. -/
def ReadsPrefix (entries : List RecordEntry) (bytes : List UInt8) : Prop :=
  ∀ header found ending, readRecording bytes = .ok (header, found, ending) →
    found <+: entries ∧ ¬ ending.Panics

/-- The reader rejects the record of the entry with an error. -/
def Rejected (entry : RecordEntry) : Prop :=
  LengthsFit (recordBytes entry) ∧ ¬ WellFormed (recordBytes entry)

instance (entry : RecordEntry) : Decidable (Rejected entry) :=
  inferInstanceAs (Decidable (_ ∧ _))

/-- The first entry with a long identifier, if any, is rejected by the reader. -/
def LongIdsRejected (entries : List RecordEntry) : Prop :=
  ∀ front entry back, entries = front ++ entry :: back → (∀ e ∈ front, e.ShortIds) →
    entry.ShortIds ∨ Rejected entry

variable {entries : List RecordEntry}

private theorem LongIdsRejected.tail {entry : RecordEntry} (h : LongIdsRejected (entry :: entries))
    (hs : entry.ShortIds) :
    LongIdsRejected entries := by
  intro front e back hb hf
  apply h (entry :: front) e back (by rw [hb]; rfl)
  simpa using ⟨hs, hf⟩

private theorem parseAll_take_prefix (h : LongIdsRejected entries)
    (hl : ∀ e ∈ entries, recordLen e ≤ maxRecordBytes) {ending : ReadEnd} (he : ¬ ending.Panics)
    (n : Nat) :
    (parseAll ((entries.take n).map recordBytes) ending).1 <+: entries ∧
      ¬ (parseAll ((entries.take n).map recordBytes) ending).2.Panics := by
  induction entries generalizing n with
  | nil =>
    rw [take_nil]
    exact ⟨List.nil_prefix, he⟩
  | cons entry entries ih =>
    cases n with
    | zero => exact ⟨List.nil_prefix, he⟩
    | succ n =>
      rw [take_succ_cons, map_cons, parseAll]
      rcases h [] entry entries rfl (by simp) with hs | ⟨hf, hw⟩
      · have hp := parseRecord_recordBytes hs (hl entry mem_cons_self) []
        rw [append_nil] at hp
        obtain ⟨hpre, hend⟩ := ih (h.tail hs) (fun e h => hl e (mem_cons_of_mem _ h)) n
        rw [hp]
        exact ⟨cons_prefix_cons.mpr ⟨rfl, hpre⟩, hend⟩
      · cases parseRecord_verdict (recordBytes entry) with
        | panics m hp hl => exact absurd hf hl
        | rejected m hp hl hw =>
          rw [hp]
          exact ⟨List.nil_prefix, id⟩
        | parsed e hp hl hw' => exact absurd hw' hw

private theorem longIdsRejected_of_parseAll {ending : ReadEnd}
    (hl : ∀ e ∈ entries, recordLen e ≤ maxRecordBytes)
    (hp : (parseAll (entries.map recordBytes) ending).1 <+: entries)
    (he : ¬ (parseAll (entries.map recordBytes) ending).2.Panics) :
    LongIdsRejected entries := by
  rintro front entry back rfl hs
  have hfl : ∀ e ∈ front, recordLen e ≤ maxRecordBytes :=
    fun e h => hl e (mem_append_left _ h)
  rw [map_append, map_cons, parseAll_short_append hs hfl, parseAll] at hp he
  cases parseRecord_verdict (recordBytes entry) with
  | panics m hpr hl =>
    rw [hpr] at he
    exact absurd True.intro he
  | rejected m hpr hl hw => exact .inr ⟨hl, hw⟩
  | parsed e hpr hl hw =>
    rw [hpr] at hp
    left
    have hc := (prefix_append_right_inj front).mp hp
    obtain rfl : e = entry := (cons_prefix_cons.mp hc).1
    exact shortIds_of_parseRecord hpr

private theorem readRecording_take {header : RecordingHeader} {w : RecordingWriter}
    (hw : record header entries = .ok w) (hv : header.version ≤ formatVersion)
    {closing : List UInt8} (hc : ∀ cut, readFrame (closing.take cut) = .ok none) {cut : Nat}
    (hcut : (headerBytes header).length ≤ cut) :
    ∃ n ending, ¬ ending.Panics ∧ readRecording ((w.written ++ closing).take cut) =
      .ok (header, parseAll ((entries.take n).map recordBytes) ending) := by
  obtain ⟨hy, hl, hb⟩ := record_eq_ok hw
  obtain ⟨n, ending, hf⟩ :=
    frames_written_take hl hc (cut - (headerBytes header).length)
  have he := not_panics_frames
    ((entries.flatMap frame ++ closing).take (cut - (headerBytes header).length))
  rw [hf] at he
  refine ⟨n, ending, he, ?_⟩
  rw [hb, append_assoc, take_append, take_of_length_le hcut,
    readRecording_of_header (readHeader_headerBytes hy hv _), hf]

private theorem closing_cases {w : RecordingWriter} {bytes : List UInt8}
    (h : bytes ∈ [w.written, w.finish.1]) :
    ∃ closing, bytes = w.written ++ closing ∧
      ∀ cut, readFrame (closing.take cut) = .ok none := by
  simp only [mem_cons, not_mem_nil, or_false] at h
  rcases h with rfl | rfl
  · exact ⟨[], (append_nil _).symm, fun cut => by rw [take_nil]; rfl⟩
  · exact ⟨_, rfl, readFrame_footer _⟩

/-- Every cut behind the header of an accepted recording, with or without the footer, reads as a
prefix of the entries exactly when the version is refused at once or the first entry with a long
identifier is rejected. -/
theorem reads_prefix_iff {header : RecordingHeader} {entries : List RecordEntry}
    {w : RecordingWriter} (hw : record header entries = .ok w) :
    (∀ bytes ∈ [w.written, w.finish.1], ∀ cut, (headerBytes header).length ≤ cut →
      ReadsPrefix entries (bytes.take cut)) ↔
    formatVersion < header.version ∨ LongIdsRejected entries := by
  obtain ⟨-, hl, hb⟩ := record_eq_ok hw
  by_cases hv : header.version ≤ formatVersion
  · constructor
    · intro h
      have hcut : (headerBytes header).length ≤ w.written.length := by
        rw [hb, length_append]
        omega
      have hp := h w.written mem_cons_self w.written.length hcut
      have hr : readRecording (w.written ++ []) = _ := readRecording_written hw hv rfl
      rw [append_nil] at hr
      rw [take_length] at hp
      obtain ⟨hpre, hend⟩ := hp _ _ _ hr
      exact .inr (longIdsRejected_of_parseAll hl hpre hend)
    · intro h bytes hm cut hcut header' found ending hr
      have hs : LongIdsRejected entries := h.resolve_left (UInt16.not_lt.mpr hv)
      obtain ⟨closing, rfl, hc⟩ := closing_cases hm
      obtain ⟨n, ending', hn, hr'⟩ := readRecording_take hw hv hc hcut
      have he := (Prod.mk.inj (Except.ok.inj (hr'.symm.trans hr))).2
      have hp := parseAll_take_prefix hs hl hn n
      rwa [he] at hp
  · have hlt := UInt16.not_le.mp hv
    refine ⟨fun _ => .inl hlt, fun _ bytes hm cut hcut header' found ending hr => ?_⟩
    obtain ⟨closing, rfl, -⟩ := closing_cases hm
    rw [hb, append_assoc, take_append, take_of_length_le hcut] at hr
    obtain ⟨m, hm⟩ := readRecording_unsupported hlt
      ((entries.flatMap frame ++ closing).take (cut - (headerBytes header).length))
    rw [hm] at hr
    cases hr

/-- A recording of one message that is cut inside its record yields nothing wrong. -/
theorem reads_prefix_cut :
    ReadsPrefix [⟨"n", "o", 7, [1]⟩]
      ((headerBytes sampleHeader ++ frame ⟨"n", "o", 7, [1]⟩).take 45) :=
  have hw : record sampleHeader [⟨"n", "o", 7, [1]⟩] = .ok _ := rfl
  (reads_prefix_iff hw).mpr (.inr fun front e back hb _ => .inl (by
    have hm : e ∈ [(⟨"n", "o", 7, [1]⟩ : RecordEntry)] := by
      rw [hb]
      simp
    rw [mem_singleton.mp hm]
    decide)) _ mem_cons_self 45 (by decide)

/-- A crash right after an entry with an identifier of 65536 characters: the file reads as a
message that was never written. -/
theorem unwritten_entry_read : ∃ w, record sampleHeader [zeroEntry 65536] = .ok w ∧
    readRecording (w.finish.1.take w.written.length) = .ok (sampleHeader, [blankEntry], .eof) ∧
    blankEntry ∉ [zeroEntry 65536] := by
  obtain ⟨w, hw, hr⟩ := readRecording_zeroEntry (n := 65536) (by decide) (by decide) (by decide)
  refine ⟨w, hw, ?_, ?_⟩
  · rw [RecordingWriter.finish, take_left]
    exact hr
  · rw [mem_singleton]
    exact (zeroEntry_ne_blank (by decide)).symm

end DoraSpec.Recording
