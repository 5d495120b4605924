import DoraSpec.Message.InputGrammar

/-!
# Safety and round trip of input mappings

Source `libraries/message/src/config.rs:214-365`. When parsing a text is safe and yields a
meaningful mapping, and when printing the mapping and parsing it again gives the mapping back.
-/

namespace DoraSpec.Message
open Base Base.Text

namespace InputMapping

variable {toLowercase : String → String} {d : Duration}

/-- Lowercase of the ASCII letters. -/
def asciiLower (s : String) : String := String.ofList (s.toList.map Char.toLower)

/-! ## Safety -/

/-- All identifiers follow the grammar and a timer interval is longer than zero. -/
def Sound : InputMapping → Prop
  | .timer interval => interval.Positive
  | .logs filter => ∀ node ∈ filter.nodeFilter, node.Valid
  | .user mapping => mapping.source.Valid ∧ validateDataId mapping.output.val = .ok ()

/-- The parser returns, and what it accepts is sound. -/
def ParsesSoundly (toLowercase : String → String) (s : String) : Prop :=
  ¬ (fromStr toLowercase s).Panics ∧ ∀ m, fromStr toLowercase s = .ok m → m.Sound

/-- Conditions on a text under which it is parsed soundly. -/
structure SafeText (toLowercase : String → String) (s : String) : Prop where
  /-- A source other than `dora` and its output follow the identifier grammar. -/
  identifiers : ∀ source output, s = joinOnce '/' source output → '/' ∉ source.toList →
    source ≠ "dora" → validateNodeId source = .ok () ∧ validateDataId output = .ok ()
  /-- A number of seconds is not zero. -/
  secs : ∀ value, s = timerText "secs" value → parseU64 value ≠ some 0
  /-- A number of milliseconds is not zero. -/
  millis : ∀ value, s = timerText "millis" value → parseU64 value ≠ some 0
  /-- The period of a frequency rounds to at least one nanosecond and to less than `2 ^ 64`
  seconds. -/
  hz : ∀ value hz, s = timerText "hz" value → parseF64 value = some hz → PositiveFinite hz →
    ∃ n, Duration.nanosOfSecs (1.0 / hz) = some n ∧ 0 < n ∧ n < 2 ^ 64 * 1000000000
  /-- The node behind a known log level follows the identifier grammar. -/
  node : ∀ level node, s = logsText (joinOnce '/' level node) → '/' ∉ level.toList →
    (∃ l, parseLogLevelStr toLowercase level = .ok l) → (NodeId.mk node).Valid

private theorem positive_period_iff {secs : Float} :
    (∃ d, Duration.fromSecsF64 secs = .ok d ∧ d.Positive) ↔
      ∃ n, Duration.nanosOfSecs secs = some n ∧ 0 < n ∧ n < 2 ^ 64 * 1000000000 := by
  constructor
  · rintro ⟨d, hd, hp⟩
    obtain ⟨n, hn, hs, hr⟩ := Duration.fromSecsF64_eq_ok.mp hd
    have hlt := d.secs_lt
    unfold Duration.Positive at hp
    exact ⟨n, hn, by omega, by omega⟩
  · rintro ⟨n, hn, h0, hlt⟩
    refine ⟨⟨n / 1000000000, n % 1000000000, by omega, Nat.mod_lt _ (by decide)⟩,
      Duration.fromSecsF64_eq_ok.mpr ⟨n, hn, rfl, rfl⟩, ?_⟩
    unfold Duration.Positive
    simp only
    omega

private theorem positive_fromSecs {secs : UInt64} :
    (Duration.fromSecs secs).Positive ↔ secs ≠ 0 := by
  unfold Duration.Positive Duration.fromSecs
  rw [ne_eq, ← UInt64.toNat_inj]
  simp only [UInt64.toNat_zero]
  omega

private theorem positive_fromMillis {millis : UInt64} :
    (Duration.fromMillis millis).Positive ↔ millis ≠ 0 := by
  unfold Duration.Positive Duration.fromMillis
  rw [ne_eq, ← UInt64.toNat_inj]
  simp only [UInt64.toNat_zero]
  omega

/-- Parsing a text returns with a sound mapping or an error exactly under the conditions. -/
theorem parsesSoundly_iff (toLowercase : String → String) (s : String) :
    ParsesSoundly toLowercase s ↔ SafeText toLowercase s := by
  constructor
  · rintro ⟨hp, ho⟩
    refine ⟨?_, ?_, ?_, ?_, ?_⟩
    · rintro source output rfl hs hd
      by_contra hv
      exact hp (panics_fromStr_iff.mpr (.identifier hs hd hv))
    · rintro value rfl hv
      exact positive_fromSecs.mp (ho _ (fromStr_of_denotes (.secs hv))) rfl
    · rintro value rfl hv
      exact positive_fromMillis.mp (ho _ (fromStr_of_denotes (.millis hv))) rfl
    · rintro value hz rfl hv hpos
      cases hi : Duration.fromSecsF64 (1.0 / hz) with
      | ok interval =>
        exact positive_period_iff.mp
          ⟨interval, hi, ho _ (fromStr_of_denotes (.hz hv hpos hi))⟩
      | err message => exact absurd hi (Duration.fromSecsF64_ne_err _ _)
      | panic message =>
        have hc : Crashes (timerText "hz" value) :=
          .period hv hpos (by rw [hi]; exact True.intro)
        exact absurd (panics_fromStr_iff.mpr hc) hp
    · rintro level node rfl hs ⟨l, hl⟩
      exact ho _ (fromStr_of_denotes (.levelNode hs hl)) ⟨node⟩ rfl
  · intro h
    constructor
    · intro hp
      cases panics_fromStr_iff.mp hp with
      | @period value hz hv hpos hi =>
        obtain ⟨d, hd, -⟩ := positive_period_iff.mpr (h.hz value hz rfl hv hpos)
        rw [hd] at hi
        exact hi
      | identifier hs hd hv => exact hv (h.identifiers _ _ rfl hs hd)
    · intro m hm
      cases fromStr_eq_ok_iff.mp hm with
      | secs hv => exact positive_fromSecs.mpr fun h0 => h.secs _ rfl (h0 ▸ hv)
      | millis hv => exact positive_fromMillis.mpr fun h0 => h.millis _ rfl (h0 ▸ hv)
      | hz hv hpos hi =>
        obtain ⟨d, hd, hp⟩ := positive_period_iff.mpr (h.hz _ _ rfl hv hpos)
        obtain rfl := Outcome.ok.inj (hd.symm.trans hi)
        exact hp
      | allLogs | emptyLogs | level => exact fun _ hn => by cases hn
      | levelNode hs hl =>
        intro node hn
        obtain rfl := Option.some.inj hn
        exact h.node _ _ rfl hs ⟨_, hl⟩
      | @user source output hd hv => exact ⟨hv, output.valid⟩

/-- Texts that panic or are accepted without meaning: an identifier with a blank, a frequency
whose period is not a number of seconds in range, a zero interval, and a log filter for a node
that cannot exist. -/
theorem unsound_texts :
    (fromStr asciiLower "my node/out").Panics ∧
    (fromStr asciiLower "dora/timer/hz/1e-320").Panics ∧
    (∃ d, fromStr asciiLower "dora/timer/secs/0" = .ok (.timer d) ∧ ¬ d.Positive) ∧
    (fromStr asciiLower "dora/logs/info/my node" =
      .ok (.logs ⟨some (.logLevel .info), some ⟨"my node"⟩⟩) ∧
      ¬ (NodeId.mk "my node").Valid) := by
  refine ⟨by decide +kernel, by decide +kernel, ⟨.fromSecs 0, by decide +kernel, by decide⟩,
    by decide +kernel, by decide +kernel⟩

/-! ## Round trip -/

/-- ASCII text is lowercased character by character, as documented for `to_lowercase`. -/
def LowersAscii (toLowercase : String → String) : Prop :=
  ∀ s : String, (∀ c ∈ s.toList, c.toNat < 128) → toLowercase s = asciiLower s

private theorem parseLogLevelStr_format (h : LowersAscii toLowercase) (level : LogLevelOrStdout) :
    parseLogLevelStr toLowercase (formatLogLevel level) = .ok level := by
  have hl : toLowercase (formatLogLevel level) = formatLogLevel level := by
    rcases level with _ | _ | _ | _ | _ | _
    all_goals exact (h _ (by simp [formatLogLevel])).trans (by decide)
  unfold parseLogLevelStr
  rw [hl]
  rcases level with _ | _ | _ | _ | _ | _
  all_goals rfl

private theorem formatLogLevel_no_slash (level : LogLevelOrStdout) :
    '/' ∉ (formatLogLevel level).toList ∧ formatLogLevel level ≠ "" := by
  rcases level with _ | _ | _ | _ | _ | _
  all_goals decide

private theorem fromSecs_eq_iff (hs : d.subsecMillis = 0) :
    Duration.fromSecs (UInt64.ofNat d.secs) = d ↔ d.WholeMillis := by
  have hn := UInt64.toNat_ofNat_of_lt' d.secs_lt
  unfold Duration.subsecMillis at hs
  unfold Duration.WholeMillis
  constructor
  · intro h
    rw [← h]
    rfl
  · intro hw
    apply Duration.ext
    · exact hn
    · change 0 = d.nanos
      omega

private theorem fromMillis_eq_iff (hm : d.asMillis < 2 ^ 64) :
    Duration.fromMillis (UInt64.ofNat d.asMillis) = d ↔ d.WholeMillis := by
  have hn := UInt64.toNat_ofNat_of_lt' hm
  have hlt := d.nanos_lt
  have hnanos : (Duration.fromMillis (UInt64.ofNat d.asMillis)).nanos =
      d.nanos / 1000000 * 1000000 := by
    change (UInt64.ofNat d.asMillis).toNat % 1000 * 1000000 = _
    rw [hn, Duration.asMillis]
    omega
  unfold Duration.WholeMillis
  constructor
  · intro h
    rw [h] at hnanos
    omega
  · intro hw
    apply Duration.ext
    · change (UInt64.ofNat d.asMillis).toNat / 1000 = d.secs
      rw [hn, Duration.asMillis]
      omega
    · omega

/-- A printed interval is parsed back exactly when it is a multiple of one millisecond, provided
that its milliseconds fit into 64 bits. -/
theorem fromStr_format_timer_iff (hm : d.subsecMillis ≠ 0 → d.asMillis < 2 ^ 64) :
    fromStr toLowercase (format (.timer d)) = .ok (.timer d) ↔ d.WholeMillis := by
  change fromStr toLowercase (joinOnce '/' "dora" (joinOnce '/' "timer" d.format)) = _ ↔ _
  by_cases hs : d.subsecMillis = 0
  · have hf : d.format = joinOnce '/' "secs" d.secs.repr := by rw [Duration.format, if_pos hs]
    have hp := @fromStr_secs toLowercase d.secs.repr
    rw [parseU64_repr, if_pos d.secs_lt] at hp
    rw [hf, ← timerText, hp, Outcome.ok.injEq, InputMapping.timer.injEq]
    exact fromSecs_eq_iff hs
  · have hf : d.format = joinOnce '/' "millis" d.asMillis.repr := by
      rw [Duration.format, if_neg hs]
    have hp := @fromStr_millis toLowercase d.asMillis.repr
    rw [parseU64_repr, if_pos (hm hs)] at hp
    rw [hf, ← timerText, hp, Outcome.ok.injEq, InputMapping.timer.injEq]
    exact fromMillis_eq_iff (hm hs)

/-- The text is not a frequency whose period has a fraction of a millisecond. -/
def PeriodInMillis (s : String) : Prop :=
  ∀ value hz n, s = timerText "hz" value → parseF64 value = some hz →
    Duration.nanosOfSecs (1.0 / hz) = some n → n % 1000000 = 0

private theorem timerText_inj {unit unit' value value' : String} (h : '/' ∉ unit.toList)
    (h' : '/' ∉ unit'.toList) (he : timerText unit value = timerText unit' value') :
    unit = unit' ∧ value = value' := by
  have ht := (joinOnce_inj (by decide) (by decide) he).2
  have hu := (joinOnce_inj (by decide) (by decide) ht).2
  exact joinOnce_inj h h' hu

private theorem timerText_source {source output unit value : String} (hs : '/' ∉ source.toList)
    (h : joinOnce '/' source output = timerText unit value) :
    source = "dora" ∧ output = joinOnce '/' "timer" (joinOnce '/' unit value) :=
  joinOnce_inj hs (by decide) h

private theorem periodInMillis_of_unit {unit value : String} (hu : '/' ∉ unit.toList)
    (hn : unit ≠ "hz") : PeriodInMillis (timerText unit value) := by
  intro value' hz n hs
  exact absurd (timerText_inj hu (by decide) hs).1 hn

private theorem periodInMillis_of_logs (rest : String) : PeriodInMillis (logsText rest) := by
  intro value hz n hs
  have ht := (timerText_source (by decide) hs).2
  exact absurd (joinOnce_inj (by decide) (by decide) ht).1 (by decide)

private theorem periodInMillis_allLogs : PeriodInMillis (joinOnce '/' "dora" "logs") := by
  intro value hz n hs
  have ht := (timerText_source (by decide) hs).2
  have hm : '/' ∈ "logs".toList := by
    rw [ht, toList_joinOnce]
    simp
  exact absurd hm (by decide)

private theorem asMillis_lt {hz : Float} (h : Duration.fromSecsF64 hz = .ok d)
    (hs : d.subsecMillis ≠ 0) :
    d.asMillis < 2 ^ 64 := by
  have hn : d.nanos ≠ 0 := by
    intro h0
    rw [Duration.subsecMillis, h0] at hs
    exact hs rfl
  have hsecs := Duration.secs_le_of_fromSecsF64 h hn
  have hlt := d.nanos_lt
  unfold Duration.asMillis
  omega

/-- An accepted mapping is printed as a text that is parsed back to it exactly when the text it
was parsed from is not a frequency with a fraction of a millisecond in its period. -/
theorem reparses_iff (hl : LowersAscii toLowercase) {s : String} {m : InputMapping}
    (h : fromStr toLowercase s = .ok m) :
    fromStr toLowercase m.format = .ok m ↔ PeriodInMillis s := by
  cases fromStr_eq_ok_iff.mp h with
  | @secs value secs hv =>
    have hw : (Duration.fromSecs secs).WholeMillis := rfl
    have h0 : (Duration.fromSecs secs).subsecMillis = 0 := Nat.zero_div _
    exact iff_of_true ((fromStr_format_timer_iff fun hn => absurd h0 hn).mpr hw)
      (periodInMillis_of_unit (by decide) (by decide))
  | @millis value millis hv =>
    have hw : (Duration.fromMillis millis).WholeMillis := Nat.mul_mod_left _ _
    have hm : (Duration.fromMillis millis).asMillis < 2 ^ 64 := by
      have := millis.toNat_lt
      unfold Duration.asMillis Duration.fromMillis
      simp only
      omega
    exact iff_of_true ((fromStr_format_timer_iff fun _ => hm).mpr hw)
      (periodInMillis_of_unit (by decide) (by decide))
  | @hz value hz d hv hp hi =>
    rw [fromStr_format_timer_iff (asMillis_lt hi)]
    obtain ⟨n, hn, -, hr⟩ := Duration.fromSecsF64_eq_ok.mp hi
    unfold Duration.WholeMillis
    constructor
    · intro hw value' hz' n' hs hv' hn'
      obtain ⟨-, rfl⟩ := timerText_inj (by decide) (by decide) hs
      obtain rfl := Option.some.inj (hv.symm.trans hv')
      obtain rfl := Option.some.inj (hn.symm.trans hn')
      omega
    · intro hper
      have := hper value hz n rfl hv hn
      omega
  | allLogs => exact iff_of_true (fromStr_of_denotes .allLogs) periodInMillis_allLogs
  | emptyLogs => exact iff_of_true (fromStr_of_denotes .allLogs) (periodInMillis_of_logs _)
  | @level level l hs he hp =>
    have hd : Denotes toLowercase (logsText (formatLogLevel l)) (.logs ⟨some l, none⟩) :=
      .level (formatLogLevel_no_slash l).1 (formatLogLevel_no_slash l).2
        (parseLogLevelStr_format hl l)
    exact iff_of_true (fromStr_of_denotes hd) (periodInMillis_of_logs _)
  | @levelNode level node l hs hp =>
    have hd : Denotes toLowercase (logsText (joinOnce '/' (formatLogLevel l) node))
        (.logs ⟨some l, some ⟨node⟩⟩) :=
      .levelNode (formatLogLevel_no_slash l).1 (parseLogLevelStr_format hl l)
    exact iff_of_true (fromStr_of_denotes hd) (periodInMillis_of_logs _)
  | @user source output hd hv =>
    refine iff_of_true (fromStr_of_denotes (.user hd hv)) ?_
    intro value hz n hs
    exact absurd (timerText_source (slash_not_mem_of_valid hv) hs).1 hd

/-- An interval in milliseconds is kept. -/
theorem reparses_millis :
    fromStr asciiLower (format (.timer (.fromMillis 1500))) =
      .ok (.timer (.fromMillis 1500)) := by
  have h : fromStr asciiLower (timerText "millis" "1500") = .ok (.timer (.fromMillis 1500)) := by
    decide +kernel
  exact (reparses_iff (fun _ _ => rfl) h).mpr (periodInMillis_of_unit (by decide) (by decide))

/-- A frequency of thirty per second: its period of 33.333333 ms is printed as 33 ms. -/
theorem thirty_hz_lost :
    ∃ d, fromStr asciiLower "dora/timer/hz/30" = .ok (.timer d) ∧ d.nanos = 33333333 ∧
      format (.timer d) = "dora/timer/millis/33" ∧
      fromStr asciiLower (format (.timer d)) = .ok (.timer (.fromMillis 33)) := by
  refine ⟨⟨0, 33333333, by decide, by decide⟩, ?_, rfl, ?_, ?_⟩
  all_goals decide +kernel

end InputMapping
end DoraSpec.Message
