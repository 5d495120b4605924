import DoraSpec.Message.InputMapping

/-!
# Grammar of input mappings

Which texts the parser of `libraries/message/src/config.rs:238-320` accepts, with which mapping,
and on which texts it panics.
-/

namespace DoraSpec.Message
open Base Base.Text

namespace InputMapping

variable {toLowercase : String → String}

/-- The text is accepted as the mapping. -/
inductive Denotes (toLowercase : String → String) : String → InputMapping → Prop
  | secs {value : String} {secs : UInt64} (hv : parseU64 value = some secs) :
      Denotes toLowercase (timerText "secs" value) (.timer (.fromSecs secs))
  | millis {value : String} {millis : UInt64} (hv : parseU64 value = some millis) :
      Denotes toLowercase (timerText "millis" value) (.timer (.fromMillis millis))
  | hz {value : String} {hz : Float} {interval : Duration} (hv : parseF64 value = some hz)
      (hp : PositiveFinite hz) (hi : Duration.fromSecsF64 (1.0 / hz) = .ok interval) :
      Denotes toLowercase (timerText "hz" value) (.timer interval)
  | allLogs : Denotes toLowercase (joinOnce '/' "dora" "logs") (.logs ⟨none, none⟩)
  | emptyLogs : Denotes toLowercase (logsText "") (.logs ⟨none, none⟩)
  | level {level : String} {minLevel : LogLevelOrStdout} (hs : '/' ∉ level.toList)
      (he : level ≠ "") (hl : parseLogLevelStr toLowercase level = .ok minLevel) :
      Denotes toLowercase (logsText level) (.logs ⟨some minLevel, none⟩)
  | levelNode {level node : String} {minLevel : LogLevelOrStdout} (hs : '/' ∉ level.toList)
      (hl : parseLogLevelStr toLowercase level = .ok minLevel) :
      Denotes toLowercase (logsText (joinOnce '/' level node))
        (.logs ⟨some minLevel, some ⟨node⟩⟩)
  | user {source : NodeId} {output : DataId} (hd : source.val ≠ "dora") (hv : source.Valid) :
      Denotes toLowercase (joinOnce '/' source.val output.val) (.user ⟨source, output⟩)

/-- The parser panics on the text. -/
inductive Crashes : String → Prop
  | period {value : String} {hz : Float} (hv : parseF64 value = some hz)
      (hp : PositiveFinite hz) (hi : (Duration.fromSecsF64 (1.0 / hz)).Panics) :
      Crashes (timerText "hz" value)
  | identifier {source output : String} (hs : '/' ∉ source.toList) (hd : source ≠ "dora")
      (hv : ¬ (validateNodeId source = .ok () ∧ validateDataId output = .ok ())) :
      Crashes (joinOnce '/' source output)

/-- What the parser does with a text. -/
inductive Verdict (toLowercase : String → String) (s : String) : Prop
  | accepted (m : InputMapping) (hp : fromStr toLowercase s = .ok m)
      (hd : Denotes toLowercase s m)
  | rejected (message : String) (hp : fromStr toLowercase s = .err message)
  | crashed (hp : (fromStr toLowercase s).Panics) (hc : Crashes s)

private theorem level_cases (s : String) :
    (∃ l, parseLogLevelStr toLowercase s = .ok l) ∨
      ∃ m, parseLogLevelStr toLowercase s = .err m := by
  unfold parseLogLevelStr
  simp only
  repeat' split
  all_goals simp

private theorem fromStr_dora {output kind rest : String}
    (ho : splitOnce '/' output = some (kind, rest)) :
    fromStr toLowercase (joinOnce '/' "dora" output) =
      if kind = "timer" then parseTimer rest
      else if kind = "logs" then parseLogs toLowercase rest
      else .err s!"unknown dora input `{kind}`" := by
  rw [fromStr, splitOnce_joinOnce (by decide)]
  simp only [if_pos, ho]

private theorem fromStr_timer (rest : String) :
    fromStr toLowercase (joinOnce '/' "dora" (joinOnce '/' "timer" rest)) = parseTimer rest := by
  rw [fromStr_dora (splitOnce_joinOnce (by decide) rest), if_pos rfl]

/-- A timer in seconds. -/
theorem fromStr_secs (value : String) :
    fromStr toLowercase (timerText "secs" value) =
      match parseU64 value with
      | none => .err s!"secs must be an integer (got `{value}`)"
      | some secs => .ok (.timer (.fromSecs secs)) := by
  rw [timerText, fromStr_timer, parseTimer, splitOnce_joinOnce (by decide)]
  rfl

/-- A timer in milliseconds. -/
theorem fromStr_millis (value : String) :
    fromStr toLowercase (timerText "millis" value) =
      match parseU64 value with
      | none => .err s!"millis must be an integer (got `{value}`)"
      | some millis => .ok (.timer (.fromMillis millis)) := by
  rw [timerText, fromStr_timer, parseTimer, splitOnce_joinOnce (by decide)]
  rfl

private theorem fromStr_hz (value : String) :
    fromStr toLowercase (timerText "hz" value) =
      match parseF64 value with
      | none => .err s!"hz must be a positive number (got `{value}`)"
      | some hz =>
        if PositiveFinite hz then do
          let interval ← Duration.fromSecsF64 (1.0 / hz)
          pure (.timer interval)
        else .err s!"hz must be a positive finite number (got `{value}`)" := by
  rw [timerText, fromStr_timer, parseTimer, splitOnce_joinOnce (by decide)]
  rfl

private theorem fromStr_logs (rest : String) :
    fromStr toLowercase (logsText rest) = parseLogs toLowercase rest := by
  rw [logsText, fromStr_dora (splitOnce_joinOnce (by decide) rest), if_neg (by decide),
    if_pos rfl]

private theorem fromStr_user {source : String} (hs : '/' ∉ source.toList)
    (hd : source ≠ "dora") (output : String) :
    fromStr toLowercase (joinOnce '/' source output) = (do
      let source ← NodeId.from source
      let output ← DataId.from output
      pure (.user ⟨source, output⟩)) := by
  rw [fromStr, splitOnce_joinOnce hs]
  simp only [if_neg hd]

private theorem verdict_hz (value : String) : Verdict toLowercase (timerText "hz" value) := by
  have hf := @fromStr_hz toLowercase value
  cases hv : parseF64 value with
  | none =>
    rw [hv] at hf
    exact .rejected _ hf
  | some hz =>
    simp only [hv] at hf
    by_cases hp : PositiveFinite hz
    · rw [if_pos hp] at hf
      cases hi : Duration.fromSecsF64 (1.0 / hz) with
      | ok interval =>
        rw [hi] at hf
        exact .accepted _ hf (.hz hv hp hi)
      | err message => exact absurd hi (Duration.fromSecsF64_ne_err _ _)
      | panic message =>
        rw [hi] at hf
        exact .crashed (by rw [hf]; exact True.intro)
          (.period hv hp (by rw [hi]; exact True.intro))
    · rw [if_neg hp] at hf
      exact .rejected _ hf

private theorem verdict_timer (rest : String) :
    Verdict toLowercase (joinOnce '/' "dora" (joinOnce '/' "timer" rest)) := by
  have hf := @fromStr_timer toLowercase rest
  unfold parseTimer at hf
  cases hs : splitOnce '/' rest with
  | none =>
    rw [hs] at hf
    exact .rejected _ hf
  | some parts =>
    obtain ⟨unit, value⟩ := parts
    simp only [hs] at hf
    obtain ⟨rfl, -⟩ := splitOnce_eq_some hs
    by_cases hsecs : unit = "secs"
    · subst hsecs
      cases hv : parseU64 value with
      | none => exact .rejected _ (by rw [← timerText, fromStr_secs, hv])
      | some secs => exact .accepted _ (by rw [← timerText, fromStr_secs, hv]) (.secs hv)
    by_cases hmillis : unit = "millis"
    · subst hmillis
      cases hv : parseU64 value with
      | none => exact .rejected _ (by rw [← timerText, fromStr_millis, hv])
      | some millis => exact .accepted _ (by rw [← timerText, fromStr_millis, hv]) (.millis hv)
    by_cases hhz : unit = "hz"
    · subst hhz
      exact verdict_hz value
    · rw [if_neg hsecs, if_neg hmillis, if_neg hhz] at hf
      exact .rejected _ hf

private theorem verdict_logs (rest : String) : Verdict toLowercase (logsText rest) := by
  have hf := @fromStr_logs toLowercase rest
  unfold parseLogs at hf
  cases hs : splitOnce '/' rest with
  | some parts =>
    obtain ⟨level, node⟩ := parts
    obtain ⟨rfl, hn⟩ := splitOnce_eq_some hs
    simp only [hs] at hf
    rcases @level_cases toLowercase level with ⟨l, hl⟩ | ⟨m, hl⟩
    · rw [hl] at hf
      exact .accepted _ hf (.levelNode hn hl)
    · rw [hl] at hf
      exact .rejected _ hf
  | none =>
    simp only [hs] at hf
    split at hf
    · next he =>
      subst he
      exact .accepted _ hf .emptyLogs
    · next he =>
      rcases @level_cases toLowercase rest with ⟨l, hl⟩ | ⟨m, hl⟩
      · rw [hl] at hf
        exact .accepted _ hf (.level (splitOnce_eq_none.mp hs) he hl)
      · rw [hl] at hf
        exact .rejected _ hf

private theorem verdict_user {source : String} (hs : '/' ∉ source.toList)
    (hd : source ≠ "dora") (output : String) :
    Verdict toLowercase (joinOnce '/' source output) := by
  have hf := @fromStr_user toLowercase source hs hd output
  rcases @NodeId.from_cases String source with ⟨hn, hv⟩ | ⟨hn, hv⟩
  · rw [hn, Outcome.ok_bind] at hf
    rcases @DataId.from_cases String output with ⟨ho, hw⟩ | ⟨hw, ho⟩
    · rw [hw] at hf
      exact .accepted _ hf (@Denotes.user _ ⟨source⟩ ⟨output, ho⟩ hd hv)
    · exact .crashed (by rw [hf]; exact hw.bind _) (.identifier hs hd fun h => ho h.2)
  · exact .crashed (by rw [hf]; exact hn.bind _) (.identifier hs hd fun h => hv h.1)

private theorem fromStr_verdict (toLowercase : String → String) (s : String) :
    Verdict toLowercase s := by
  cases hs : splitOnce '/' s with
  | none => exact .rejected _ (by rw [fromStr, hs])
  | some parts =>
    obtain ⟨source, output⟩ := parts
    obtain ⟨rfl, hn⟩ := splitOnce_eq_some hs
    by_cases hd : source = "dora"
    · subst hd
      cases ho : splitOnce '/' output with
      | some inner =>
        obtain ⟨kind, rest⟩ := inner
        have hf := @fromStr_dora toLowercase output kind rest ho
        obtain ⟨rfl, -⟩ := splitOnce_eq_some ho
        by_cases ht : kind = "timer"
        · subst ht
          exact verdict_timer rest
        · by_cases hl : kind = "logs"
          · subst hl
            exact verdict_logs rest
          · rw [if_neg ht, if_neg hl] at hf
            exact .rejected _ hf
      | none =>
        have hf : fromStr toLowercase (joinOnce '/' "dora" output) =
            if output = "logs" then .ok (.logs ⟨none, none⟩)
            else .err "dora input has invalid format" := by
          rw [fromStr, hs]
          simp only [if_pos, ho]
        by_cases hl : output = "logs"
        · subst hl
          exact .accepted _ hf .allLogs
        · rw [if_neg hl] at hf
          exact .rejected _ hf
    · exact verdict_user hn hd output

/-- A valid node identifier has no slash. -/
theorem slash_not_mem_of_valid {id : NodeId} (h : id.Valid) : '/' ∉ id.val.toList :=
  fun hm => absurd (h.isNodeIdChar '/' hm) (by decide)

/-- Every text of the grammar is accepted. -/
theorem fromStr_of_denotes {s : String} {m : InputMapping} (h : Denotes toLowercase s m) :
    fromStr toLowercase s = .ok m := by
  cases h with
  | secs hv => rw [fromStr_secs, hv]
  | millis hv => rw [fromStr_millis, hv]
  | hz hv hp hi =>
    simp only [fromStr_hz, hv, if_pos hp, hi]
    rfl
  | allLogs => rfl
  | emptyLogs => rw [fromStr_logs]; rfl
  | level hs he hl =>
    rw [fromStr_logs, parseLogs, splitOnce_eq_none.mpr hs]
    simp [he, hl]
  | levelNode hs hl =>
    rw [fromStr_logs, parseLogs, splitOnce_joinOnce hs]
    simp [hl]
  | @user source output hd hv =>
    rw [fromStr_user (slash_not_mem_of_valid hv) hd, NodeId.from_eq_ok.mpr ⟨rfl, hv⟩,
      Outcome.ok_bind]
    rcases @DataId.from_cases String output.val with ⟨ho, hw⟩ | ⟨-, ho⟩
    · rw [hw]
      rfl
    · exact absurd output.valid ho

/-- The parser accepts exactly the texts of the grammar. -/
theorem fromStr_eq_ok_iff {s : String} {m : InputMapping} :
    fromStr toLowercase s = .ok m ↔ Denotes toLowercase s m := by
  refine ⟨fun h => ?_, fromStr_of_denotes⟩
  cases fromStr_verdict toLowercase s with
  | accepted m' hp hd =>
    rw [hp] at h
    exact Outcome.ok.inj h ▸ hd
  | rejected message hp =>
    rw [hp] at h
    cases h
  | crashed hp _ =>
    rw [h] at hp
    exact absurd hp id

/-- The parser panics exactly on the texts of the crashing forms. -/
theorem panics_fromStr_iff {s : String} : (fromStr toLowercase s).Panics ↔ Crashes s := by
  constructor
  · intro h
    cases fromStr_verdict toLowercase s with
    | accepted m hp _ =>
      rw [hp] at h
      exact absurd h id
    | rejected message hp =>
      rw [hp] at h
      exact absurd h id
    | crashed _ hc => exact hc
  · intro h
    cases h with
    | period hv hp hi =>
      simp only [fromStr_hz, hv, if_pos hp]
      exact hi.bind _
    | @identifier source output hs hd hv =>
      rw [fromStr_user hs hd]
      rcases @NodeId.from_cases String source with ⟨hn, hv'⟩ | ⟨hn, -⟩
      · rw [hn, Outcome.ok_bind]
        rcases @DataId.from_cases String output with ⟨ho, -⟩ | ⟨ho, -⟩
        · exact absurd ⟨hv', ho⟩ hv
        · exact ho.bind _
      · exact hn.bind _

end InputMapping
end DoraSpec.Message
