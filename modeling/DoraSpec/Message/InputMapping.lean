import DoraSpec.Message.Duration
import DoraSpec.Message.Id

/-!
# Input mappings

Source `libraries/message/src/config.rs:214-365`: the texts by which a dataflow descriptor names
the source of an input. The parser is modelled with its panics. The Unicode `to_lowercase` of
log levels is a parameter.
-/

namespace DoraSpec.Message
open Base Base.Text

/-- Severity of a log message, the `Level` of the `log` crate. -/
inductive LogLevel where
  | error
  | warn
  | info
  | debug
  | trace
  deriving DecidableEq

/-- Severity, or plain output; `common.rs:99-104`. -/
inductive LogLevelOrStdout where
  | stdout
  | logLevel (level : LogLevel)
  deriving DecidableEq

/-- Filter of the `dora/logs` input; `config.rs:17-23`. -/
structure LogSubscriptionFilter where
  minLevel : Option LogLevelOrStdout
  nodeFilter : Option NodeId
  deriving DecidableEq

/-- Output of another node; `config.rs:387-390`. -/
structure UserInputMapping where
  source : NodeId
  output : DataId
  deriving DecidableEq

/-- Source of an input; `config.rs:190-200`. -/
inductive InputMapping where
  | timer (interval : Duration)
  | logs (filter : LogSubscriptionFilter)
  | user (mapping : UserInputMapping)
  deriving DecidableEq

/-- Name of a log level; `format_log_level`, `config.rs:337-349`. -/
def formatLogLevel : LogLevelOrStdout → String
  | .stdout => "stdout"
  | .logLevel .error => "error"
  | .logLevel .warn => "warn"
  | .logLevel .info => "info"
  | .logLevel .debug => "debug"
  | .logLevel .trace => "trace"

/-- `dora/timer/<unit>/<value>`. -/
def timerText (unit value : String) : String :=
  joinOnce '/' "dora" (joinOnce '/' "timer" (joinOnce '/' unit value))

/-- `dora/logs/<rest>`. -/
def logsText (rest : String) : String := joinOnce '/' "dora" (joinOnce '/' "logs" rest)

namespace InputMapping

/-- Text of a mapping; `InputMapping::fmt`, `config.rs:214-236`. -/
def format : InputMapping → String
  | .timer interval => joinOnce '/' "dora" (joinOnce '/' "timer" interval.format)
  | .logs ⟨none, _⟩ => joinOnce '/' "dora" "logs"
  | .logs ⟨some level, none⟩ => logsText (formatLogLevel level)
  | .logs ⟨some level, some node⟩ => logsText (joinOnce '/' (formatLogLevel level) node.val)
  | .user mapping => joinOnce '/' mapping.source.val mapping.output.val

variable (toLowercase : String → String)

/-- Level of a name in any case; `parse_log_level_str`, `config.rs:322-335`. -/
def parseLogLevelStr (s : String) : Outcome String LogLevelOrStdout :=
  let name := toLowercase s
  if name = "stdout" then .ok .stdout
  else if name = "error" then .ok (.logLevel .error)
  else if name = "warn" then .ok (.logLevel .warn)
  else if name = "info" then .ok (.logLevel .info)
  else if name = "debug" then .ok (.logLevel .debug)
  else if name = "trace" then .ok (.logLevel .trace)
  else .err s!"unknown log level `{name}` (expected: stdout, error, warn, info, debug, trace)"

/-- The frequency passes the check of `config.rs:269`. -/
def PositiveFinite (hz : Float) : Prop := hz.isFinite ∧ ¬ hz ≤ 0.0

instance (hz : Float) : Decidable (PositiveFinite hz) := inferInstanceAs (Decidable (_ ∧ _))

/-- What follows `dora/timer/`; `config.rs:248-283`. -/
def parseTimer (output : String) : Outcome String InputMapping :=
  match splitOnce '/' output with
  | none => .err
    "timer input must specify unit and value (e.g. `secs/5`, `millis/100`, or `hz/30`)"
  | some (unit, value) =>
    if unit = "secs" then
      match parseU64 value with
      | none => .err s!"secs must be an integer (got `{value}`)"
      | some secs => .ok (.timer (.fromSecs secs))
    else if unit = "millis" then
      match parseU64 value with
      | none => .err s!"millis must be an integer (got `{value}`)"
      | some millis => .ok (.timer (.fromMillis millis))
    else if unit = "hz" then
      match parseF64 value with
      | none => .err s!"hz must be a positive number (got `{value}`)"
      | some hz =>
        if PositiveFinite hz then do
          let interval ← Duration.fromSecsF64 (1.0 / hz)
          pure (.timer interval)
        else .err s!"hz must be a positive finite number (got `{value}`)"
    else .err s!"timer unit must be `secs`, `millis`, or `hz` (got `{unit}`)"

/-- What follows `dora/logs/`; `config.rs:284-301`. The node of the filter is not validated. -/
def parseLogs (rest : String) : Outcome String InputMapping :=
  match splitOnce '/' rest with
  | some (level, node) => do
    let minLevel ← parseLogLevelStr toLowercase level
    pure (.logs ⟨some minLevel, some ⟨node⟩⟩)
  | none =>
    if rest = "" then .ok (.logs ⟨none, none⟩)
    else do
      let minLevel ← parseLogLevelStr toLowercase rest
      pure (.logs ⟨some minLevel, none⟩)

/-- Parse an input mapping; `InputMapping::from_str`, `config.rs:238-320`. -/
def fromStr (s : String) : Outcome String InputMapping :=
  match splitOnce '/' s with
  | none => .err "input must start with `<source>/`"
  | some (source, output) =>
    if source = "dora" then
      match splitOnce '/' output with
      | some (kind, rest) =>
        if kind = "timer" then parseTimer rest
        else if kind = "logs" then parseLogs toLowercase rest
        else .err s!"unknown dora input `{kind}`"
      | none =>
        if output = "logs" then .ok (.logs ⟨none, none⟩)
        else .err "dora input has invalid format"
    else do
      let source ← NodeId.from source
      let output ← DataId.from output
      pure (.user ⟨source, output⟩)

end InputMapping
end DoraSpec.Message
