import TemplateLint.Text.Basic

/-!
# Diagnostics

The log starts unconfigured, without a handler. Configuring it sets a threshold and a handler in
place of any handlers before; a record at or above the threshold becomes a line on the stream of
each handler. Every record has a logger name inside the namespace of the program, and the verbose
form of a line shows it. Without a handler a warning or anything graver is not lost: its bare
message goes to the stream of last resort, if there is one. Handlers outside the log are left out.
-/

namespace TemplateLint

/-- How grave a record is, by its rank. -/
structure Level where
  rank : Int
deriving Repr, DecidableEq

namespace Level

/-- The rank of notes for whoever mends the program. -/
def debug : Level := ⟨10⟩

/-- The rank of notes on what goes on. -/
def info : Level := ⟨20⟩

/-- The rank of what may be wrong. Without a handler, records are shown from this rank on. -/
def warning : Level := ⟨30⟩

/-- The rank of what is wrong. -/
def error : Level := ⟨40⟩

/-- The rank of what ends the program. -/
def critical : Level := ⟨50⟩

/-- The ranks that have a name. -/
def names : List (Int × String) :=
  [(0, "NOTSET"), (10, "DEBUG"), (20, "INFO"), (30, "WARNING"), (40, "ERROR"), (50, "CRITICAL")]

/-- The name of a level in a line; a level without a name is shown by its rank. -/
def name (level : Level) : Text :=
  match names.lookup level.rank with
  | some name => name.toList
  | none => "Level ".toList ++ Text.ofInt level.rank

/-- The threshold for the two wishes of a user, of which quiet is the stronger. -/
def threshold (verbose quiet : Bool) : Level :=
  if quiet then .error else if verbose then .info else .warning

end Level

/-- Where the lines of a log go, and whether they show the name of the logger. -/
structure Handler (σ : Type) where
  stream : σ
  verbose : Bool
deriving Repr, DecidableEq

/-- The state of a log with streams `σ`: the least rank of a record that is written, the handlers
that write it, whether it goes to handlers outside the log as well, and the lines written so far,
each with its stream. -/
structure Log (σ : Type) where
  rank : Int := 0
  handlers : List (Handler σ) := []
  propagates : Bool := true
  written : List (σ × Text) := []
deriving Repr, DecidableEq

namespace Log

/-- The namespace of all logger names. -/
def rootName : Text := "keycase_lint".toList

/-- A logger name inside the namespace; a name that is already inside stays. -/
def qualify (name : Text) : Text :=
  if name = rootName ∨ Text.startsWith (rootName ++ ['.']) name then name
  else rootName ++ '.' :: name

/-- The line of a record. -/
def line (verbose : Bool) (level : Level) (name message : Text) : Text :=
  "keycase-lint: ".toList ++ level.name ++
    (if verbose then " [".toList ++ qualify name ++ "] ".toList else ": ".toList) ++
    message ++ ['\n']

variable {σ : Type}

/-- The log with a new threshold and a new handler, which takes the place of all others. -/
def configure (log : Log σ) (verbose quiet : Bool) (stream : σ) : Log σ :=
  { log with
    rank := (Level.threshold verbose quiet).rank
    handlers := [⟨stream, verbose⟩]
    propagates := false }

/-- The log once its streams are replaced by new ones, on which nothing is written yet. A handler
keeps its stream, which is now the old one. -/
def renew (log : Log σ) (old : σ) : Log σ :=
  { log with handlers := log.handlers.map fun h => { h with stream := old }, written := [] }

/-- What is written of a record that no handler takes, where there is a stream of last resort. -/
def lastWords (resort : Option σ) (level : Level) (message : Text) : List (σ × Text) :=
  if Level.warning.rank ≤ level.rank then
    resort.toList.map fun stream => (stream, message ++ ['\n'])
  else []

/-- The log with a record, which every handler writes to its stream; without a handler, the stream
of last resort may get it. -/
def record (resort : Option σ) (log : Log σ) (level : Level) (name message : Text) : Log σ :=
  if log.rank ≤ level.rank then
    { log with
      written := log.written ++
        if log.handlers = [] then lastWords resort level message
        else log.handlers.map fun h => (h.stream, line h.verbose level name message) }
  else log

/-- The text written to a stream. -/
def textOf [DecidableEq σ] (log : Log σ) (stream : σ) : Text :=
  (log.written.filter fun w => w.1 = stream).flatMap Prod.snd

/-- What can happen to a log. -/
inductive Event (σ : Type) where
  /-- the log is configured for a user's wishes and a stream -/
  | configure (verbose quiet : Bool) (stream : σ)
  /-- a record is made under a logger name -/
  | record (level : Level) (name message : Text)
deriving Repr, DecidableEq

/-- The log after an event. -/
def apply (resort : Option σ) (log : Log σ) : Event σ → Log σ
  | .configure verbose quiet stream => log.configure verbose quiet stream
  | .record level name message => log.record resort level name message

/-- The log after several events. -/
def applyAll (resort : Option σ) (log : Log σ) (events : List (Event σ)) : Log σ :=
  events.foldl (apply resort) log

section
variable (resort : Option σ) (log : Log σ) (level : Level) (name message : Text)

/-- A record leaves the handlers of a log. -/
@[simp] theorem handlers_record :
    (log.record resort level name message).handlers = log.handlers := by
  unfold record
  split <;> rfl

/-- A record does not decide whether others are passed on. -/
@[simp] theorem propagates_record :
    (log.record resort level name message).propagates = log.propagates := by
  unfold record
  split <;> rfl

/-- A record leaves the threshold of a log. -/
@[simp] theorem rank_record :
    (log.record resort level name message).rank = log.rank := by
  unfold record
  split <;> rfl

variable [DecidableEq σ]

/-- Configuring a log writes nothing. -/
theorem textOf_configure (verbose quiet : Bool) (stream other : σ) :
    (log.configure verbose quiet stream).textOf other = log.textOf other := rfl

/-- A record that reaches the threshold adds a line for each handler of the stream, and nothing to
any other stream. -/
theorem textOf_record_of_handlers (h : log.handlers ≠ []) (stream : σ) :
    (log.record resort level name message).textOf stream =
      log.textOf stream ++
        if log.rank ≤ level.rank then
          (log.handlers.filter fun h => h.stream = stream).flatMap fun h =>
            line h.verbose level name message
        else [] := by
  unfold record
  split
  · simp only [textOf, List.filter_append, List.flatMap_append, List.filter_map, List.flatMap_map]
    rfl
  · rw [List.append_nil]

/-- Without a handler, a record that reaches the threshold adds its bare message to the stream of
last resort if it is a warning or graver, and nothing to any other stream. -/
theorem textOf_record_of_handlers_eq_nil (h : log.handlers = []) (stream : σ) :
    (log.record resort level name message).textOf stream =
      log.textOf stream ++
        if log.rank ≤ level.rank ∧ Level.warning.rank ≤ level.rank ∧ resort = some stream then
          message ++ ['\n']
        else [] := by
  unfold record lastWords
  by_cases hrank : log.rank ≤ level.rank
  · by_cases hgrave : Level.warning.rank ≤ level.rank
    · cases resort with
      | none => simp [h, hrank, textOf]
      | some last => by_cases hlast : last = stream <;> simp [h, hrank, hgrave, hlast, textOf]
    · simp [h, hrank, hgrave, textOf]
  · simp [hrank]

end

end Log

end TemplateLint
