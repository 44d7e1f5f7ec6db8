import TemplateLint.Log.Basic
import TemplateLint.Proofs.Basic

/-!
# The log after any history

What a log is and what it has written after any events can be read off the events: its threshold
and its only handler are those of the latest configuration (`latest`), and the text of a stream is
made of the lines of those records whose latest configuration before them sends them there and does
not hold them back (`lineAt`). Only on the stream of last resort do the bare messages of earlier
warnings stand in front of them. One event keeps a log in step with its history (`Follows.apply`),
so a whole run does. What comes before a configuration changes nothing of what is written after it.
-/

namespace TemplateLint.Log

variable {σ : Type}

/-- What a log is configured with. -/
structure Setup (σ : Type) where
  verbose : Bool
  quiet : Bool
  stream : σ
deriving Repr, DecidableEq

/-- The level from which on records are written. -/
def Setup.threshold (s : Setup σ) : Level := Level.threshold s.verbose s.quiet

/-- The configuration that an event is, if it is one. -/
def Event.setup? : Event σ → Option (Setup σ)
  | .configure verbose quiet stream => some ⟨verbose, quiet, stream⟩
  | .record _ _ _ => none

/-- The latest configuration among events. -/
def latest (events : List (Event σ)) : Option (Setup σ) :=
  (events.filterMap Event.setup?).getLast?

/-- The line that the event at a place of a history puts on a stream: that of a record whose latest
configuration before it has the stream and a threshold that the record reaches, or the bare message
of a warning with no configuration before it, if the stream is the one of last resort. -/
def lineAt [DecidableEq σ] (resort : Option σ) (events : List (Event σ)) (stream : σ) (i : Nat) :
    Option Text :=
  match events[i]?, latest (events.take i) with
  | some (.record level name message), some s =>
    if s.stream = stream ∧ s.threshold.rank ≤ level.rank then
      some (line s.verbose level name message)
    else none
  | some (.record level _ message), none =>
    if resort = some stream ∧ Level.warning.rank ≤ level.rank then some (message ++ ['\n'])
    else none
  | _, _ => none

/-- The text of a stream that a history asks for. -/
def expectedText [DecidableEq σ] (resort : Option σ) (events : List (Event σ)) (stream : σ) :
    Text :=
  ((List.range events.length).filterMap (lineAt resort events stream)).flatten

/-- A configuration is the latest once it is made. -/
theorem latest_configure (events : List (Event σ)) (verbose quiet : Bool) (stream : σ) :
    latest (events ++ [.configure verbose quiet stream]) = some ⟨verbose, quiet, stream⟩ := by
  simp [latest, Event.setup?]

/-- A record leaves the latest configuration. -/
theorem latest_record (events : List (Event σ)) (level : Level) (name message : Text) :
    latest (events ++ [.record level name message]) = latest events := by
  simp [latest, Event.setup?]

section
variable [DecidableEq σ] (resort : Option σ)

private theorem lineAt_append {events : List (Event σ)} {i : Nat} (h : i < events.length)
    (stream : σ) (more : List (Event σ)) :
    lineAt resort (events ++ more) stream i = lineAt resort events stream i := by
  unfold lineAt
  rw [List.getElem?_append_left h, List.take_append_of_le_length (Nat.le_of_lt h)]

/-- The text of a stream grows by the line of the last event, if it has one. -/
theorem expectedText_append (events : List (Event σ)) (e : Event σ) (stream : σ) :
    expectedText resort (events ++ [e]) stream =
      expectedText resort events stream ++
        (lineAt resort (events ++ [e]) stream events.length).getD [] := by
  have hbefore : (List.range events.length).filterMap (lineAt resort (events ++ [e]) stream) =
      (List.range events.length).filterMap (lineAt resort events stream) := by
    apply List.filterMap_congr
    intro i hi
    exact lineAt_append resort (List.mem_range.mp hi) stream [e]
  unfold expectedText
  rw [List.length_append, List.length_singleton, List.range_succ, List.filterMap_append, hbefore,
    List.flatten_append]
  congr 1
  cases h : lineAt resort (events ++ [e]) stream events.length with
  | none => simp [h]
  | some text => simp [h]

private theorem expectedText_configure (events : List (Event σ)) (verbose quiet : Bool)
    (stream other : σ) :
    expectedText resort (events ++ [.configure verbose quiet stream]) other =
      expectedText resort events other := by
  rw [expectedText_append]
  simp [lineAt]

private theorem expectedText_record (events : List (Event σ)) (level : Level) (name message : Text)
    (stream : σ) :
    expectedText resort (events ++ [.record level name message]) stream =
      expectedText resort events stream ++
        match latest events with
        | none =>
          if resort = some stream ∧ Level.warning.rank ≤ level.rank then message ++ ['\n'] else []
        | some s =>
          if s.stream = stream ∧ s.threshold.rank ≤ level.rank then
            line s.verbose level name message
          else [] := by
  rw [expectedText_append]
  unfold lineAt
  rw [List.getElem?_concat_length, List.take_left]
  cases latest events with
  | none =>
    by_cases hs : resort = some stream ∧ Level.warning.rank ≤ level.rank
    · simp [hs]
    · simp [hs]
  | some s =>
    by_cases hs : s.stream = stream ∧ s.threshold.rank ≤ level.rank
    · simp [hs]
    · simp [hs]

/-- A log is what the events up to now ask for. -/
structure Follows (log : Log σ) (events : List (Event σ)) : Prop where
  handlers_eq : log.handlers = ((latest events).map fun s => ⟨s.stream, s.verbose⟩).toList
  propagates_eq : log.propagates = (latest events).isNone
  rank_eq : log.rank = ((latest events).map fun s => s.threshold.rank).getD 0
  textOf_eq : ∀ stream, log.textOf stream = expectedText resort events stream

variable {resort}

private theorem Follows.configure {log : Log σ} {events : List (Event σ)}
    (h : Follows resort log events) (verbose quiet : Bool) (stream : σ) :
    Follows resort (log.configure verbose quiet stream)
      (events ++ [.configure verbose quiet stream]) where
  handlers_eq := by
    rw [latest_configure]
    rfl
  propagates_eq := by
    rw [latest_configure]
    rfl
  rank_eq := by
    rw [latest_configure]
    rfl
  textOf_eq other := by
    rw [textOf_configure, h.textOf_eq, expectedText_configure]

private theorem Follows.textOf_record {log : Log σ} {events : List (Event σ)}
    (h : Follows resort log events) (level : Level) (name message : Text) (stream : σ) :
    (log.record resort level name message).textOf stream =
      expectedText resort (events ++ [.record level name message]) stream := by
  have hhandlers := h.handlers_eq
  have hrank := h.rank_eq
  rw [expectedText_record, ← h.textOf_eq]
  cases hlatest : latest events with
  | none =>
    rw [hlatest] at hhandlers hrank
    rw [textOf_record_of_handlers_eq_nil resort log level name message hhandlers]
    congr 1
    -- A new log has the threshold zero, which every warning reaches.
    by_cases hgrave : Level.warning.rank ≤ level.rank
    · have hzero : log.rank = 0 := hrank
      have hreached : log.rank ≤ level.rank := by
        rw [hzero]
        exact le_trans (by decide : 0 ≤ Level.warning.rank) hgrave
      simp [hreached, hgrave]
    · simp [hgrave]
  | some s =>
    rw [hlatest] at hhandlers hrank
    have hsome : log.handlers ≠ [] := by
      rw [hhandlers]
      exact List.cons_ne_nil _ _
    rw [textOf_record_of_handlers resort log level name message hsome, hhandlers, hrank]
    congr 1
    -- With one handler, the record is written to its stream or nowhere.
    by_cases hs : s.stream = stream
    · simp [hs]
    · simp [hs]

private theorem Follows.record {log : Log σ} {events : List (Event σ)}
    (h : Follows resort log events) (level : Level) (name message : Text) :
    Follows resort (log.record resort level name message)
      (events ++ [.record level name message]) where
  handlers_eq := by rw [handlers_record, latest_record, h.handlers_eq]
  propagates_eq := by rw [propagates_record, latest_record, h.propagates_eq]
  rank_eq := by rw [rank_record, latest_record, h.rank_eq]
  textOf_eq stream := h.textOf_record level name message stream

/-- An event keeps a log in step with its history. -/
theorem Follows.apply {log : Log σ} {events : List (Event σ)} (h : Follows resort log events)
    (e : Event σ) : Follows resort (log.apply resort e) (events ++ [e]) := by
  cases e with
  | configure verbose quiet stream => exact h.configure verbose quiet stream
  | record level name message => exact h.record level name message

end

/-! ### What comes before a configuration -/

/-- A log behind lines that were written earlier. -/
def behind (earlier : List (σ × Text)) (log : Log σ) : Log σ :=
  { log with written := earlier ++ log.written }

section
variable (resort : Option σ)

private theorem apply_behind (earlier : List (σ × Text)) (log : Log σ) (e : Event σ) :
    (log.behind earlier).apply resort e = (log.apply resort e).behind earlier := by
  cases e with
  | configure verbose quiet stream => rfl
  | record level name message =>
    by_cases hr : log.rank ≤ level.rank
    · by_cases hnone : log.handlers = []
      · simp [apply, record, behind, hr, hnone]
      · simp [apply, record, behind, hr, hnone]
    · simp [apply, record, behind, hr]

private theorem applyAll_behind (earlier : List (σ × Text)) (log : Log σ)
    (events : List (Event σ)) :
    (log.behind earlier).applyAll resort events = (log.applyAll resort events).behind earlier := by
  induction events generalizing log with
  | nil => rfl
  | cons e events ih =>
    unfold applyAll
    rw [List.foldl_cons, List.foldl_cons, apply_behind]
    exact ih (log.apply resort e)

/-- From a configuration on, any log does what a new one does, behind what was written before. -/
theorem applyAll_configure (log : Log σ) (verbose quiet : Bool) (stream : σ)
    (events : List (Event σ)) :
    log.applyAll resort (.configure verbose quiet stream :: events) =
      (({} : Log σ).applyAll resort (.configure verbose quiet stream :: events)).behind
        log.written := by
  have hstart : log.apply resort (.configure verbose quiet stream) =
      (({} : Log σ).apply resort (.configure verbose quiet stream)).behind log.written := by
    simp [apply, configure, behind]
  unfold applyAll
  rw [List.foldl_cons, hstart]
  exact applyAll_behind _ _ _ _

end

/-- The text of a stream starts with what was written earlier. -/
theorem textOf_behind [DecidableEq σ] (log earlier : Log σ) (stream : σ) :
    (log.behind earlier.written).textOf stream = earlier.textOf stream ++ log.textOf stream := by
  simp [textOf, behind]

end TemplateLint.Log
