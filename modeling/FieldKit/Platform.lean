/-
  File:      FieldKit/Platform.lean
  Subject:   What every part of the firmware shares: the millisecond clock, bytes and the result
             of a task's poll.

  `fk_uptime()` is a `uint32_t` of milliseconds that wraps; it is read as `BitVec 32`, so that
  sums and differences of readings wrap exactly where the code's do. A function of the source
  that reads the clock takes its readings from the environment (`Clock`): nothing is assumed of
  them, not even that they grow.
-/
import Mathlib.Data.BitVec

namespace FieldKit

/-- A byte of a stream or of a message. -/
abbrev Byte := BitVec 8

/-- A reading of `fk_uptime()`, or an interval between two. -/
abbrev Uptime := BitVec 32

/-- `Seconds` of tuning.h. -/
def seconds : Uptime := 1000

/-- `Minutes` of tuning.h. -/
def minutes : Uptime := 60 * seconds

/-- What one poll reads from `fk_uptime()`, in the order in which it asks: against `checkAt` (or
    as the start of a transaction), for `dieAt`, for the next `checkAt`, for `doneAt`, for the
    elapsed time, and for the delay of a busy retry. -/
structure Clock where
  checked : Uptime
  timed : Uptime
  delayed : Uptime
  finished : Uptime
  ended : Uptime
  retried : Uptime
  deriving DecidableEq, Repr

/-- A poll so short that all its readings are the same. -/
def Clock.still (now : Uptime) : Clock := ⟨now, now, now, now, now, now⟩

/-- `TaskEvalState`: the result of one `Task::task()`. -/
inductive TaskEval where
  | idle
  | busy
  | done
  | error
  deriving DecidableEq, Repr

/-- `is_task_running`: the driver loops stop at `done` and at `error`. -/
def TaskEval.isRunning : TaskEval → Bool
  | .idle | .busy => true
  | .done | .error => false

end FieldKit
