/-!
# Log records

What a run reports besides its answer: records of four levels, in order. Actions that report are
computations with the log as their state; an action that fails keeps what it reported.

## Main definitions

* `Level`, `LogRecord`, `Log`
* `Logged`, `Attempt` — actions that report, and such that may fail
* `report` — one record more
-/

namespace HostBindings

/-- The levels of records, from the least urgent. -/
inductive Level where
  | debug
  | info
  | warning
  | error
  deriving DecidableEq, Repr

namespace Level

/-- The name of a level. -/
def name : Level → String
  | debug => "DEBUG"
  | info => "INFO"
  | warning => "WARNING"
  | error => "ERROR"

/-- The number of a level, by which levels are compared. -/
def rank : Level → Nat
  | debug => 10
  | info => 20
  | warning => 30
  | error => 40

end Level

/-- A record. -/
structure LogRecord where
  /-- Its level. -/
  level : Level
  /-- Its text. -/
  message : String
  deriving DecidableEq, Repr

/-- Records in order. -/
abbrev Log := List LogRecord

/-- An action that reports. -/
abbrev Logged := StateM Log

/-- An action that reports and may fail. -/
abbrev Attempt (ε : Type) := ExceptT ε Logged

namespace Attempt

/-- A result as an attempt that reports nothing. -/
def ofExcept (result : Except ε α) : Attempt ε α :=
  match result with
  | .ok value => pure value
  | .error error => throw error

/-- An attempt with its result as a value. -/
def outcome (attempt : Attempt ε α) : Logged (Except ε α) := attempt.run

/-- An attempt with other errors. -/
def mapError (attempt : Attempt ε α) (change : ε → ε') : Attempt ε' α :=
  ExceptT.adapt change attempt

end Attempt

/-- Reports one record. -/
def report [MonadStateOf Log m] (level : Level) (message : String) : m Unit :=
  modifyThe Log (· ++ [⟨level, message⟩])

/-- The records of a level or above. -/
def Log.atLeast (log : Log) (rank : Nat) : Log :=
  log.filter fun entry => rank ≤ entry.level.rank

end HostBindings
