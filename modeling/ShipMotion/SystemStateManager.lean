import Mathlib.Data.Nat.Notation

/-!
# What the modules report

The enumerations of `SystemStateManager`, the arguments of a `reportError` call, and the
notices a function leaves behind: log lines, error reports and wake-ups, in the order it
makes them. Then the manager itself: the system state, the last error, and the callbacks a
report goes to.
-/

namespace ShipMotion

inductive ModuleType where
  | acquirer | fuser | sixDofCalc | outputter
  deriving DecidableEq, Repr

inductive ErrorLevel where
  | statusOk | statusWarning | statusError | statusFatal
  deriving DecidableEq, Repr

/-- The arguments of `SystemStateManager::reportError`. -/
structure ErrorReport where
  module : ModuleType
  level : ErrorLevel
  msg : String
  deriving DecidableEq, Repr

inductive LogLevel where
  | debug | info | warn | error
  deriving DecidableEq, Repr

/-- What a function tells the rest of the program besides its result. -/
inductive Notice where
  | log (level : LogLevel) (tag msg : String)
  | reportError (report : ErrorReport)
  | notifyOne
  deriving DecidableEq, Repr

inductive SystemState where
  | idle | initializing | running | paused | runError | fatalError | exiting
  deriving DecidableEq, Repr

/-- The value an `ErrorLevel` has in the source, by which levels are compared. -/
def ErrorLevel.toNat : ErrorLevel → ℕ
  | .statusOk => 0
  | .statusWarning => 1
  | .statusError => 2
  | .statusFatal => 3

structure SystemError where
  module : ModuleType
  level : ErrorLevel
  message : String
  timestamp : ℕ
  need_push : Bool
  deriving DecidableEq, Repr

/-- The members of `SystemStateManager`. Of a callback only its presence is kept: what it
returns or throws is ignored. -/
structure SystemStateManager where
  system_state_ : SystemState
  has_error_ : Bool
  last_error_ : SystemError
  push_callback_ : Bool
  db_callback_ : Bool
  deriving DecidableEq, Repr

/-- A callback call. -/
inductive ErrorCallback where
  | push (err : SystemError)
  | writeDB (err : SystemError)
  deriving DecidableEq, Repr

namespace SystemStateManager

def setState (self : SystemStateManager) (state : SystemState) : SystemStateManager :=
  { self with system_state_ := state }

def getState (self : SystemStateManager) : SystemState := self.system_state_

def doPush (self : SystemStateManager) (err : SystemError) : List ErrorCallback :=
  if self.push_callback_ && err.need_push then [.push err] else []

def doWriteDB (self : SystemStateManager) (err : SystemError) : List ErrorCallback :=
  if self.db_callback_ && err.need_push then [.writeDB err] else []

/-- `reportError(module, level, msg)` at the time `now`, with the callback calls it makes. -/
def reportError (self : SystemStateManager) (now : ℕ) (report : ErrorReport) :
    SystemStateManager × List ErrorCallback :=
  let err : SystemError :=
    { module := report.module, level := report.level, message := report.msg, timestamp := now
      need_push := report.level != .statusOk }
  let self := { self with
    last_error_ := err
    has_error_ := decide (ErrorLevel.statusWarning.toNat ≤ report.level.toNat) }
  let self :=
    if report.level = .statusFatal then self.setState .fatalError
    else if report.level = .statusError then self.setState .runError
    else self
  (self, self.doPush err ++ self.doWriteDB err)

/-- The test at the top of `outputLoop`: leave the loop. -/
def outputLoopExits (self : SystemStateManager) : Bool := self.getState = .fatalError

end SystemStateManager

end ShipMotion
