import Formwork.Automation.Rule
import Formwork.Text.Case
import Formwork.Data.Reading
/-!
Logs. A record is written if its level reaches the threshold of its logger; some of what a caller
adds to a record becomes part of the entry. Entries go to the console and, where that is asked for,
to a file of all entries and a file of errors.
-/
namespace Formwork

open Document

namespace Log

inductive Level where
  | unset
  | debug
  | info
  | warning
  | error
  | critical
  deriving DecidableEq

namespace Level

def name : Level → String
  | unset => "NOTSET"
  | debug => "DEBUG"
  | info => "INFO"
  | warning => "WARNING"
  | error => "ERROR"
  | critical => "CRITICAL"

def rank : Level → Nat
  | unset => 0
  | debug => 10
  | info => 20
  | warning => 30
  | error => 40
  | critical => 50

instance : Named Level where
  all := [unset, debug, info, warning, error, critical]
  name := name

/-- The layout of plain lines, whose name is no word for a level. -/
def plainLayout : String := "%(levelname)s:%(name)s:%(message)s"

/-- The level that a word in any case asks for; a word without a meaning asks for the usual one. -/
def ofWord (word : String) : Except Failure Level :=
  match Text.upper word with
  | "BASIC_FORMAT" => .error (.noLevel plainLayout)
  | "WARN" => .ok .warning
  | "FATAL" => .ok .critical
  | name => .ok ((Named.ofName? Level name).getD .info)

end Level

/-- How logs are written. -/
structure Setup where
  threshold : Level := .info
  toFiles : Bool := false
  /-- What ties the entries of one request together. -/
  correlation : Value := .null

structure Record where
  level : Level
  logger : String := "t"
  message : Value
  extra : Entries Value := []

/-- The names of extra parts that become part of an entry. -/
def promoted : List String :=
  ["submission_id", "step_id", "action_id", "rule_id", "approver_id", "trigger", "status",
    "strategy", "field_id"]

/-- The names of what every record has, and of what is made of it. -/
def reserved : List String :=
  ["message", "asctime", "name", "msg", "args", "levelname", "levelno", "pathname", "filename",
    "module", "exc_info", "exc_text", "stack_info", "lineno", "funcName", "created", "msecs",
    "relativeCreated", "thread", "threadName", "processName", "process"]

/-- Loggers of the timer write no less than warnings into files. -/
def isTimer (logger : String) : Bool :=
  logger == "apscheduler" || "apscheduler.".toList.isPrefixOf logger.toList

/-- The threshold of a logger. -/
def Setup.thresholdOf (s : Setup) (logger : String) : Level :=
  if s.toFiles && isTimer logger then .warning else s.threshold

namespace Record

/-- Extra parts, of which none may bear a name that every record has. -/
def check (r : Record) : Except Failure Unit :=
  match r.extra.names.find? reserved.contains with
  | none => .ok ()
  | some name => .error (.reservedName name)

/-- What ties a record to others: its own mark, or that of the setup. -/
def correlation (r : Record) (s : Setup) : Value :=
  match r.extra.get? "correlation_id" with
  | some v => if v.truthy then v else s.correlation
  | none => s.correlation

/-- The entry of a record, unless it cannot be written. -/
def line? (r : Record) (s : Setup) : Option Value := do
  let message ← r.message.display?
  let mark := r.correlation s
  let entry : Value := .map ([("level", .text r.level.name), ("logger", .text r.logger),
      ("message", .text message)] ++
    (if mark.truthy then [("correlation_id", mark)] else []) ++
    promoted.filterMap fun name => (r.extra.get? name).map fun v => (name, v))
  if entry.isWritable then some entry else none

end Record

/-- The records that are written, in their order. -/
def Setup.written (s : Setup) : List Record → Except Failure (List Record)
  | [] => .ok []
  | r :: rest =>
    if (s.thresholdOf r.logger).rank ≤ r.level.rank then do
      r.check
      pure (r :: (← s.written rest))
    else s.written rest

/-- The records that go to the file of errors. -/
def errors (records : List Record) : List Record :=
  records.filter fun r => Level.error.rank ≤ r.level.rank

end Log
end Formwork
