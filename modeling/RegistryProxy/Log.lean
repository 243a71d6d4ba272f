/-!
# Log — what an operator is told

Operations that warn return their entries, in order, beside their result.
-/

namespace RegistryProxy

/-- How bad it is. -/
inductive LogLevel where
  /-- Something to look at. -/
  | warn
  /-- Something to repair. -/
  | error
  deriving DecidableEq, Repr

/-- One entry of the log. -/
structure LogEntry where
  /-- How bad it is. -/
  level : LogLevel
  /-- What happened. -/
  message : String
  deriving DecidableEq, Repr

/-- Entries of the log, oldest first. -/
abbrev Log := List LogEntry

/-- A warning. -/
def LogEntry.warning (message : String) : LogEntry := ⟨.warn, message⟩

/-- The entry as a line. -/
def LogEntry.line (e : LogEntry) : String :=
  (match e.level with
    | .warn => "WARN "
    | .error => "ERROR ") ++ e.message

end RegistryProxy
