import SqlTemplate.Quoter

/-!
# Profiles

A profile holds the settings of an expander: the target whose quoter is used, and two switches for
the log.  How a profile is made from named fields is not said here.
-/

namespace SqlTemplate

/-- A database that has a quoter of its own. -/
inductive Target where
  | mysql
  | sqlite
deriving DecidableEq, Repr

/-- The name of a target. -/
def Target.name : Target → String
  | mysql => "mysql"
  | sqlite => "sqlite"

/-- The quoter of a target. -/
def Target.quoter : Target → Quoter
  | mysql => .mysql
  | sqlite => .sqlite

/-- The settings of an expander. -/
structure Profile where
  target : Target := .mysql
  /-- Whether every expanded statement is logged. -/
  logExpanded : Bool := false
  /-- Whether parameters that are left over are worth a warning. -/
  warnUnconsumed : Bool := true
deriving DecidableEq, Repr

end SqlTemplate
