/-!
# Log records

A run returns what it logged as a list of records. A threshold decides afterwards which of them are
kept: one that admits a level admits all graver ones.
-/

namespace RootFinding.Log

/-- The gravity of a record, from the gravest to the most detailed. -/
inductive Level where
  | error
  | warn
  | info
  | debug
  | trace
deriving DecidableEq, Repr

namespace Level

/-- The name of a level as it stands before a logged text. -/
def name : Level → String
  | error => "ERROR"
  | warn => "WARN"
  | info => "INFO"
  | debug => "DEBUG"
  | trace => "TRACE"

/-- How detailed a level is; zero is left for "nothing at all". -/
def detail : Level → Nat
  | error => 1
  | warn => 2
  | info => 3
  | debug => 4
  | trace => 5

end Level

/-- The most detailed level that is kept, if any. -/
abbrev Threshold := Option Level

/-- Whether records of a level are kept. -/
def Threshold.admits (most : Threshold) (level : Level) : Bool :=
  level.detail ≤ (most.map Level.detail).getD 0

/-- One logged text and its level. -/
structure Entry where
  level : Level
  text : String
deriving DecidableEq, Repr

/-- The line an entry is shown as. -/
def Entry.line (e : Entry) : String := e.level.name ++ " " ++ e.text

/-- The entries that a threshold keeps, in order. -/
def kept (most : Threshold) (entries : List Entry) : List Entry :=
  entries.filter fun e => most.admits e.level

end RootFinding.Log
