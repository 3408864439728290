import Agreement.Log

/-!
# Commands

What can be asked for on the command line, once its words are read.
-/

namespace Agreement.CommandLine

/-- The flags that ask for an alignment. -/
structure AlignmentArgs where
  ergative : Bool := false
  accusative : Bool := false
deriving Repr, DecidableEq

/-- The alignment asked for, or `default` if there is no flag. -/
def AlignmentArgs.resolve (args : AlignmentArgs) (default : Alignment) : Alignment :=
  if args.ergative then .ergative
  else if args.accusative then .accusative
  else default

inductive Command where
  | list
  | table (language : String) (alignment : AlignmentArgs) (gapMarker : Option String)
  /-- Write the account of a cell, with a pause after each stage if `step`. -/
  | derive (language cell : String) (step : Bool) (alignment : AlignmentArgs)
deriving Repr, DecidableEq

/-- A command and how much is to be told about its execution. -/
structure Invocation where
  verbosity : Nat
  command : Command
deriving Repr, DecidableEq

/-- The least severe level that is reported. -/
def Invocation.level (i : Invocation) : Level :=
  match i.verbosity with
  | 0 => .warn
  | 1 => .info
  | 2 => .debug
  | _ => .trace

end Agreement.CommandLine
