/-!
The fields of a configuration text.
-/

namespace Complementarity

/-- The fields of a node in a text. -/
inductive Field where
  | solver
  | isSet
  | verbosity
  | integers
  | reals
  | internal
  deriving DecidableEq

namespace Field

/-- Every field, in the order in which they are written. -/
def all : List Field :=
  [solver, isSet, verbosity, integers, reals, internal]

/-- The name of a field in a text. -/
def name : Field → String
  | solver => "solver_id"
  | isSet => "is_set"
  | verbosity => "verbose"
  | integers => "iparam"
  | reals => "dparam"
  | internal => "internal_solver"

/-- The field of a name. -/
def ofName? (name : String) : Option Field :=
  all.find? fun field => field.name == name

end Field

/-- The name in front of the fields of a node. -/
def nodeName : String := "SolverOptions"

/-- Texts hold at most so many nodes below the outermost one. -/
def linkLimit : Nat := 41

end Complementarity
