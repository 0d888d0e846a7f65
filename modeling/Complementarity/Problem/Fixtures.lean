import Complementarity.Problem.Friction
import Complementarity.Problem.Relay

/-!
Small problems with known solutions.
-/

namespace Complementarity

variable {R : Type} [Scalar R]

namespace FrictionProblem

/-- One contact that closes and slides. The reaction `(1, -0.3, 0)` solves it, with the velocity
`(0, 0.2, 0)`. -/
def singleContact : Except (Error R) (FrictionProblem R) :=
  ofData 3 (.ofDiagonal [1, 1, 1]) [-1, 0.5, 0] [0.3]

/-- Two coupled contacts in space, both closed and sliding. -/
def twoContacts : Except (Error R) (FrictionProblem R) :=
  ofData 3
    (.ofRows
      [[1.5, 0.2, 0.1, 0.3, 0.05, 0],
        [0.2, 1.2, 0, 0, 0.1, 0.05],
        [0.1, 0, 1.1, 0.05, 0, 0.1],
        [0.3, 0, 0.05, 1.3, -0.1, 0],
        [0.05, 0.1, 0, -0.1, 1, 0.1],
        [0, 0.05, 0.1, 0, 0.1, 1.4]])
    [-1, 0.4, -0.2, -0.5, -0.6, 0.3] [0.3, 0.5]

/-- Two coupled contacts in the plane, both sliding. -/
def twoPlanarContacts : Except (Error R) (FrictionProblem R) :=
  ofData 2
    (.ofRows
      [[1.5, 0.2, 0.3, 0],
        [0.2, 1.2, 0, 0.1],
        [0.3, 0, 1.3, -0.1],
        [0, 0.1, -0.1, 1]])
    [-1, 0.4, -0.5, -0.6] [0.3, 0.5]

end FrictionProblem

/-- A coupled relay problem with two active bounds. The reaction `(8/9, -37/18, 7/9)` solves it, with
the velocity `(-0.5, 0.5, -1)`. -/
def RelayProblem.twoActiveBounds : Except (Error R) (RelayProblem R) :=
  ofData
    (.ofRows
      [[4.0, 1, 0],
        [1, 3.0, 1],
        [0, 1, 2.0]])
    [2.0, -5.0, 0.5] [1, 0.5, 2.0] [0.5, 1, 1]

end Complementarity
