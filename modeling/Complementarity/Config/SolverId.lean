/-!
The algorithms the library knows, with their stable codes and names.

Names identify an algorithm in configuration texts, codes in the positional form; neither is reused.
-/

namespace Complementarity

/-- The class of problems an algorithm is written for. -/
inductive Family where
  /-- Box constrained problems. -/
  | relay
  /-- Frictional contact in the plane. -/
  | frictionContact2D
  /-- Frictional contact in space. -/
  | frictionContact3D
  /-- The sub-problem of a single contact. -/
  | oneContact
  deriving DecidableEq

/-- The name of a family in messages. -/
def Family.name : Family → String
  | relay => "Relay"
  | frictionContact2D => "FrictionContact2D"
  | frictionContact3D => "FrictionContact3D"
  | oneContact => "OneContact"

/-- The algorithms. -/
inductive SolverId where
  /-- Projected Gauss-Seidel for relay problems. -/
  | relayGaussSeidel
  /-- The LATIN method for relay problems. -/
  | relayLatin
  /-- Nonsmooth Gauss-Seidel in the plane. -/
  | planarGaussSeidel
  /-- Nonsmooth Gauss-Seidel in space. -/
  | gaussSeidel
  /-- A sequence of Tresca problems. -/
  | trescaFixedPoint
  /-- Projection steps of constant size on the De Saxcé form. -/
  | deSaxceFixedPoint
  /-- Projection steps of adapted size. -/
  | fixedPointProjection
  /-- Predictor and corrector steps of adapted size. -/
  | extraGradient
  /-- Steps towards a separating hyperplane. -/
  | hyperplaneProjection
  /-- One contact: a single projection onto the cone. -/
  | coneProjection
  /-- One contact: repeated projections onto the cone. -/
  | coneIteration
  /-- One contact: a single projection onto the cylinder. -/
  | cylinderProjection
  /-- One contact: Newton's method on the Alart-Curnier equation. -/
  | newton
  deriving DecidableEq

namespace SolverId

/-- Every algorithm, by increasing code. -/
def all : List SolverId :=
  [relayGaussSeidel, relayLatin, planarGaussSeidel, gaussSeidel, trescaFixedPoint,
    deSaxceFixedPoint, fixedPointProjection, extraGradient, hyperplaneProjection,
    coneProjection, coneIteration, cylinderProjection, newton]

/-- The stable number of an algorithm. -/
def code : SolverId → Int
  | relayGaussSeidel => 300
  | relayLatin => 301
  | planarGaussSeidel => 400
  | gaussSeidel => 500
  | trescaFixedPoint => 501
  | deSaxceFixedPoint => 502
  | fixedPointProjection => 503
  | extraGradient => 504
  | hyperplaneProjection => 505
  | coneProjection => 550
  | coneIteration => 551
  | cylinderProjection => 552
  | newton => 553

/-- The stable name of an algorithm. -/
def name : SolverId → String
  | relayGaussSeidel => "DR_PGS"
  | relayLatin => "DR_LATIN"
  | planarGaussSeidel => "F2D_NSGS"
  | gaussSeidel => "F3D_NSGS"
  | trescaFixedPoint => "F3D_TFP"
  | deSaxceFixedPoint => "F3D_DeSaxceFixedPoint"
  | fixedPointProjection => "F3D_FixedPointProjection"
  | extraGradient => "F3D_ExtraGradient"
  | hyperplaneProjection => "F3D_HyperplaneProjection"
  | coneProjection => "F3D_ProjectionOnCone"
  | coneIteration => "F3D_ProjectionOnConeWithLocalIteration"
  | cylinderProjection => "F3D_projectionOnCylinder"
  | newton => "F3D_LOCAL_NSN_AC"

/-- The algorithm of a number. -/
def ofCode? (code : Int) : Option SolverId :=
  all.find? fun id => id.code == code

/-- The algorithm of a name. -/
def ofName? (name : String) : Option SolverId :=
  all.find? fun id => id.name == name

/-- The class of problems an algorithm solves. -/
def family : SolverId → Family
  | relayGaussSeidel | relayLatin => .relay
  | planarGaussSeidel => .frictionContact2D
  | gaussSeidel | trescaFixedPoint | deSaxceFixedPoint | fixedPointProjection
  | extraGradient | hyperplaneProjection => .frictionContact3D
  | coneProjection | coneIteration | cylinderProjection | newton => .oneContact

/-- The step parameter of the algorithm is the length of a step. -/
def usesStepSize : SolverId → Bool
  | deSaxceFixedPoint | fixedPointProjection | extraGradient | hyperplaneProjection
  | coneIteration => true
  | _ => false

/-- The shrink parameter of the algorithm shortens a step during a search. -/
def usesStepShrink : SolverId → Bool
  | fixedPointProjection | extraGradient | hyperplaneProjection | coneIteration | newton => true
  | _ => false

/-- The algorithms that may run inside this one; `none` if it takes no internal algorithm. -/
def allowedInternal? : SolverId → Option (List SolverId)
  | gaussSeidel => some [coneProjection, coneIteration, cylinderProjection, newton]
  | trescaFixedPoint => some [gaussSeidel]
  | _ => none

end SolverId

end Complementarity
