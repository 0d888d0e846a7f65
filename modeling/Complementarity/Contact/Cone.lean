import Complementarity.Contact.Block

/-!
Projections onto the sets of admissible contact reactions: the friction cone, whose section grows
with the normal component, and the cylinder, whose section has a fixed radius.
-/

namespace Complementarity

/-- Where a block was found before its projection onto the cone. -/
inductive ConeRegion where
  /-- In the polar cone; it goes to the apex. -/
  | polar
  /-- In the cone; it stays. -/
  | inside
  /-- Elsewhere; it goes to the boundary of the cone. -/
  | boundary
  deriving DecidableEq

/-- The name of a region. -/
def ConeRegion.name : ConeRegion → String
  | polar => "Polar"
  | inside => "Inside"
  | boundary => "Boundary"

variable {R : Type} [Scalar R] {t : Nat}

/-- Projects a block onto the cone where the tangential norm is at most `mu` times the normal. -/
@[specialize] def projectOnCone (mu : R) (r : Block R t) : ConeRegion × Block R t :=
  let norm := r.tangentNorm
  if mu * norm ≤ -r.normal then
    (.polar, Vec.zero (t + 1))
  else if norm ≤ mu * r.normal then
    (.inside, r)
  else
    let normal := (mu * norm + r.normal) / (mu * mu + 1)
    (.boundary, Block.ofParts normal (Vec.scale (mu * normal / norm) r.tangent))

/-- Projects a block onto the cylinder of the given radius over the non-negative normals. -/
@[specialize] def projectOnCylinder (radius : R) (r : Block R t) : Block R t :=
  let normal := Scalar.greater r.normal 0
  let norm := r.tangentNorm
  if radius < norm then
    Block.ofParts normal (Vec.scale (Scalar.greater radius 0 / norm) r.tangent)
  else
    Block.ofParts normal r.tangent

/-- The De Saxcé correction: the normal velocity grows by `mu` times the tangential speed. -/
@[specialize] def deSaxce (mu : R) (u : Block R t) : Block R t :=
  Block.ofParts (u.normal + mu * u.tangentNorm) u.tangent

/-- The squared distance by which a unit step against `velocity` moves a reaction on the cone. -/
@[specialize] def coneResidualSq (mu : R) (r velocity : Block R t) : R :=
  Vec.distSq r (projectOnCone mu (Vec.sub r velocity)).2

/-- The squared error of a contact: zero exactly if the reaction and its velocity obey the law. -/
@[specialize] def contactErrorSq (mu : R) (r u : Block R t) : R :=
  coneResidualSq mu r (deSaxce mu u)

/-- The squared error of a contact with respect to a fixed friction threshold. -/
@[specialize] def thresholdErrorSq (threshold : R) (r u : Block R t) : R :=
  Vec.distSq r (projectOnCylinder threshold (Vec.sub r u))

end Complementarity
