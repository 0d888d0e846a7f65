import Complementarity.Problem.Friction
import Complementarity.Problem.Relay
import Complementarity.Random.Sampler

/-!
Random problems with a positive definite matrix.
-/

namespace Complementarity

variable {R : Type} [Scalar R]

/-- The matrix `G Gᵀ / n + I`, where the entries of `G` are drawn column by column. -/
def randomMatrix (sample : Sampler R) (n : Nat) : Mat R n n :=
  let g : Mat R n n := Mat.ofFn fun i j => sample (j.val * n + i.val) (-1) 1
  let product := Mat.mul g (Mat.transpose g)
  Mat.ofFn fun i j =>
    let entry := product.entry i j / Scalar.ofNat n
    if i = j then entry + 1 else entry

/-- So many samples from a range, from a given number on. -/
def samplesFrom (sample : Sampler R) (first count : Nat) (lo hi : R) : List R :=
  (List.range count).map fun i => sample (first + i) lo hi

/-- A contact problem in space whose contacts all close, with the same friction everywhere. -/
def FrictionProblem.random (sample : Sampler R) (contacts : Nat) (friction : R) :
    Except (Error R) (FrictionProblem R) :=
  let n := 3 * contacts
  let offset := (List.range n).map fun i =>
    sample (n * n + i) (-1) (if i % 3 = 0 then -0.1 else 1)
  ofData 3 (.ofMat (randomMatrix sample n)) offset (List.replicate contacts friction)

/-- A relay problem whose box holds the origin. -/
def RelayProblem.random (sample : Sampler R) (n : Nat) : Except (Error R) (RelayProblem R) :=
  let first := n * n
  ofData (.ofMat (randomMatrix sample n)) (samplesFrom sample first n (-2.0) 2.0)
    (samplesFrom sample (first + n) n 0.5 1.5) (samplesFrom sample (first + 2 * n) n 0.5 1.5)

end Complementarity
