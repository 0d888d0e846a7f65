import Complementarity.Dispatch.Dispatcher
import Complementarity.Proofs.DefaultFilling

/-!
A verbosity for the time of a call.

A call sets the verbosity of the outermost node, completes the configuration, records its outcome
there and sets the verbosity back. None of these steps looks at what another one changes, so a call
leaves what it would leave had it worked on a copy, and every node has its own verbosity again
(`solve_eq`).
-/

namespace Complementarity

variable {R P : Type}

theorem Traced.bind_pure_bind_pure {A B C : Type} (run : Traced R A) (f : A → B) (g : B → C) :
    (run >>= fun a => pure (f a)) >>= (fun b => pure (g b)) = run >>= fun a => pure (g (f a)) :=
  congrArg (Traced.mk _) (List.append_nil _)

namespace ConfigTree

variable {tree : ConfigTree R}

@[simp] theorem withVerbosity_withVerbosity (tree : ConfigTree R) (verbosity verbosity' : UInt8) :
    (tree.withVerbosity verbosity).withVerbosity verbosity' = tree.withVerbosity verbosity' := by
  cases tree <;> rfl

theorem withVerbosity_of_eq {verbosity : UInt8} (h : tree.root.verbosity = verbosity) :
    tree.withVerbosity verbosity = tree := by
  subst h
  cases tree <;> rfl

theorem fillDefaults_withVerbosity [Scalar R] (tree : ConfigTree R) (verbosity : UInt8) :
    (tree.withVerbosity verbosity).fillDefaults = tree.fillDefaults.withVerbosity verbosity := by
  cases tree with
  | leaf node =>
    change (ConfigTree.leaf { node with verbosity }).fillDefaults = _
    rw [fillDefaults_leaf, fillDefaults_leaf]
    dsimp only
    split
    · rfl
    · cases (node.solver.defaultInternal? : Option (ConfigTree R)) <;> rfl
  | above node internal =>
    change ConfigTree.above (Node.filled { node with verbosity }) _ =
      ConfigTree.above { node.filled with verbosity } _
    unfold Node.filled
    dsimp only
    split <;> rfl

theorem verbosity_fillDefaults [Scalar R] (tree : ConfigTree R) :
    tree.fillDefaults.root.verbosity = tree.root.verbosity := by
  rw [root_fillDefaults, Node.verbosity_filled]

end ConfigTree

namespace Dispatcher

theorem fillDefaults_effective [Scalar R] (tree : ConfigTree R) (verbosity? : Option UInt8) :
    (effective tree verbosity?).fillDefaults = effective tree.fillDefaults verbosity? := by
  rw [effective, effective, ConfigTree.fillDefaults_withVerbosity, tree.verbosity_fillDefaults]

/-- The verbosity that an attempt has run under is taken back. -/
theorem withVerbosity_effective (tree : ConfigTree R) (verbosity? : Option UInt8) :
    (effective tree verbosity?).withVerbosity tree.root.verbosity = tree := by
  rw [effective, ConfigTree.withVerbosity_withVerbosity, ConfigTree.withVerbosity_of_eq rfl]

/-- Recording an outcome and taking the verbosity back do not get in each other's way. -/
theorem withVerbosity_recorded {n : Nat} (tree : ConfigTree R)
    (result : Except (Failure R) (Run R n)) (verbosity : UInt8) :
    (recorded tree result).withVerbosity verbosity =
      recorded (tree.withVerbosity verbosity) result := by
  cases result with
  | error failure => rfl
  | ok run => cases tree <;> rfl

variable [Problem R P] [Scalar R]

/-- A call goes and ends as if it left the given configuration alone, and worked on a copy of it
with another verbosity. -/
theorem solve_eq (dispatcher : Dispatcher R P) (problem : P) (tree : ConfigTree R)
    (verbosity? : Option UInt8) :
    dispatcher.solve problem tree verbosity? =
      match dispatcher.select problem (effective tree.fillDefaults verbosity?) with
      | .error error => pure { result := .error (.error error), tree := tree.fillDefaults }
      | .ok algorithm => do
        let result ← runAlgorithm algorithm problem (effective tree.fillDefaults verbosity?)
        return { result, tree := recorded tree.fillDefaults result } := by
  have hrestored : (effective tree.fillDefaults verbosity?).withVerbosity tree.root.verbosity =
      tree.fillDefaults := by
    rw [← tree.verbosity_fillDefaults, withVerbosity_effective]
  rw [solve, attempt, fillDefaults_effective]
  cases dispatcher.select problem (effective tree.fillDefaults verbosity?) with
  | error error => exact congrArg (fun tree => pure (Answer.mk _ tree)) hrestored
  | ok algorithm =>
    refine (Traced.bind_pure_bind_pure _ _ _).trans (congrArg _ (funext fun result => ?_))
    rw [withVerbosity_recorded, hrestored]

end Dispatcher

end Complementarity
