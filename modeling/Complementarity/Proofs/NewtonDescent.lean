import Complementarity.Proofs.NewtonEquation

/-!
Newton's method with backtracking, in exact arithmetic.

A search takes the first power of the factor that passes its test, or the power after the last trial
(`firstPower_searchFrom`). In an iteration of Newton's method the test, the point it leads to and the
error that is stored all refer to the same reaction (`value_newtonStep`), along whichever direction, so a
length that has passed bounds the next error. While the searches succeed, the error never grows.
-/

namespace Complementarity

/-! ### Searches -/

/-- The length a search takes: the first power of the factor that passes, or the one after all trials. -/
inductive FirstPower (passes : ℝ → Prop) (factor : ℝ) (trials : Nat) : ℝ → Prop
  | accepted {j : Nat} (hlt : j < trials) (hrejected : ∀ i < j, ¬passes (factor ^ i))
      (haccepted : passes (factor ^ j)) : FirstPower passes factor trials (factor ^ j)
  | exhausted (hrejected : ∀ i < trials, ¬passes (factor ^ i)) :
      FirstPower passes factor trials (factor ^ trials)

variable {search : Backtracking ℝ} {merit : ℝ} {trialMerit : Nat → ℝ → ℝ} {passes : ℝ → Prop}

/-- The trials from the `k`-th one on, when all before it have been rejected. -/
theorem firstPower_searchFrom
    (hpasses : ∀ i length, search.Accepts merit length (trialMerit i length) ↔ passes length)
    {left k trials : Nat} (htrials : k + left = trials)
    (hrejected : ∀ i < k, ¬passes (search.factor ^ i)) :
    FirstPower passes search.factor trials
      (search.searchFrom merit trialMerit left k (search.factor ^ k)).2 := by
  induction left generalizing k with
  | zero =>
    obtain rfl : k = trials := htrials
    exact .exhausted hrejected
  | succ left ih =>
    rw [Backtracking.searchFrom]
    by_cases haccepts : search.Accepts merit (search.factor ^ k) (trialMerit k (search.factor ^ k))
    · rw [if_pos haccepts]
      have hlt : k < trials := by omega
      exact .accepted hlt hrejected ((hpasses _ _).mp haccepts)
    · rw [if_neg haccepts, ← pow_succ]
      refine ih (by omega) fun i hi => ?_
      rcases Nat.lt_succ_iff_lt_or_eq.mp hi with hi | rfl
      · exact hrejected i hi
      · exact (hpasses _ _).not.mp haccepts

theorem firstPower_search
    (hpasses : ∀ i length, search.Accepts merit length (trialMerit i length) ↔ passes length) :
    FirstPower passes search.factor search.trials (search.search merit trialMerit).2 := by
  have h := firstPower_searchFrom hpasses (Nat.zero_add search.trials) nofun
  rwa [pow_zero] at h

/-- A search that has a trial to accept ends with a length that passes. -/
theorem FirstPower.of_exists {factor length : ℝ} {trials : Nat}
    (h : FirstPower passes factor trials length) (hsucceeds : ∃ j < trials, passes (factor ^ j)) :
    passes length := by
  cases h with
  | accepted _ _ haccepted => exact haccepted
  | exhausted hrejected =>
    obtain ⟨j, hlt, hpasses⟩ := hsucceeds
    exact absurd hpasses (hrejected j hlt)

theorem FirstPower.nonneg {factor length : ℝ} {trials : Nat} (hfactor : 0 ≤ factor)
    (h : FirstPower passes factor trials length) : 0 ≤ length := by
  cases h <;> exact pow_nonneg hfactor _

namespace ContactProblem

variable {problem : ContactProblem ℝ} {params : NewtonParams ℝ} {r : Block ℝ 2}

/-! ### One iteration -/

/-- What is left of the equation of Newton's method at a reaction. -/
noncomputable def residual (problem : ContactProblem ℝ) (r : Block ℝ 2) : ℝ :=
  Vec.norm (problem.linearize problem.newtonScaling r).value

/-- The point at a length along the direction that is taken from a reaction: the Newton direction, or
that of a fixed point step if the Jacobian is singular. -/
noncomputable def trialPoint (problem : ContactProblem ℝ) (r : Block ℝ 2) (length : ℝ) :
    Block ℝ 2 :=
  Vec.add r (Vec.scale length
    (newtonDirection (problem.linearize problem.newtonScaling r)).value)

/-- Sufficient decrease of half the squared residual. -/
structure DecreasesAt (problem : ContactProblem ℝ) (armijo : ℝ) (r : Block ℝ 2) (length : ℝ) :
    Prop where
  half_sq_le : 1 / 2 * problem.residual (problem.trialPoint r length) ^ 2 ≤
    (1 - 2 * armijo * length) * (1 / 2 * problem.residual r ^ 2)

/-- The length that is taken from a reaction. -/
noncomputable def lengthAt (problem : ContactProblem ℝ) (params : NewtonParams ℝ) (r : Block ℝ 2) :
    ℝ :=
  problem.newtonLength params problem.newtonScaling (problem.residual r) r
    (newtonDirection (problem.linearize problem.newtonScaling r)).value

theorem residual_nonneg (problem : ContactProblem ℝ) (r : Block ℝ 2) : 0 ≤ problem.residual r :=
  Real.sqrt_nonneg _

theorem merit_eq (problem : ContactProblem ℝ) (r : Block ℝ 2) :
    problem.merit problem.newtonScaling r = 1 / 2 * problem.residual r ^ 2 := by
  rw [merit, residual, Vec.normSq_eq, Vec.norm_eq]
  norm_num

/-- The search makes its test on the residual at the point that the length leads to. -/
theorem lengthAt_firstPower (problem : ContactProblem ℝ) (params : NewtonParams ℝ)
    (r : Block ℝ 2) :
    FirstPower (problem.DecreasesAt params.lineSearch.armijo r) params.lineSearch.factor
      params.lineSearch.trials (problem.lengthAt params r) := by
  refine firstPower_search fun _ length => ?_
  rw [← trialPoint, merit_eq, Backtracking.Accepts]
  have hbound : 0.5 * problem.residual r * problem.residual r *
      (1 - 2.0 * params.lineSearch.armijo * length) =
        (1 - 2 * params.lineSearch.armijo * length) * (1 / 2 * problem.residual r ^ 2) := by
    norm_num
    ring
  rw [hbound]
  exact ⟨fun hle => ⟨hle⟩, DecreasesAt.half_sq_le⟩

/-- An iteration moves the reaction, the equation and the error on together. -/
theorem value_newtonStep {progress : Progress ℝ (NewtonState ℝ)}
    (h : problem.IsLinearized problem.newtonScaling progress) :
    (problem.newtonStep params problem.newtonScaling progress).value =
      let next := problem.trialPoint progress.state.reaction
        (problem.lengthAt params progress.state.reaction)
      .ok (problem.residual next, ⟨next, problem.linearize problem.newtonScaling next⟩) := by
  obtain ⟨hequation, herror⟩ := h
  rw [hequation] at herror
  simp only [newtonStep, Traced.value_bind, Traced.value_pure, hequation, herror]
  rfl

/-- What an iteration does at a position of a run. -/
structure Backtracks (problem : ContactProblem ℝ) (params : NewtonParams ℝ)
    (progress : Progress ℝ (NewtonState ℝ)) (outcome : ℝ × NewtonState ℝ) : Prop where
  error_eq : progress.error = problem.residual progress.state.reaction
  next_error_eq : outcome.1 = problem.residual outcome.2.reaction
  reaction_eq : ∃ length, FirstPower
      (problem.DecreasesAt params.lineSearch.armijo progress.state.reaction)
      params.lineSearch.factor params.lineSearch.trials length ∧
    outcome.2.reaction = problem.trialPoint progress.state.reaction length ∧
    (problem.DecreasesAt params.lineSearch.armijo progress.state.reaction length →
      outcome.1 ^ 2 ≤ (1 - 2 * params.lineSearch.armijo * length) * progress.error ^ 2)

theorem newtonStep_backtracks {progress : Progress ℝ (NewtonState ℝ)}
    (h : problem.IsLinearized problem.newtonScaling progress) {outcome : ℝ × NewtonState ℝ}
    (hok : (problem.newtonStep params problem.newtonScaling progress).value = .ok outcome) :
    problem.Backtracks params progress outcome := by
  have herror : progress.error = problem.residual progress.state.reaction :=
    h.error_eq.trans (by rw [h.equation_eq, residual])
  rw [value_newtonStep h] at hok
  obtain rfl := Except.ok.inj hok
  refine ⟨herror, rfl, _, lengthAt_firstPower problem params _, rfl, fun hdecreases => ?_⟩
  have hhalf := hdecreases.half_sq_le
  rw [herror]
  linarith

/-- The search at this reaction has a trial to accept. -/
def Succeeds (problem : ContactProblem ℝ) (params : NewtonParams ℝ) (r : Block ℝ 2) : Prop :=
  ∃ j < params.lineSearch.trials,
    problem.DecreasesAt params.lineSearch.armijo r (params.lineSearch.factor ^ j)

theorem Backtracks.error_le {progress : Progress ℝ (NewtonState ℝ)}
    {outcome : ℝ × NewtonState ℝ} (h : problem.Backtracks params progress outcome)
    (hsucceeds : problem.Succeeds params progress.state.reaction)
    (harmijo : 0 ≤ params.lineSearch.armijo) (hfactor : 0 ≤ params.lineSearch.factor) :
    outcome.1 ≤ progress.error := by
  obtain ⟨length, hfirst, -, hdecrease⟩ := h.reaction_eq
  have hshare : 0 ≤ 2 * params.lineSearch.armijo * length :=
    mul_nonneg (mul_nonneg zero_le_two harmijo) (hfirst.nonneg hfactor)
  have hnonneg : 0 ≤ progress.error := h.error_eq ▸ problem.residual_nonneg _
  refine abs_le_of_sq_le_sq' ?_ hnonneg |>.2
  calc outcome.1 ^ 2
      ≤ (1 - 2 * params.lineSearch.armijo * length) * progress.error ^ 2 :=
        hdecrease (hfirst.of_exists hsucceeds)
    _ ≤ 1 * progress.error ^ 2 :=
        mul_le_mul_of_nonneg_right (sub_le_self 1 hshare) (sq_nonneg _)
    _ = progress.error ^ 2 := one_mul _

/-! ### Runs -/

/-- Where a run starts from a reaction. -/
noncomputable def newtonStart (problem : ContactProblem ℝ) (r : Block ℝ 2) :
    Progress ℝ (NewtonState ℝ) :=
  { iterations := 0, error := problem.residual r
    state := { reaction := r, equation := problem.linearize problem.newtonScaling r } }

/-- A run that passes the first position passes the second one too, then or later. -/
abbrev Leads (problem : ContactProblem ℝ) (params : NewtonParams ℝ) :
    Progress ℝ (NewtonState ℝ) → Progress ℝ (NewtonState ℝ) → Prop :=
  Progress.Reaches (params.tolerance < ·) (problem.newtonStep params problem.newtonScaling)

/-- A run from this reaction makes an iteration at the position. -/
structure Iterates (problem : ContactProblem ℝ) (params : NewtonParams ℝ) (r : Block ℝ 2)
    (progress : Progress ℝ (NewtonState ℝ)) : Prop where
  reached : problem.Leads params (problem.newtonStart r) progress
  within : progress.iterations < params.iterationCap
  due : params.tolerance < progress.error

theorem isLinearized_of_leads {progress : Progress ℝ (NewtonState ℝ)}
    (reached : problem.Leads params (problem.newtonStart r) progress) :
    problem.IsLinearized problem.newtonScaling progress :=
  isLinearized_of_reaches ⟨rfl, rfl⟩ reached

/-- The errors along a run whose searches succeed. -/
theorem error_le_of_leads (harmijo : 0 ≤ params.lineSearch.armijo)
    (hfactor : 0 ≤ params.lineSearch.factor)
    (hsucceeds : ∀ progress, problem.Iterates params r progress →
      problem.Succeeds params progress.state.reaction)
    {earlier later : Progress ℝ (NewtonState ℝ)}
    (hearlier : problem.Leads params (problem.newtonStart r) earlier)
    (hlater : problem.Leads params earlier later)
    (hwithin : later.iterations ≤ params.iterationCap) : later.error ≤ earlier.error := by
  induction hlater with
  | start => exact le_rfl
  | @next progress outcome hbetween hdue hok ih =>
    have hreached := hearlier.trans hbetween
    have hstep := newtonStep_backtracks (isLinearized_of_leads hreached) hok
    have hiterates : problem.Iterates params r progress := ⟨hreached, hwithin, hdue⟩
    exact (hstep.error_le (hsucceeds _ hiterates) harmijo hfactor).trans (ih (Nat.le_of_lt hwithin))

/-- What Newton's method does from a reaction, iteration by iteration and as a whole. -/
structure DescendsFrom (problem : ContactProblem ℝ) (params : NewtonParams ℝ) (r : Block ℝ 2) :
    Prop where
  backtracks : ∀ progress outcome, problem.Iterates params r progress →
    (problem.newtonStep params problem.newtonScaling progress).value = .ok outcome →
      problem.Backtracks params progress outcome
  never_grows : 0 ≤ params.lineSearch.armijo → 0 ≤ params.lineSearch.factor →
    (∀ progress, problem.Iterates params r progress →
      problem.Succeeds params progress.state.reaction) →
    ∀ earlier later, problem.Leads params (problem.newtonStart r) earlier →
      problem.Leads params earlier later → later.iterations ≤ params.iterationCap →
        later.error ≤ earlier.error
  returned : ¬problem.IsFlat → ∃ ended, problem.Leads params (problem.newtonStart r) ended ∧
    ended.iterations ≤ params.iterationCap ∧ (problem.newton params r).value =
      (⟨.ofError ended.error params.tolerance, ended.iterations, ended.error⟩,
        ended.state.reaction)
  given_up : problem.IsFlat → (problem.newton params r).value = (.degenerate, r)
  report_error : ¬problem.IsFlat → (problem.newton params r).value.1.error =
    problem.residual (problem.newton params r).value.2
  report_status : ¬problem.IsFlat → ((problem.newton params r).value.1.status = .converged ↔
    (problem.newton params r).value.1.error ≤ params.tolerance)

theorem exists_newton_eq_of_leads (hflat : ¬problem.IsFlat) (params : NewtonParams ℝ)
    (r : Block ℝ 2) :
    ∃ ended, problem.Leads params (problem.newtonStart r) ended ∧
      ended.iterations ≤ params.iterationCap ∧ (problem.newton params r).value =
        (⟨.ofError ended.error params.tolerance, ended.iterations, ended.error⟩,
          ended.state.reaction) := by
  obtain ⟨ended, hfinal, heq⟩ := exists_newton_eq hflat params r
  have hends := Progress.ends_of_final hfinal
  refine ⟨ended, hends.reached, ?_, heq⟩
  simpa using hends.iterations_le

/-- From every reaction and with all parameters, the errors of Newton's method are those of its
reactions, and they only grow where a search has failed. -/
theorem newton_descends (problem : ContactProblem ℝ) (params : NewtonParams ℝ) (r : Block ℝ 2) :
    problem.DescendsFrom params r where
  backtracks _ _ hiterates hok :=
    newtonStep_backtracks (isLinearized_of_leads hiterates.reached) hok
  never_grows harmijo hfactor hsucceeds _ _ := error_le_of_leads harmijo hfactor hsucceeds
  returned hflat := exists_newton_eq_of_leads hflat params r
  given_up hflat := by
    rw [newton, if_pos hflat]
    rfl
  report_error hflat := error_newton hflat params r
  report_status hflat := by
    obtain ⟨ended, -, heq⟩ := exists_newton_eq hflat params r
    rw [heq]
    exact Residual.status_eq_converged (e := .measured ended.error)

/-- On a unit matrix every search succeeds with the full step, which leaves nothing of the equation. -/
theorem onUnit_succeeds {offset : Block ℝ 2} {friction : ℝ} {params : NewtonParams ℝ}
    (htrials : 0 < params.lineSearch.trials) (harmijo : params.lineSearch.armijo ≤ 1 / 2)
    (r : Block ℝ 2) : (onUnit offset friction).Succeeds params r := by
  have hpoint : (onUnit offset friction).trialPoint r 1 = unitReaction offset friction := by
    rw [trialPoint, newtonScaling_onUnit]
    exact add_newtonDirection_onUnit offset friction r
  have hresidual : (onUnit offset friction).residual (unitReaction offset friction) = 0 := by
    rw [residual, Vec.norm_eq_zero_iff, newtonScaling_onUnit, value_onUnit_eq_zero_iff]
  have hshare : 0 ≤ 1 - 2 * params.lineSearch.armijo * 1 := by linarith
  refine ⟨0, htrials, ?_⟩
  rw [pow_zero]
  refine ⟨?_⟩
  rw [hpoint, hresidual]
  have hbound := mul_nonneg hshare (mul_nonneg one_half_pos.le
    (sq_nonneg ((onUnit offset friction).residual r)))
  linarith

/-- The run that finds the reaction of a sliding contact does so without its error growing. -/
theorem onUnit_slide_descends :
    ¬(onUnit #v[-1, 0.5, 0] 0.3).IsFlat ∧
    ((onUnit #v[-1, 0.5, 0] 0.3).newton ⟨10, 0, ⟨1e-4, 0.5, 20⟩⟩ (Vec.zero 3)).value.1.error ≤
      (onUnit #v[-1, 0.5, 0] 0.3).residual (Vec.zero 3) ∧
    ((onUnit #v[-1, 0.5, 0] 0.3).newton ⟨10, 0, ⟨1e-4, 0.5, 20⟩⟩ (Vec.zero 3)).value.1.status =
      .converged := by
  have hflat : ¬(onUnit #v[-1, 0.5, 0] 0.3).IsFlat := not_isFlat (onUnit_usable _ _)
  have h := newton_descends (onUnit #v[-1, 0.5, 0] 0.3) ⟨10, 0, ⟨1e-4, 0.5, 20⟩⟩ (Vec.zero 3)
  obtain ⟨ended, hreached, hwithin, heq⟩ := h.returned hflat
  have herror : ((onUnit #v[-1, 0.5, 0] 0.3).newton ⟨10, 0, ⟨1e-4, 0.5, 20⟩⟩
      (Vec.zero 3)).value.1.error = 0 :=
    (newton_onUnit (by decide) rfl (by norm_num) (Vec.zero 3)).1
  refine ⟨hflat, ?_, (h.report_status hflat).mpr herror.le⟩
  rw [heq]
  exact h.never_grows (by norm_num) (by norm_num)
    (fun progress _ => onUnit_succeeds (by decide) (by norm_num) progress.state.reaction)
    _ ended .start hreached hwithin

/-! ### Where no run is made -/

/-- A contact whose reaction pulls it further in. -/
noncomputable def pulledContact : ContactProblem ℝ where
  matrix := Mat.ofFn fun i j => if i = j then -1 else 0
  offset := Block.ofParts 1 (Vec.zero 2)
  friction := 1
  threshold? := none

theorem pulledContact_isFlat : pulledContact.IsFlat := by
  refine ⟨0, ?_⟩
  change (-1 : ℝ) ≤ Scalar.diagonalThreshold
  norm_num [Scalar.diagonalThreshold]

/-- The normal component of the equation. -/
theorem get_value_linearize (hmu : 0 ≤ problem.friction) (rho : Vec ℝ 3) (r : Block ℝ 2) :
    (problem.linearize rho r).value.get 0 =
      r.get 0 - max (r.get 0 - rho.get 0 * (problem.velocity r).get 0) 0 := by
  have hnormal (radius : ℝ) (d : Block ℝ 2) :
      (projectOnCylinder radius d).get 0 = max (d.get 0) 0 := normal_projectOnCylinder radius d
  rw [value_linearize hmu, Vec.get_sub, hnormal, Vec.get_sub, Vec.get_zipWith]

theorem pulledContact_residual_ne : pulledContact.residual (Vec.zero 3) ≠ 0 := by
  intro hresidual
  have hscaling : pulledContact.newtonScaling.get 0 = -1 := by
    change (1 : ℝ) / -1 = -1
    norm_num
  have hvelocity : (pulledContact.velocity (Vec.zero 3)).get 0 = 1 := by
    rw [velocity, Vec.get_add, Mat.get_mulVec]
    simp only [Vec.get_zero, mul_zero, Finset.sum_const_zero, zero_add]
    exact Vec.get_cons_zero 1 _
  have hmu : 0 ≤ pulledContact.friction := zero_le_one (α := ℝ)
  have hnormal := get_value_linearize hmu pulledContact.newtonScaling (Vec.zero 3)
  rw [Vec.norm_eq_zero_iff.mp hresidual, hscaling, hvelocity, Vec.get_zero] at hnormal
  norm_num at hnormal

/-- A flat contact is not worked on: the report shows no error, and no convergence either. -/
theorem pulledContact_given_up :
    pulledContact.residual (Vec.zero 3) ≠ 0 ∧
    (pulledContact.newton ⟨10, 0, ⟨1e-4, 0.5, 20⟩⟩ (Vec.zero 3)).value.2 = Vec.zero 3 ∧
    (pulledContact.newton ⟨10, 0, ⟨1e-4, 0.5, 20⟩⟩ (Vec.zero 3)).value.1.error = 0 ∧
    (pulledContact.newton ⟨10, 0, ⟨1e-4, 0.5, 20⟩⟩ (Vec.zero 3)).value.1.status ≠
      .converged := by
  have hgiven : (pulledContact.newton ⟨10, 0, ⟨1e-4, 0.5, 20⟩⟩ (Vec.zero 3)).value =
      (.degenerate, Vec.zero 3) := by
    rw [newton, if_pos pulledContact_isFlat]
    rfl
  rw [hgiven]
  refine ⟨pulledContact_residual_ne, rfl, rfl, ?_⟩
  rintro ⟨⟩

end ContactProblem

end Complementarity
