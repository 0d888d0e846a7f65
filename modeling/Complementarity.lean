import Complementarity.Config.Builder
import Complementarity.Config.Defaults
import Complementarity.Config.Field
import Complementarity.Config.Printer
import Complementarity.Config.Reader
import Complementarity.Config.SolverId
import Complementarity.Config.Tree
import Complementarity.Config.Validation
import Complementarity.Contact.Block
import Complementarity.Contact.Cone
import Complementarity.Decimal.Basic
import Complementarity.Decimal.Binary64
import Complementarity.Decimal.Layout
import Complementarity.Decimal.Shortest
import Complementarity.Dispatch.Dispatcher
import Complementarity.Dispatch.FromLists
import Complementarity.Dispatch.Stock
import Complementarity.Error
import Complementarity.Friction.ExtraGradient
import Complementarity.Friction.FixedPoint
import Complementarity.Friction.GaussSeidel
import Complementarity.Friction.Hyperplane
import Complementarity.Friction.Law
import Complementarity.Friction.PlanarGaussSeidel
import Complementarity.Friction.Projection
import Complementarity.Friction.SweepParams
import Complementarity.Friction.Tresca
import Complementarity.Linear.Cholesky
import Complementarity.Linear.Elimination
import Complementarity.Linear.Vec
import Complementarity.OneContact.Newton
import Complementarity.OneContact.Problem
import Complementarity.OneContact.Solver
import Complementarity.OneContact.Projection
import Complementarity.OneContact.Stock
import Complementarity.Problem.Basic
import Complementarity.Problem.Fixtures
import Complementarity.Problem.Friction
import Complementarity.Problem.Random
import Complementarity.Problem.Relay
import Complementarity.Random.Keystream
import Complementarity.Random.Sampler
import Complementarity.Relay.Box
import Complementarity.Relay.GaussSeidel
import Complementarity.Relay.Latin
import Complementarity.Report.ErrorMessage
import Complementarity.Report.LinearFailure
import Complementarity.Report.LogMessage
import Complementarity.Report.Summary
import Complementarity.Run.Event
import Complementarity.Run.Iteration
import Complementarity.Run.LineSearch
import Complementarity.Run.Result
import Complementarity.Run.Status
import Complementarity.Run.StepControl
import Complementarity.Run.Traced
import Complementarity.Scalar
import Complementarity.Syntax.Blank
import Complementarity.Syntax.Numeral
import Complementarity.Syntax.QuotedText
import Complementarity.Syntax.Scanner
import Complementarity.Syntax.Skipped
import Complementarity.Syntax.Word
import Complementarity.Text.Quoted
import Complementarity.Text.Unshowable
import Complementarity.Proofs.Loops
import Complementarity.Proofs.ConfigGrammar
import Complementarity.Proofs.MeasuredRuns
import Complementarity.Proofs.SweepRuns
import Complementarity.Proofs.SweepDomain
import Complementarity.Proofs.ExitContract
import Complementarity.Proofs.SettledVelocity
import Complementarity.Proofs.ParameterReading
import Complementarity.Proofs.StockAlgorithms
import Complementarity.Proofs.ScopedVerbosity
import Complementarity.Proofs.Classification
import Complementarity.Proofs.ExactVectors
import Complementarity.Proofs.ConeGeometry
import Complementarity.Proofs.FrictionLaw
import Complementarity.Proofs.ContactSolutions
import Complementarity.Proofs.SolutionsStay
import Complementarity.Proofs.StalledIterations
import Complementarity.Proofs.DegenerateContacts
import Complementarity.Proofs.LightEvaluation
import Complementarity.Proofs.CholeskyExact
import Complementarity.Proofs.LatinStages
import Complementarity.Proofs.LatinRuns
import Complementarity.Proofs.RelayErrorBound
import Complementarity.Proofs.ComparisonLaws
import Complementarity.Proofs.LoopPairs
import Complementarity.Proofs.RunFamilies
import Complementarity.Proofs.StoppingCuts
import Complementarity.Proofs.DefaultFilling
import Complementarity.Proofs.OutputEntries
import Complementarity.Proofs.IterationCaps
import Complementarity.Proofs.SolveEffect
import Complementarity.Proofs.RepeatedCalls
import Complementarity.Proofs.AdmissibleReactions
import Complementarity.Proofs.RelayEquation
import Complementarity.Proofs.ReportedResiduals
import Complementarity.Proofs.FixedThresholds
import Complementarity.Proofs.LatinResidual
import Complementarity.Proofs.RelayCriteria
import Complementarity.Proofs.RelayFixedPoints
import Complementarity.Proofs.RelayDescent
import Complementarity.Proofs.NewtonEquation
import Complementarity.Proofs.LoopEvents
import Complementarity.Proofs.LoggedRuns
import Complementarity.Proofs.Verbosity
import Complementarity.Proofs.DecimalValues
import Complementarity.Proofs.FloatBits
import Complementarity.Proofs.DecimalText
import Complementarity.Proofs.ScannerRules
import Complementarity.Proofs.ScannedValues
import Complementarity.Proofs.ConfigTexts
import Complementarity.Proofs.TextRoundTrip
import Complementarity.Proofs.PartialReals
import Complementarity.Proofs.MetricProjections
import Complementarity.Proofs.NewtonDerivative
import Complementarity.Proofs.AdaptedSteps
import Complementarity.Proofs.SeparatingSteps
import Complementarity.Proofs.PartialConfigs
import Complementarity.Proofs.PositionalForm
import Complementarity.Proofs.DegenerateRuns
import Complementarity.Proofs.TrivialSolutions
import Complementarity.Proofs.ContactProblems
import Complementarity.Proofs.NewtonDescent
import Complementarity.Proofs.ReportedCalls
import Complementarity.Proofs.ThresholdCalls
import Complementarity.Proofs.CarriedVelocities
import Complementarity.Proofs.RandomProblems
