import AdaptiveStep.Integration
import AdaptiveStep.Policy
import AdaptiveStep.Proofs.AcceptedErrors
import AdaptiveStep.Proofs.Actions
import AdaptiveStep.Proofs.ArrayElements
import AdaptiveStep.Proofs.ArrayProjections
import AdaptiveStep.Proofs.BlockComponents
import AdaptiveStep.Proofs.BlockEntries
import AdaptiveStep.Proofs.BlockForms
import AdaptiveStep.Proofs.BoundedMagnitudes
import AdaptiveStep.Proofs.Conversions
import AdaptiveStep.Proofs.CountedEvaluations
import AdaptiveStep.Proofs.DeviceNumbers
import AdaptiveStep.Proofs.DualProblems
import AdaptiveStep.Proofs.DualSteps
import AdaptiveStep.Proofs.ErrorNorms
import AdaptiveStep.Proofs.ErrorSizes
import AdaptiveStep.Proofs.EstimateFailures
import AdaptiveStep.Proofs.EulerProbes
import AdaptiveStep.Proofs.EvaluatingActions
import AdaptiveStep.Proofs.EvaluationBudget
import AdaptiveStep.Proofs.ExactArithmetic
import AdaptiveStep.Proofs.ExactPolicies
import AdaptiveStep.Proofs.ExtendedNorms
import AdaptiveStep.Proofs.ExtendedOrder
import AdaptiveStep.Proofs.FailedCalls
import AdaptiveStep.Proofs.FieldVectors
import AdaptiveStep.Proofs.FilteredSteps
import AdaptiveStep.Proofs.FirstStepBounds
import AdaptiveStep.Proofs.FirstStepEvaluations
import AdaptiveStep.Proofs.FloatRounding
import AdaptiveStep.Proofs.FloatVectors
import AdaptiveStep.Proofs.HostArithmetic
import AdaptiveStep.Proofs.IntegrationInvariant
import AdaptiveStep.Proofs.KeptRealParts
import AdaptiveStep.Proofs.ListVectors
import AdaptiveStep.Proofs.MirroredProblems
import AdaptiveStep.Proofs.NumberProblems
import AdaptiveStep.Proofs.OddRounding
import AdaptiveStep.Proofs.OppositeValues
import AdaptiveStep.Proofs.PlainCandidates
import AdaptiveStep.Proofs.PolicyRequests
import AdaptiveStep.Proofs.PolicyRuns
import AdaptiveStep.Proofs.Powers
import AdaptiveStep.Proofs.PrecisionIndependence
import AdaptiveStep.Proofs.ProvisionalSteps
import AdaptiveStep.Proofs.RealMagnitudes
import AdaptiveStep.Proofs.RealSteps
import AdaptiveStep.Proofs.Reconfiguration
import AdaptiveStep.Proofs.RejectedSteps
import AdaptiveStep.Proofs.RelatedEstimates
import AdaptiveStep.Proofs.RoughGuess
import AdaptiveStep.Proofs.RoundedRoots
import AdaptiveStep.Proofs.Rounding
import AdaptiveStep.Proofs.SafeguardedSteps
import AdaptiveStep.Proofs.ScaledProblems
import AdaptiveStep.Proofs.Signs
import AdaptiveStep.Proofs.SingleArrays
import AdaptiveStep.Proofs.SquareRoot
import AdaptiveStep.Proofs.StableSteps
import AdaptiveStep.Proofs.StepFactors
import AdaptiveStep.Proofs.StepNorms
import AdaptiveStep.Proofs.StepProposals
import AdaptiveStep.Proofs.StepReadings
import AdaptiveStep.Proofs.StepTests
import AdaptiveStep.Proofs.StoredSteps
import AdaptiveStep.Proofs.Summation
import AdaptiveStep.Proofs.TrailingComponents
import AdaptiveStep.Proofs.UniformTolerances
import AdaptiveStep.Proofs.UsableSteps
import AdaptiveStep.Proofs.ValidatedDimensions
import AdaptiveStep.Proofs.VectorLengths
import AdaptiveStep.RightHandSide
