import RootFinding.Catalog
import RootFinding.Expression
import RootFinding.Json.Codec
import RootFinding.Report.Csv
import RootFinding.Report.Table
import RootFinding.Scalar.Finder
import RootFinding.Systems.FixedPoint
import RootFinding.Proofs.Run.Course
import RootFinding.Proofs.Run.Observation
import RootFinding.Proofs.Run.Outline
import RootFinding.Proofs.Scalar.TwoPasses
import RootFinding.Proofs.Run.Refinement
import RootFinding.Proofs.Methods.Steps
import RootFinding.Proofs.Run.StoppingRule
import RootFinding.Proofs.Run.Convergence
import RootFinding.Proofs.Methods.Stopping
import RootFinding.Proofs.Double.Comparison
import RootFinding.Proofs.Systems.Orbit
import RootFinding.Proofs.Double.Product
import RootFinding.Proofs.Scalar.SignChange
import RootFinding.Proofs.Run.Counting
import RootFinding.Proofs.Methods.Counting
import RootFinding.Proofs.Run.Recurrence
import RootFinding.Proofs.Scalar.Textbook
import RootFinding.Proofs.Double.Order
import RootFinding.Proofs.Double.Rounding
import RootFinding.Proofs.Double.Operations
import RootFinding.Proofs.Double.Accuracy
import RootFinding.Proofs.Double.Lines
import RootFinding.Proofs.Double.Whole
import RootFinding.Proofs.Double.Monotonicity
import RootFinding.Proofs.Grid.Segments
import RootFinding.Proofs.Grid.Spacing
import RootFinding.Proofs.Scalar.Containment
import RootFinding.Proofs.Scalar.Affine
import RootFinding.Proofs.Scalar.FirstRoot
import RootFinding.Proofs.Scalar.Halving
import RootFinding.Proofs.Scalar.Divisors
import RootFinding.Proofs.Scalar.Finiteness
import RootFinding.Proofs.Scalar.Crossing
import RootFinding.Proofs.Scalar.Failures
import RootFinding.Proofs.Systems.Failures
import RootFinding.Proofs.Methods.Failures
import RootFinding.Proofs.Scalar.Retry
import RootFinding.Proofs.Run.Laxity
import RootFinding.Proofs.Methods.Laxity
import RootFinding.Proofs.Run.Tightening
import RootFinding.Proofs.Methods.Tightening
import RootFinding.Proofs.Systems.Squareness
import RootFinding.Proofs.Systems.Residuals
import RootFinding.Proofs.Scalar.Validation
import RootFinding.Proofs.Systems.Validation
import RootFinding.Proofs.Methods.Validation
import RootFinding.Proofs.Rational.Arithmetic
import RootFinding.Proofs.Rational.Differences
import RootFinding.Proofs.Rational.Guards
import RootFinding.Proofs.Systems.Convergence
import RootFinding.Proofs.Methods.Tabulation
import RootFinding.Proofs.Report.PlainText
import RootFinding.Proofs.Report.Csv
import RootFinding.Proofs.Json.RoundTrip
import RootFinding.Proofs.Run.Logging
import RootFinding.Proofs.Methods.Logging
import RootFinding.Proofs.Double.Signs
import RootFinding.Proofs.Scalar.OneRoot
import RootFinding.Proofs.Scalar.Evidence
import RootFinding.Proofs.Grid.Coverage
import RootFinding.Proofs.Systems.Sampling
import RootFinding.Proofs.Systems.GridSearch
import RootFinding.Proofs.Scalar.Escape
import RootFinding.Proofs.Rational.Exactness
import RootFinding.Proofs.Run.Mirroring
import RootFinding.Proofs.Scalar.Opposite
import RootFinding.Proofs.Double.Extended
import RootFinding.Proofs.Run.LastStop
import RootFinding.Proofs.Methods.ShortSteps
import RootFinding.Proofs.Report.FixedText
import RootFinding.Proofs.Report.Table
import RootFinding.Proofs.Methods.Tables
import RootFinding.Proofs.Vector.Partials
import RootFinding.Proofs.Vector.Arity
import RootFinding.Proofs.Interval.Geometry
