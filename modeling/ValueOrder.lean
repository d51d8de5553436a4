import ValueOrder.Main
import ValueOrder.Program
import ValueOrder.Proofs.Arguments.Grouping
import ValueOrder.Proofs.Arguments.Requests
import ValueOrder.Proofs.Cases.Agreement
import ValueOrder.Proofs.Cases.Decoding
import ValueOrder.Proofs.Files.Collection
import ValueOrder.Proofs.Order.Chain
import ValueOrder.Proofs.Order.CodePoints
import ValueOrder.Proofs.Order.Decision
import ValueOrder.Proofs.Order.Integers
import ValueOrder.Proofs.Order.Interchange
import ValueOrder.Proofs.Order.NumericScale
import ValueOrder.Proofs.Order.Sameness
import ValueOrder.Proofs.Order.Shapes
import ValueOrder.Proofs.Order.Surfaces
import ValueOrder.Proofs.Order.Written
import ValueOrder.Proofs.Printing.Offenders
import ValueOrder.Proofs.Printing.Quoting
import ValueOrder.Proofs.Reading.Literals
import ValueOrder.Proofs.Reading.Scaling
import ValueOrder.Proofs.Rendering.Values
import ValueOrder.Proofs.Runs.Contract
import ValueOrder.Proofs.Runs.FailFast
import ValueOrder.Proofs.Runs.Records
import ValueOrder.Proofs.Runs.Verbosity
import ValueOrder.Value.Relations
