import SignedDistance.Evaluation.Bindings
import SignedDistance.Main
import SignedDistance.Primitive.Combination
import SignedDistance.Proofs.Meaning
import SignedDistance.Proofs.TextPath
import SignedDistance.Proofs.Doubles
import SignedDistance.Proofs.FixedPlaces
import SignedDistance.Proofs.Records
import SignedDistance.Proofs.ShownValues
import SignedDistance.Proofs.Faults
import SignedDistance.Proofs.Lexemes
import SignedDistance.Proofs.ParseTrees
import SignedDistance.Proofs.Canonical
import SignedDistance.Proofs.Sampling
import SignedDistance.Proofs.Lipschitz
import SignedDistance.Proofs.Fusion
import SignedDistance.Proofs.Motions
import SignedDistance.Proofs.Blends
import SignedDistance.Proofs.Misfits
import SignedDistance.Proofs.ParsedNodes
import SignedDistance.Proofs.Documents
import SignedDistance.Proofs.Reports
import SignedDistance.Proofs.SampleCommand
import SignedDistance.Proofs.ShaderBlends
import SignedDistance.Proofs.Parentheses
import SignedDistance.Proofs.FixedTexts
import SignedDistance.Proofs.ScalarTexts
import SignedDistance.Proofs.ErrorPlaces
import SignedDistance.Proofs.KindShapes
import SignedDistance.Proofs.OperatorTexts
import SignedDistance.Proofs.Diagnostics
import SignedDistance.Proofs.SafeQuotients
import SignedDistance.Proofs.AtomicOperands
