import Agreement.Json.Writer
import Agreement.Json.Reader
import Agreement.Program
import Agreement.Proofs.GapMarker
import Agreement.Proofs.Generalisation
import Agreement.Proofs.Rearrangement
import Agreement.Proofs.Notation
import Agreement.Proofs.Transcript
import Agreement.Proofs.TranscriptText
import Agreement.Proofs.Representations
import Agreement.Proofs.Information
import Agreement.Proofs.Observation
import Agreement.Proofs.Session
import Agreement.Proofs.Lint
import Agreement.Proofs.Reports
import Agreement.Proofs.Command
import Agreement.Proofs.JsonShapes
import Agreement.Proofs.JsonVariants
import Agreement.Proofs.Alignment
import Agreement.Proofs.TableReading
import Agreement.Proofs.FullySpecified
import Agreement.Proofs.Preorder
import Agreement.Proofs.Lexicon
import Agreement.Proofs.FeatureTexts
import Agreement.Proofs.FeatureSet
