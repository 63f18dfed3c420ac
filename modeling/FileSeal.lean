import FileSeal.Main
import FileSeal.Proofs.OutputStage
import FileSeal.Proofs.Update
import FileSeal.Proofs.FileRoundTrip
import FileSeal.Proofs.Tampering
import FileSeal.Proofs.Refusal
import FileSeal.Proofs.CallRuns
import FileSeal.Proofs.WireFormat
import FileSeal.Proofs.KeyFile
import FileSeal.Proofs.ParentPath
import FileSeal.Proofs.Interruption
import FileSeal.Proofs.Renewal
import FileSeal.Proofs.Verification
import FileSeal.Proofs.Caching
import FileSeal.Proofs.ProgramRun
import FileSeal.Proofs.Rewriting
import FileSeal.Proofs.FirstFailure
import FileSeal.Proofs.Indistinguishable
import FileSeal.Proofs.CiphertextComparison
import FileSeal.Proofs.LengthRule
import FileSeal.Proofs.KeyStream
import FileSeal.Proofs.Wrapping
import FileSeal.Proofs.Attempts
import FileSeal.Proofs.Classification
