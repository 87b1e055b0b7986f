import AttestedModel.Main
import AttestedModel.Proofs.ByteStrings
import AttestedModel.Proofs.CounterMode
import AttestedModel.Proofs.EnvelopeCodec
import AttestedModel.Proofs.Disks
import AttestedModel.Proofs.Paths
import AttestedModel.Proofs.StagedFiles
import AttestedModel.Proofs.RetrievalStore
import AttestedModel.Proofs.RetrievalRuns
import AttestedModel.Proofs.TextCodecs
import AttestedModel.Proofs.JsonLiterals
import AttestedModel.Proofs.JsonNumerals
import AttestedModel.Proofs.JsonGrammar
import AttestedModel.Proofs.JsonTokens
import AttestedModel.Proofs.JsonSoundness
import AttestedModel.Proofs.JsonDocuments
import AttestedModel.Proofs.PublicKeyDocuments
import AttestedModel.Proofs.KeyWrapping
import AttestedModel.Proofs.KeyReplies
import AttestedModel.Proofs.KeyExchange
import AttestedModel.Proofs.KeyUnwrapping
import AttestedModel.Proofs.SessionEvents
import AttestedModel.Proofs.TransferSteps
import AttestedModel.Proofs.Interruptions
import AttestedModel.Proofs.Attempts
import AttestedModel.Proofs.Cancellation
import AttestedModel.Proofs.Deadlines
import AttestedModel.Proofs.EvidenceDocuments
import AttestedModel.Proofs.TransferBinding
import AttestedModel.Proofs.Retries
import AttestedModel.Proofs.Backoffs
import AttestedModel.Proofs.TransferWaits
import AttestedModel.Proofs.ReportEntries
import AttestedModel.Proofs.QuoteFailures
import AttestedModel.Proofs.SharedReports
import AttestedModel.Proofs.BinaryFields
import AttestedModel.Proofs.BlockField
import AttestedModel.Proofs.ByteField
import AttestedModel.Proofs.Tampering
import AttestedModel.Proofs.BlockPermutation
import AttestedModel.Proofs.ForeignParts
import AttestedModel.Proofs.EnvelopeFraming
import AttestedModel.Proofs.WireRecords
import AttestedModel.Proofs.RetrievalOrder
import AttestedModel.Proofs.RetrievalHistory
import AttestedModel.Proofs.Addresses
import AttestedModel.Proofs.FileNames
import AttestedModel.Proofs.SealedFiles
import AttestedModel.Proofs.MemberOrder
import AttestedModel.Proofs.AddressEndings
import AttestedModel.Proofs.PaddedMetadata
import AttestedModel.Proofs.ReplyRefusals
import AttestedModel.Proofs.KeyAnswers
import AttestedModel.Proofs.InvalidArguments
