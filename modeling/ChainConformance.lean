import ChainConformance.Main
import ChainConformance.Sample.Described
import ChainConformance.Sample.Fixtures
import ChainConformance.Sample.Shell
import ChainConformance.Proofs.BlockVerdict
import ChainConformance.Proofs.PayloadVerdict
import ChainConformance.Proofs.Recording
import ChainConformance.Proofs.PayloadRounds
import ChainConformance.Proofs.BlockSimulation
import ChainConformance.Proofs.ChainCalls
import ChainConformance.Proofs.ChainCover
import ChainConformance.Proofs.GroupIsolation
import ChainConformance.Proofs.SuiteIsolation
import ChainConformance.Proofs.LengthPrefix
import ChainConformance.Proofs.HeaderCodec
import ChainConformance.Proofs.BlockCodec
import ChainConformance.Proofs.TransactionFeed
import ChainConformance.Proofs.ClientLifecycle
import ChainConformance.Proofs.MapperMerge
import ChainConformance.Proofs.EngineReport
import ChainConformance.Proofs.PostStates
import ChainConformance.Proofs.ChainStore
import ChainConformance.Proofs.Relaxation
import ChainConformance.Proofs.Cancellation
import ChainConformance.Proofs.CallTimes
import ChainConformance.Proofs.EngineAgreement
import ChainConformance.Proofs.SuiteSharing
import ChainConformance.Proofs.MessageForms
import ChainConformance.Proofs.OwnRejections
import ChainConformance.Proofs.StateComparison
import ChainConformance.Proofs.TransitionReport
import ChainConformance.Proofs.HiveTests
import ChainConformance.Proofs.StateChanges
import ChainConformance.Proofs.ReportOrder
import ChainConformance.Proofs.BlockImport
import ChainConformance.Proofs.FailedCalls
import ChainConformance.Proofs.AncestorWindow
import ChainConformance.Proofs.RunPhases
import ChainConformance.Proofs.GroupStart
import ChainConformance.Proofs.ReadBack
import ChainConformance.Proofs.HeaderGaps
import ChainConformance.Proofs.ReportedChanges
import ChainConformance.Proofs.ScalarForms
import ChainConformance.Proofs.CompactText
import ChainConformance.Proofs.AccountQueries
import ChainConformance.Proofs.GroupKeys
import ChainConformance.Proofs.GroupPartition
import ChainConformance.Proofs.GroupFiles
import ChainConformance.Proofs.FixtureFiles
import ChainConformance.Proofs.MapperLoading
import ChainConformance.Proofs.ExceptionTexts
import ChainConformance.Proofs.ClientNames
import ChainConformance.Proofs.BlocktestReport
import ChainConformance.Proofs.HeadCheck
import ChainConformance.Proofs.MergeOrder
import ChainConformance.Proofs.PayloadParameters
import ChainConformance.Proofs.SkippedFiles
import ChainConformance.Proofs.ArrayBounds
import ChainConformance.Proofs.LoggedReports
