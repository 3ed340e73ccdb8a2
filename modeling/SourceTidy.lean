import SourceTidy.Charset.Codec
import SourceTidy.CommandLine.Run
import SourceTidy.Configuration.Fields
import SourceTidy.Java.Reader
import SourceTidy.Main
import SourceTidy.Proofs.AtomicSaving
import SourceTidy.Proofs.CarriedHeader
import SourceTidy.Proofs.CommentRegion
import SourceTidy.Proofs.Completion
import SourceTidy.Proofs.Discovery
import SourceTidy.Proofs.FileTree
import SourceTidy.Proofs.Formatting
import SourceTidy.Proofs.Growth
import SourceTidy.Proofs.HeaderPass
import SourceTidy.Proofs.Layout
import SourceTidy.Proofs.ParallelRun
import SourceTidy.Proofs.RealCalls
import SourceTidy.Proofs.RepeatedHeader
import SourceTidy.Proofs.Resolution
import SourceTidy.Proofs.SequentialRun
import SourceTidy.Proofs.Settlement
import SourceTidy.Proofs.Utf8
import SourceTidy.Proofs.WorkerInvariant
import SourceTidy.Proofs.Workers
import SourceTidy.Proofs.BreakStyle
import SourceTidy.Proofs.SecondRun
import SourceTidy.Proofs.FileFaults
import SourceTidy.Proofs.Exits
import SourceTidy.Proofs.InsertedHeader
import SourceTidy.Proofs.StartUp
import SourceTidy.Proofs.BlankRuns
import SourceTidy.Proofs.CompleteWalk
import SourceTidy.Proofs.NormalForm
import SourceTidy.Proofs.StringRows
import SourceTidy.Proofs.VisualLayout
import SourceTidy.Proofs.TreeWalks
import SourceTidy.Proofs.LanguageLevel
import SourceTidy.Proofs.ProfileFormats
import SourceTidy.Proofs.ProjectFaults
import SourceTidy.Proofs.LogicalLines
import SourceTidy.Proofs.FileLocations
import SourceTidy.Proofs.LevelNotation
import SourceTidy.Proofs.Precedence
import SourceTidy.Proofs.SyntaxCheck
import SourceTidy.Proofs.TopRegion
import SourceTidy.Proofs.SourceBreaks
