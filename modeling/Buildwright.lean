import Buildwright.Compile.CompilerOutput
import Buildwright.Config.LogFilter
import Buildwright.Watch.Manual
import Buildwright.Main
import Buildwright.Proofs.ClassName.RoundTrip
import Buildwright.Proofs.Build.Pipeline
import Buildwright.Proofs.Build.AllOrNothing
import Buildwright.Proofs.Entries
import Buildwright.Proofs.Generation.Acceptance
import Buildwright.Proofs.Build.Copying
import Buildwright.Proofs.Build.ExactlyOnce
import Buildwright.Proofs.Build.BootstrapBean
import Buildwright.Proofs.Watch.Delivery
import Buildwright.Proofs.Text
import Buildwright.Proofs.Compile.Headers
import Buildwright.Proofs.Path
import Buildwright.Proofs.Dev.Evaluation
import Buildwright.Proofs.Dev.Bookkeeping
import Buildwright.Proofs.Disk.Walk
import Buildwright.Proofs.Disk.Writing
import Buildwright.Proofs.ClassName.Staging
import Buildwright.Proofs.Generation.Materialisation
import Buildwright.Proofs.Path.Relative
import Buildwright.Proofs.Disk.Spelling
import Buildwright.Proofs.Disk.Search
import Buildwright.Proofs.Disk.Growth
import Buildwright.Proofs.Dev.SourceRoots
import Buildwright.Proofs.Dev.Providers
import Buildwright.Proofs.Dev.OrderIndependence
import Buildwright.Proofs.Dev.Rescan
import Buildwright.Proofs.Dev.Convergence
import Buildwright.Proofs.Generation.Watching
import Buildwright.Proofs.Build.DebugCopies
import Buildwright.Proofs.Build.EmptyOutput
import Buildwright.Proofs.Dev.Milliseconds
import Buildwright.Proofs.Generation.EarliestViolation
import Buildwright.Proofs.Disk.Loading
import Buildwright.Proofs.Compile.Outcome
import Buildwright.Proofs.Compile.Concatenation
import Buildwright.Proofs.Dev.Isolation
import Buildwright.Proofs.Cli.Manifest
import Buildwright.Proofs.ClassName.Agreement
import Buildwright.Proofs.Cli.Build
import Buildwright.Proofs.Compile.Attribution
import Buildwright.Proofs.Dev.StoreNames
import Buildwright.Proofs.Disk.Overwriting
import Buildwright.Proofs.Dev.Regeneration
import Buildwright.Proofs.Disk.Lexical
import Buildwright.Proofs.Dev.Inward
import Buildwright.Proofs.Build.Registration
import Buildwright.Proofs.Dev.Monotonicity
import Buildwright.Proofs.Disk.Exactness
import Buildwright.Proofs.Disk.RoundTrip
import Buildwright.Proofs.Generation.StagedPlaces
import Buildwright.Proofs.Watch.Discipline
import Buildwright.Proofs.Watch.Modes
import Buildwright.Proofs.Build.Watching
import Buildwright.Proofs.Config.Resolution
import Buildwright.Proofs.ClassName.OutputFiles
import Buildwright.Proofs.Generation.PassingThrough
import Buildwright.Proofs.Dev.Reporting
import Buildwright.Proofs.Config.Filters
import Buildwright.Proofs.Config.Overlay
