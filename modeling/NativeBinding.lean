import NativeBinding.Native.Layout
import NativeBinding.Native.SymbolTable
import NativeBinding.Programs.ErrorCatalogue
import NativeBinding.Programs.HelloHeadset
import NativeBinding.Programs.OwnProvider
import NativeBinding.Scenario.Run
import NativeBinding.Proofs.Answers
import NativeBinding.Proofs.Resolution
import NativeBinding.Proofs.Life
import NativeBinding.Proofs.Lookups
import NativeBinding.Proofs.Messages
import NativeBinding.Proofs.Ownership
import NativeBinding.Proofs.Soundness
import NativeBinding.Proofs.Sessions
import NativeBinding.Proofs.Creation
import NativeBinding.Proofs.Holdings
import NativeBinding.Proofs.Commands
import NativeBinding.Proofs.Ledger
import NativeBinding.Proofs.Runs
import NativeBinding.Proofs.Releases
import NativeBinding.Proofs.Tenures
import NativeBinding.Proofs.Tables
import NativeBinding.Proofs.LibraryTables
import NativeBinding.Proofs.Tags
import NativeBinding.Proofs.Selection
import NativeBinding.Proofs.CharRuns
import NativeBinding.Proofs.VersionGrammar
import NativeBinding.Proofs.VersionText
import NativeBinding.Proofs.Signals
import NativeBinding.Proofs.RuntimeLifecycle
import NativeBinding.Proofs.Installation
import NativeBinding.Proofs.SessionOrigins
import NativeBinding.Proofs.LiveLookups
import NativeBinding.Proofs.ErrorStreams
import NativeBinding.Proofs.ImpartialBindings
import NativeBinding.Proofs.ImpartialCommands
import NativeBinding.Proofs.VersionQueries
import NativeBinding.Proofs.Deliveries
import NativeBinding.Proofs.Settings
import NativeBinding.Proofs.ShortNames
import NativeBinding.Proofs.Loading
import NativeBinding.Proofs.ResolverLookups
import NativeBinding.Proofs.Encodings
import NativeBinding.Proofs.Decoding
import NativeBinding.Proofs.PlatformQueries
import NativeBinding.Proofs.AddedVersions
import NativeBinding.Proofs.RuntimeMessages
import NativeBinding.Proofs.HeadsetRuns
import NativeBinding.Proofs.TableResolution
import NativeBinding.Proofs.TagListings
import NativeBinding.Proofs.ExtensionNames
