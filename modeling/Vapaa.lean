import Vapaa.Foundation.MixedRadix
import Vapaa.Foundation.LoopNest
import Vapaa.Descriptor
import Vapaa.ErrorClass
import Vapaa.Foundation.TypeMap
import Vapaa.NamedType
import Vapaa.DatatypeBuilder
import Vapaa.BuilderLoops
import Vapaa.BuilderProperties
import Vapaa.Mpich
import Vapaa.NamedSections
import Vapaa.IndexedSections
import Vapaa.Collectives
import Vapaa.MessageMatching
import Vapaa.Packing
import Vapaa.SendReceive
import Vapaa.SizeConservation
import Vapaa.StatusDelivery
import Vapaa.BlockCollectives
import Vapaa.BuilderEffects
import Vapaa.Completeness
import Vapaa.CompletionIndices
import Vapaa.Datatypes
import Vapaa.ErrorTranslation
import Vapaa.FailedBuilds
import Vapaa.Foundation.LittleEndian
import Vapaa.Foundation.MapCorrespondence
import Vapaa.Foundation.PaddedStrings
import Vapaa.HandleRuns
import Vapaa.InfoMaps
import Vapaa.IntegerBounds
import Vapaa.Sentinels
import Vapaa.TypeNesting
import Vapaa.ErrorQueries
import Vapaa.InfoStrings
import Vapaa.OutputStrings
import Vapaa.Foundation.RankedGroups
import Vapaa.GroupRanks
import Vapaa.CommunicatorSplits
import Vapaa.Reductions
import Vapaa.NonblockingDuplicates
import Vapaa.IndexedStores
import Vapaa.Enumerations
import Vapaa.RootSignificance
import Vapaa.ReadBounds
import Vapaa.Foundation.Channels
import Vapaa.MessagePassing
import Vapaa.CollectivePrograms
import Vapaa.VectorCollectives
import Vapaa.Foundation.FileStores
import Vapaa.FileWrappers
import Vapaa.FilePrograms
import Vapaa.Foundation.Grids
import Vapaa.SectionDatatypes
import Vapaa.Foundation.GroupAlgebra
import Vapaa.GroupWrappers
import Vapaa.GroupPrograms
import Vapaa.Foundation.RankFolds
import Vapaa.ReductionPrograms
import Vapaa.Foundation.Tickets
import Vapaa.Requests
import Vapaa.RequestCompletions
import Vapaa.RequestConsistency
import Vapaa.RequestProgress
import Vapaa.RequestPrograms
import Vapaa.Startup
import Vapaa.StartupPrograms
