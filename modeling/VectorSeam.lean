import VectorSeam.Binary64
import VectorSeam.Text
import VectorSeam.Cohort
import VectorSeam.Ulids
import VectorSeam.Window
import VectorSeam.Model
import VectorSeam.Estimators
import VectorSeam.SortedMaps
import VectorSeam.Results
import VectorSeam.Accounting
import VectorSeam.Population
import VectorSeam.Aggregate
import VectorSeam.Decision
import VectorSeam.PartSets
import VectorSeam.Programs
import VectorSeam.LittleEndian
import VectorSeam.Frame
import VectorSeam.Segments
import VectorSeam.ObjectStore
import VectorSeam.Effects
import VectorSeam.Intermediate
import VectorSeam.Measure
import VectorSeam.Pipeline
import VectorSeam.Histories
import VectorSeam.Requests
import VectorSeam.Records
import VectorSeam.Fingerprints
import VectorSeam.Publishing
import VectorSeam.CarryFaults
import VectorSeam.Provenance
import VectorSeam.SourceParts
import VectorSeam.PendingParts
import VectorSeam.Calendar
import VectorSeam.Keys
import VectorSeam.Isolation
import VectorSeam.Deposits
import VectorSeam.Rounds
import VectorSeam.Tallies
import VectorSeam.Pairs
import VectorSeam.RoundEffects
import VectorSeam.Rounding
import VectorSeam.Origins
import VectorSeam.Counters
import VectorSeam.Progress
import VectorSeam.Fixpoints
import VectorSeam.Aliases
import VectorSeam.Blame
import VectorSeam.Blobs
import VectorSeam.ByteStreams
import VectorSeam.FirstRecords
import VectorSeam.Healing
import VectorSeam.Remeasuring
import VectorSeam.TornSegments
import VectorSeam.AdaptiveSampling
import VectorSeam.CaptureQueue
import VectorSeam.Cooldowns
import VectorSeam.Endpoints
import VectorSeam.Scope
import VectorSeam.Sufficiency
import VectorSeam.Ticks
import VectorSeam.Quantiles
import VectorSeam.Timestamps
import VectorSeam.Database
import VectorSeam.SdkCapacity
import VectorSeam.SdkRefreshes
import VectorSeam.RecommendationServer
import VectorSeam.ReceiveWindows
import VectorSeam.Bookkeeping
import VectorSeam.Handover
import VectorSeam.Served
import VectorSeam.Cancellation
import VectorSeam.Completion
