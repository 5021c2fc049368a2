import CubemarsDriver.Can.Addressing
import CubemarsDriver.Can.Backlog
import CubemarsDriver.Can.Bus
import CubemarsDriver.Can.Delivery
import CubemarsDriver.Can.Device
import CubemarsDriver.Can.Disabling
import CubemarsDriver.Can.Exchange
import CubemarsDriver.Can.ExchangeFrame
import CubemarsDriver.Can.Frame
import CubemarsDriver.Can.Handshake
import CubemarsDriver.Can.HandshakeReply
import CubemarsDriver.Can.LastReply
import CubemarsDriver.Can.MistakenCommands
import CubemarsDriver.Can.OriginFrames
import CubemarsDriver.Can.Payload
import CubemarsDriver.Can.ReceiveTimeout
import CubemarsDriver.Can.ReplyStatus
import CubemarsDriver.Can.SharedFrame
import CubemarsDriver.Can.SizeGuard
import CubemarsDriver.Can.Trace
import CubemarsDriver.Com
import CubemarsDriver.Filters
import CubemarsDriver.Filters.FifoWindow
import CubemarsDriver.Filters.Median
import CubemarsDriver.Filters.MovingAverage
import CubemarsDriver.Filters.Resizing
import CubemarsDriver.Foundation.BitFields
import CubemarsDriver.Foundation.Confines
import CubemarsDriver.Foundation.Coupling
import CubemarsDriver.Foundation.Descent
import CubemarsDriver.Foundation.Interleaving
import CubemarsDriver.Foundation.LockOrder
import CubemarsDriver.Foundation.Mutex
import CubemarsDriver.Foundation.Nibbles
import CubemarsDriver.Foundation.Path
import CubemarsDriver.Foundation.Quantizer
import CubemarsDriver.Foundation.Ranks
import CubemarsDriver.Foundation.Relations
import CubemarsDriver.Foundation.RingBuffer
import CubemarsDriver.Foundation.Rows
import CubemarsDriver.Foundation.Trace
import CubemarsDriver.Node.Activation
import CubemarsDriver.Node.AllOrigins
import CubemarsDriver.Node.Attendance
import CubemarsDriver.Node.AverageSafety
import CubemarsDriver.Node.BatchOrder
import CubemarsDriver.Node.BatchPermutations
import CubemarsDriver.Node.Batches
import CubemarsDriver.Node.Build
import CubemarsDriver.Node.CommandInForce
import CubemarsDriver.Node.Configure
import CubemarsDriver.Node.Configured
import CubemarsDriver.Node.ConfiguredBy
import CubemarsDriver.Node.Constraints
import CubemarsDriver.Node.Crew
import CubemarsDriver.Node.Cycle
import CubemarsDriver.Node.CycleFilters
import CubemarsDriver.Node.CycleFits
import CubemarsDriver.Node.CycleReplies
import CubemarsDriver.Node.CycleRows
import CubemarsDriver.Node.CycleRules
import CubemarsDriver.Node.CycleSafety
import CubemarsDriver.Node.CycleScripts
import CubemarsDriver.Node.DisabledFirst
import CubemarsDriver.Node.DisabledRuns
import CubemarsDriver.Node.Disabling
import CubemarsDriver.Node.Divisors
import CubemarsDriver.Node.Entries
import CubemarsDriver.Node.ErrorCounter
import CubemarsDriver.Node.Escalation
import CubemarsDriver.Node.ExecutorScripts
import CubemarsDriver.Node.FilterStability
import CubemarsDriver.Node.FilterSwitch
import CubemarsDriver.Node.Fresh
import CubemarsDriver.Node.Gate
import CubemarsDriver.Node.Held
import CubemarsDriver.Node.Identifiers
import CubemarsDriver.Node.Joins
import CubemarsDriver.Node.JointNames
import CubemarsDriver.Node.Lifecycle
import CubemarsDriver.Node.LimitCheck
import CubemarsDriver.Node.LoadedCommands
import CubemarsDriver.Node.LockScripts
import CubemarsDriver.Node.MutexSafety
import CubemarsDriver.Node.NamedSettings
import CubemarsDriver.Node.OneOrigin
import CubemarsDriver.Node.Operations
import CubemarsDriver.Node.Origin
import CubemarsDriver.Node.OriginSafety
import CubemarsDriver.Node.ParameterNames
import CubemarsDriver.Node.Placement
import CubemarsDriver.Node.Provenance
import CubemarsDriver.Node.Provisions
import CubemarsDriver.Node.Publishing
import CubemarsDriver.Node.Retained
import CubemarsDriver.Node.Roster
import CubemarsDriver.Node.RoundTrip
import CubemarsDriver.Node.SetParameters
import CubemarsDriver.Node.Setups
import CubemarsDriver.Node.Sharing
import CubemarsDriver.Node.StaleState
import CubemarsDriver.Node.StampBound
import CubemarsDriver.Node.State
import CubemarsDriver.Node.Supervisor
import CubemarsDriver.Node.TablesInStep
import CubemarsDriver.Node.Validation
import CubemarsDriver.Node.WriteBack
import CubemarsDriver.Plugin.ActivationHandshakes
import CubemarsDriver.Plugin.Component
import CubemarsDriver.Plugin.DecodedCommand
import CubemarsDriver.Plugin.MistakenFrames
import CubemarsDriver.Plugin.ModePriority
import CubemarsDriver.Plugin.ModeSwitch
import CubemarsDriver.Plugin.PackCmd
import CubemarsDriver.Plugin.ReplyLag
import CubemarsDriver.Plugin.Shutdown
import CubemarsDriver.Plugin.Socket
import CubemarsDriver.Plugin.StoppedJoints
import CubemarsDriver.Plugin.SwitchedGains
import CubemarsDriver.Plugin.Traffic
import CubemarsDriver.Plugin.WriteReplies
import CubemarsDriver.Scalar
