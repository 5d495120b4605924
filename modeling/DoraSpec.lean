import DoraSpec.Cli.Lockfile
import DoraSpec.Cli.RecordedTopics
import DoraSpec.Coordinator.BarrierProgress
import DoraSpec.Coordinator.CatchUp
import DoraSpec.Coordinator.DaemonConnections
import DoraSpec.Coordinator.DataflowList
import DoraSpec.Coordinator.Destroy
import DoraSpec.Coordinator.LogDelta
import DoraSpec.Coordinator.ParamReplay
import DoraSpec.Coordinator.SpawnRollback
import DoraSpec.Coordinator.StopAnswers
import DoraSpec.Coordinator.TopologyReplies
import DoraSpec.Core.GitClones
import DoraSpec.Core.ModuleCycles
import DoraSpec.Core.ModuleParams
import DoraSpec.Core.ModulePaths
import DoraSpec.Core.ModuleScoping
import DoraSpec.Core.ResolvedNodes
import DoraSpec.Core.RuleChains
import DoraSpec.Core.Suggestions
import DoraSpec.Core.TypeCheck
import DoraSpec.Daemon.CatchUpEntries
import DoraSpec.Daemon.ChannelAccounting
import DoraSpec.Daemon.DebugFrames
import DoraSpec.Daemon.ExitReports
import DoraSpec.Daemon.InputTimeouts
import DoraSpec.Daemon.NodeRemoval
import DoraSpec.Daemon.Reconnect
import DoraSpec.Daemon.SpawnReports
import DoraSpec.Daemon.SpawnRequests
import DoraSpec.Daemon.StopKills
import DoraSpec.Daemon.TimerTasks
import DoraSpec.Daemon.TokenWaits
import DoraSpec.Message.InputMappingLaws
import DoraSpec.Node.CloseOutputs
import DoraSpec.Node.Correlation
import DoraSpec.Node.PathOrder
import DoraSpec.Node.QueueLimits
import DoraSpec.Node.SchedulerFairness
import DoraSpec.Node.SharedRegions
import DoraSpec.Node.StreamEnd
import DoraSpec.Node.TokenConservation
import DoraSpec.Recording.Replay
import DoraSpec.Recording.Truncation
import DoraSpec.Ros2.RoundTrip
import DoraSpec.Ros2.ServiceServer
import DoraSpec.Ros2.WrittenBounds
import DoraSpec.Runtime.OperatorChannel
import DoraSpec.SharedMemory.Channel
import DoraSpec.Store.Agreement
