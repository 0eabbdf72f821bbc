import ShipMotion.Utils.BoundedFifo
import ShipMotion.LockFreeQueueThreads
import ShipMotion.LockFreeQueueThreadsTheorems
import ShipMotion.DataOutputter.DropOld
import ShipMotion.LidarBgDiff
import ShipMotion.LidarBgDiffTheorems
import ShipMotion.Utils.Atan2
import ShipMotion.Utils.Rotations
import ShipMotion.Attitude
import ShipMotion.AttitudeTheorems
import ShipMotion.ConfigLoader
import ShipMotion.SixDofCalculator
import ShipMotion.PointCloudFuser
import ShipMotion.PointCloudFuser.PairLoopTheorems
import ShipMotion.SixDofCalculatorTheorems
import ShipMotion.PointCloudFuser.RunTheorems
import ShipMotion.PointCloudFuser.OrderTheorems
import ShipMotion.MotionPipeline
import ShipMotion.MotionPipelineTheorems
import ShipMotion.SystemStateManagerTheorems
import ShipMotion.PointCloudFuser.SilentRadarTheorems
import ShipMotion.PointCloudFuser.TimingTheorems
import ShipMotion.CoordinateFramesTheorems
import ShipMotion.Utils.SentinelExtrema
import ShipMotion.Utils.SlidingWindow
import ShipMotion.WharfDockChecker
import ShipMotion.WharfDockCheckerTheorems
import ShipMotion.LidarBgDiff.SharedFilter
import ShipMotion.LidarBgDiff.SharedFilterTheorems
import ShipMotion.Utils.TaskLedger
import ShipMotion.SixDofCalculator.WorkerPool
import ShipMotion.SixDofCalculator.WorkerPoolTheorems
import ShipMotion.DataOutputter.PositionHistory
import ShipMotion.SixDofCalculator.ResultOrderTheorems
import ShipMotion.ResultPipeline
import ShipMotion.ResultPipelineTheorems
import ShipMotion.IndustrialMqttClient
import ShipMotion.IndustrialMqttClientTheorems
import ShipMotion.IndustrialMqttClient.RestartTheorems
import ShipMotion.DataOutputter.AccelerationTheorems
import ShipMotion.LidarBgDiff.ShipCloudTheorems
import ShipMotion.LidarBgDiff.StabilityWindowTheorems
import ShipMotion.SixDofCalculator.BaseFrameTheorems
import ShipMotion.Utils.Samples
import ShipMotion.WharfDockChecker.FitTheorems
import ShipMotion.Utils.Arcs
import ShipMotion.WharfDockChecker.SeamTheorems
import ShipMotion.Utils.Json
import ShipMotion.Utils.JsonTheorems
import ShipMotion.IndustrialMqttClient.ShipDataJson
import ShipMotion.IndustrialMqttClient.ShipDataJsonTheorems
import ShipMotion.WharfDockChecker.WrapAngleTheorems
import ShipMotion.LockFreeQueueWords
import ShipMotion.LockFreeQueueWordsTheorems
import ShipMotion.SixDofCalculator.EnqueueRetryTheorems
import ShipMotion.SixDofCalculator.CsvWrapTheorems
import ShipMotion.ConfigLoader.MonitorConfig
import ShipMotion.ConfigLoader.MonitorConfigTheorems
import ShipMotion.DataOutputter.ShipPackage
import ShipMotion.SixDofCalculator.DefinedResultTheorems
import ShipMotion.IndustrialMqttClient.FlagTheorems
import ShipMotion.IndustrialMqttClient.ReconnectTheorems
import ShipMotion.Utils.Segments
import ShipMotion.GetLidarData
import ShipMotion.GetLidarData.EchoPackets
import ShipMotion.GetLidarData.LidarRun
import ShipMotion.GetLidarData.AngleTableTheorems
import ShipMotion.GetLidarData.FrameTheorems
import ShipMotion.GetLidarData.PointTimeTheorems
import ShipMotion.Utils.Mailbox
import ShipMotion.GetLidarData.FrameHandover
import ShipMotion.GetLidarData.ParserThreadTheorems
import ShipMotion.GetLidarData.FrameHandoverTheorems
import ShipMotion.MainProgram
import ShipMotion.MainProgram.StepTheorems
import ShipMotion.MainProgram.ProvenanceTheorems
import ShipMotion.MainProgram.EqualStampTheorems
import ShipMotion.Utils.Progress
import ShipMotion.SixDofCalculator.ShutdownTheorems
import ShipMotion.SixDofCalculator.SleepingWorkers
import ShipMotion.SixDofCalculator.SleepingWorkersTheorems
import ShipMotion.MainProgram.ShutdownTheorems
import ShipMotion.Utils.Regex
import ShipMotion.Utils.DottedQuad
import ShipMotion.Utils.JsonDump
import ShipMotion.DataOutputter.AlarmChannel
import ShipMotion.DataOutputter.AlarmChannelTheorems
import ShipMotion.GetLidarData.DeviceConfig
import ShipMotion.GetLidarData.DeviceConfigTheorems
import ShipMotion.GetLidarData.DeviceSessionTheorems
import ShipMotion.ConfigLoader.Fallbacks
import ShipMotion.ConfigLoader.FallbacksTheorems
