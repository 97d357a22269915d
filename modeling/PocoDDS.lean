import PocoDDS.Application.SequentialWorkflow
import PocoDDS.BundleManagement.Monitor
import PocoDDS.DDS.EnvelopeTopicDataType
import PocoDDS.DDS.ServiceOnce
import PocoDDS.Devices.ActuatorPeriods
import PocoDDS.Devices.CanSignalSensor
import PocoDDS.Devices.NumericPayloads
import PocoDDS.Devices.SerialPortDevice
import PocoDDS.Devices.XBeeAnalogSensor
import PocoDDS.Gnss.NmeaGnssDevice
import PocoDDS.Gnss.ReceiveLoop
import PocoDDS.Launcher.RestartBudget
import PocoDDS.Modbus.ResponseMatch
import PocoDDS.Monitoring.AlertPairing
import PocoDDS.Monitoring.AlertSinks
import PocoDDS.Monitoring.ConfigRecovery
import PocoDDS.Monitoring.LedgerRecovery
import PocoDDS.Monitoring.PluginQuarantine
import PocoDDS.Monitoring.TaskSubmit
import PocoDDS.Mqtt.SessionState
import PocoDDS.OSP.BundleLoader
import PocoDDS.Observability.HistoryPages
import PocoDDS.Observability.MetricSeparation
import PocoDDS.Observability.SecretFlow
import PocoDDS.Observability.SpanLifecycle
import PocoDDS.ProcessManagement.SubprocessManager
import PocoDDS.Reliability.IdempotencyWindow
import PocoDDS.Ros.LostConnection
import PocoDDS.Ros.Reassembly
import PocoDDS.Security.PrincipalStore
import PocoDDS.Server.Heartbeat
import PocoDDS.Services.ProtocolGateway
import PocoDDS.Tools.AcceptanceEvidence
import PocoDDS.Tools.Compatibility
import PocoDDS.Tools.CtestLayout
import PocoDDS.Tools.EvidenceRoundTrip
import PocoDDS.Tools.FileLocks
import PocoDDS.Tools.IsolatedCopies
import PocoDDS.Tools.PipelineResume
import PocoDDS.Tools.PluginPlacement
import PocoDDS.Tools.PluginRecords
import PocoDDS.Tools.ReleaseApproval
import PocoDDS.Tools.RestoreAtomic
import PocoDDS.Tools.RestoredRuntime
import PocoDDS.Tools.SecurityReading
import PocoDDS.Tools.SubprocessEdits
import PocoDDS.Tools.UpgradeInstall
import PocoDDS.XBee.Reassembly
import PocoDDS.XBee.Resync
import PocoDDS.XBee.SampleRoundTrip
import PocoDDS.Reliability.CircuitBreaker
