import EquipmentControl.Library.Decimal
import EquipmentControl.Library.Tokens
import EquipmentControl.Library.Lines
import EquipmentControl.Library.Machine
import EquipmentControl.Library.Interleaving
import EquipmentControl.Library.Conservation
import EquipmentControl.Library.SlotTable
import EquipmentControl.Library.LinkedList
import EquipmentControl.Library.Heartbeat
import EquipmentControl.Library.CheckedBuffer
import EquipmentControl.Library.ByteMemory
import EquipmentControl.Library.BoundedLine
import EquipmentControl.Library.StringBuffer
import EquipmentControl.Protocol.Message
import EquipmentControl.Protocol.LineCodec
import EquipmentControl.Protocol.ParseBuffer
import EquipmentControl.Protocol.FormatBuffer
import EquipmentControl.Protocol.RoundTrip
import EquipmentControl.Protocol.KeyValues
import EquipmentControl.Protocol.Grammar
import EquipmentControl.Protocol.Relaying
import EquipmentControl.Protocol.Telemetry
import EquipmentControl.Protocol.Session
import EquipmentControl.Protocol.SessionBuffer
import EquipmentControl.Protocol.LongLines
import EquipmentControl.Equipmentd.ModuleRegistry
import EquipmentControl.Equipmentd.Scheduler
import EquipmentControl.Equipmentd.RequestTracker
import EquipmentControl.Equipmentd.Router
import EquipmentControl.Equipmentd.RecordedState
import EquipmentControl.Equipmentd.EventOrder
import EquipmentControl.Equipmentd.Control
import EquipmentControl.Equipmentd.JobRuns
import EquipmentControl.Equipmentd.Serving
import EquipmentControl.Equipmentd.Connections
import EquipmentControl.Equipmentd.Daemon
import EquipmentControl.Equipmentd.ConnectionTable
import EquipmentControl.Equipmentd.IdleScan
import EquipmentControl.Equipmentd.ClientEvent
import EquipmentControl.Equipmentd.ConnectionMemory
import EquipmentControl.Equipmentd.EventLoop
import EquipmentControl.Equipmentd.ClientStreams
import EquipmentControl.Equipmentd.LineSteps
import EquipmentControl.Equipmentd.ResponseOrigin
import EquipmentControl.Equipmentd.FailedLines
import EquipmentControl.Equipmentd.SchedulerTurns
import EquipmentControl.Equipmentd.RequestOutcomes
import EquipmentControl.Equipmentd.ControlRuns
import EquipmentControl.Equipmentd.TrackerDiscipline
import EquipmentControl.Equipmentd.SentJobs
import EquipmentControl.Equipmentd.LiveLinks
import EquipmentControl.Equipmentd.RequestOwners
import EquipmentControl.Equipmentd.SilentTimeouts
import EquipmentControl.Equipmentd.Relay
import EquipmentControl.Equipmentd.FaultLatch
import EquipmentControl.Equipmentd.DormantScheduler
import EquipmentControl.Equipmentd.Acknowledgements
import EquipmentControl.Equipmentd.ModuleHealth
import EquipmentControl.Pmc.Serial
import EquipmentControl.Pmc.AuxDevice
import EquipmentControl.Pmc.AuxSession
import EquipmentControl.Pmc.LineStream
import EquipmentControl.Pmc.BootLines
import EquipmentControl.Pmc.Router
import EquipmentControl.Pmc.SerialReturns
import EquipmentControl.Pmc.EqdRequests
import EquipmentControl.Pmc.Actuation
import EquipmentControl.Pmc.InterlockRuns
import EquipmentControl.Pmc.PeerMemory
import EquipmentControl.Pmc.EventLoop
import EquipmentControl.Sim.Simulator
import EquipmentControl.Sim.DeviceRuns
import EquipmentControl.Sim.ProcessRuns
import EquipmentControl.Plant.FaultHeater
import EquipmentControl.Plant.Completion
import EquipmentControl.Plant.Station
import EquipmentControl.Plant.StationSteps
import EquipmentControl.Plant.RequestConservation
import EquipmentControl.Plant.ClientExchange
import EquipmentControl.Plant.TransferHealth
import EquipmentControl.Plant.Equipment
import EquipmentControl.Plant.Mirror
import EquipmentControl.Plant.StopAndWait
import EquipmentControl.Tmc.Transfer
import EquipmentControl.Tmc.TransferRuns
