import EnergyStorage.Lib.Machine
import EnergyStorage.Bms.Table
import EnergyStorage.Bms.FrameRouter
import EnergyStorage.Bms.TableRuntime
import EnergyStorage.Protocol.DeviceData
import EnergyStorage.Bms.Decoding
import EnergyStorage.Bms.LogicAdapter
import EnergyStorage.Bms.Tx
import EnergyStorage.Control.Commands
import EnergyStorage.Bms.RuntimeHealth
import EnergyStorage.Bms.CommandManager
import EnergyStorage.Bms.Loop
import EnergyStorage.Bms.Closing
import EnergyStorage.Bms.FireLevel
import EnergyStorage.Bms.Intake
import EnergyStorage.Bms.Markers
import EnergyStorage.Pcu.Runtime
import EnergyStorage.Logic.Context
import EnergyStorage.Logic.HmiInput
import EnergyStorage.Control.Business
import EnergyStorage.Pcu.Tx
import EnergyStorage.Logic.Engine
import EnergyStorage.Logic.HighVoltage
import EnergyStorage.Logic.PowerRequest
import EnergyStorage.Logic.PcuCommands
import EnergyStorage.Logic.PcuPower
import EnergyStorage.Fault.ConditionState
import EnergyStorage.Fault.LogicEvaluator
import EnergyStorage.Fault.Rounds
import EnergyStorage.Fault.PcuEstop
import EnergyStorage.Parser.ReqAssembler
import EnergyStorage.Parser.FrameAssembler
import EnergyStorage.Hmi.AddressTable
import EnergyStorage.Hmi.Proto
import EnergyStorage.Hmi.Response
import EnergyStorage.Hmi.Writes
import EnergyStorage.Hmi.Map
import EnergyStorage.Driver.Manager
import EnergyStorage.Scheduler.DeviceScheduler
import EnergyStorage.Bms.Interleaving
import EnergyStorage.Lib.Journal
import EnergyStorage.Lib.Paging
import EnergyStorage.Snapshot.FaultSink
import EnergyStorage.Snapshot.HistoryQueries
import EnergyStorage.Fault.Center
import EnergyStorage.Fault.History
import EnergyStorage.Fault.HistoryCache
import EnergyStorage.Fault.HistoryRuns
import EnergyStorage.Fault.PageRefresh
import EnergyStorage.Fault.Tokens
import EnergyStorage.Fault.Signals
import EnergyStorage.Fault.DeviceSignals
import EnergyStorage.Fault.RuntimeMapper
import EnergyStorage.Fault.SharedCodes
import EnergyStorage.Fault.Aliases
import EnergyStorage.Bms.RuntimeIds
import EnergyStorage.Bms.TxFrame
import EnergyStorage.Bms.ByteOrder
import EnergyStorage.Bms.FaultEvaluator
import EnergyStorage.Logic.PcuOnline
import EnergyStorage.Logic.ControlLoop
import EnergyStorage.Logic.HmiParams
import EnergyStorage.Scheduler.Polling
import EnergyStorage.Lib.Mirror
import EnergyStorage.Aggregator.ItemHealth
import EnergyStorage.App.HealthMerge
import EnergyStorage.Lib.Json
import EnergyStorage.Lib.Numeral
import EnergyStorage.Normal.HmiMapLoader
import EnergyStorage.Normal.NormalHmiWriter
import EnergyStorage.Normal.BlockRanges
import EnergyStorage.Lib.Mailbox
import EnergyStorage.Logic.SnapshotSlot
import EnergyStorage.Logic.LoopRestart
import EnergyStorage.Lib.Sampling
import EnergyStorage.Scheduler.TimerCycles
import EnergyStorage.Logic.UpsInput
import EnergyStorage.Fault.FaultSummary
import EnergyStorage.Lib.Streak
import EnergyStorage.Fault.Debouncing
import EnergyStorage.Parser.AsciiFrameAssembler
import EnergyStorage.Parser.AsciiLines
import EnergyStorage.Driver.SerialThread
import EnergyStorage.Driver.SerialSending
import EnergyStorage.Driver.LinkTimeout
import EnergyStorage.Snapshot.SystemSnapshot
import EnergyStorage.Snapshot.FileSink
import EnergyStorage.Aggregator.AlarmFlags
import EnergyStorage.Lib.ChangeCache
import EnergyStorage.Lib.Sql
import EnergyStorage.Snapshot.BmsFlatSink
import EnergyStorage.Snapshot.BmsChangeLog
import EnergyStorage.Snapshot.SnapshotFlatSink
import EnergyStorage.Snapshot.FlatSinkFaults
import EnergyStorage.Logic.ButtonClicks
import EnergyStorage.Maintain.Storage
import EnergyStorage.Maintain.Service
import EnergyStorage.Maintain.SavedSettings
import EnergyStorage.Pcu.GunInputs
import EnergyStorage.Fault.SequenceNumbers
import EnergyStorage.Fault.PageTurns
import EnergyStorage.Fault.Catalog
import EnergyStorage.Normal.EngineeringValues
import EnergyStorage.Bms.ProtoValidate
import EnergyStorage.Bms.ProtoGenerate
import EnergyStorage.Lib.Beacon
import EnergyStorage.Bms.LifeSignals
import EnergyStorage.Pcu.Heartbeats
import EnergyStorage.Driver.IoMap
import EnergyStorage.Protocol.Rs485Devices
import EnergyStorage.App.Rs485Frames
import EnergyStorage.Fault.WindowBounds
import EnergyStorage.Fault.CodeTexts
import EnergyStorage.Maintain.StoredConfig
import EnergyStorage.Lib.LatestQueue
import EnergyStorage.Bms.Worker
import EnergyStorage.Fault.MapReaders
import EnergyStorage.Lib.Strtod
import EnergyStorage.Protocol.UpsTokens
import EnergyStorage.Fault.CurrentPages
import EnergyStorage.Fault.PageLayout
import EnergyStorage.Normal.MapIndexes
import EnergyStorage.Fault.PageManager
import EnergyStorage.Fault.PageRegisters
import EnergyStorage.Fault.PageMaps
import EnergyStorage.Fault.CurrentPaging
import EnergyStorage.Driver.CanThread
import EnergyStorage.Driver.CanSending
import EnergyStorage.Driver.CanWakeups
import EnergyStorage.Driver.CanReconnect
import EnergyStorage.Lib.Ring
import EnergyStorage.J1939.Adapter
import EnergyStorage.J1939.Ids
import EnergyStorage.Driver.Outputs
import EnergyStorage.Driver.Inputs
import EnergyStorage.Lib.ShiftRegister
import EnergyStorage.Modbus.Damage
import EnergyStorage.Pcu.StatusFrame
import EnergyStorage.Protocol.CanDispatcher
import EnergyStorage.App.CanIntake
import EnergyStorage.Fault.BatteryCodes
import EnergyStorage.Scheduler.PollTimes
import EnergyStorage.Modbus.Server
import EnergyStorage.App.Rs485Queries
import EnergyStorage.App.Rs485Answers
import EnergyStorage.Protocol.Ups232
import EnergyStorage.Logic.UpsReports
import EnergyStorage.App.PanelWatch
import EnergyStorage.Bms.LastFrames
import EnergyStorage.App.BatteryIntake
import EnergyStorage.App.PanelRequests
import EnergyStorage.App.PanelPages
