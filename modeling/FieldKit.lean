import FieldKit.Lib.Run
import FieldKit.Comms.Pairing
import FieldKit.Comms.Session
import FieldKit.Comms.Transaction
import FieldKit.Firmware.Storage
import FieldKit.Module.Module
import FieldKit.Module.Commit
import FieldKit.Core.Persistence
import FieldKit.Core.Streaming
import FieldKit.Core.Agreement
import FieldKit.Files.FileSystem
import FieldKit.Files.Cursors
import FieldKit.Files.TransmitFile
import FieldKit.Core.Delivery
import FieldKit.Http.ResponseHead
import FieldKit.Protobuf.Consumers
import FieldKit.Protobuf.Demand
import FieldKit.Core.AttachedDevices
import FieldKit.Core.Peripherals
import FieldKit.Core.Fsm
import FieldKit.Firmware.Download
import FieldKit.Firmware.Backup
import FieldKit.Module.Reporting
import FieldKit.Module.Accesses
import FieldKit.Files.DataLogging
import FieldKit.Files.LogRotation
import FieldKit.Core.Metadata
import FieldKit.Core.ApiConnection
import FieldKit.Core.ScanMemory
import FieldKit.Core.ScanProgress
import FieldKit.Protobuf.RoundTrip
import FieldKit.ChecksumStreams
import FieldKit.Files.CursorStore
import FieldKit.Files.EraseFile
import FieldKit.Files.ReadRange
import FieldKit.Files.DownloadFile
import FieldKit.Files.Attempts
import FieldKit.Firmware.CheckTask
import FieldKit.Core.Gathering
import FieldKit.Lib.Mailbox
import FieldKit.Core.LiveData
import FieldKit.Core.StaleReadings
import FieldKit.Lib.CString
import FieldKit.Http.Url
import FieldKit.Core.StoredNames
import FieldKit.Leds
import FieldKit.Module.PowerSwitch
import FieldKit.Lib.Interpolation
import FieldKit.Core.Power
import FieldKit.Lib.Deadline
import FieldKit.Core.Deadlines
import FieldKit.Core.Sleep
import FieldKit.Lib.Buffer
import FieldKit.Core.DeviceId
import FieldKit.Lib.Arena
import FieldKit.PoolMemory
import FieldKit.Http.ParserMemory
import FieldKit.Http.UrlMemory
import FieldKit.Core.Device
import FieldKit.Core.ReadingCycle
import FieldKit.Core.DevicePower
import FieldKit.Core.WifiSession
import FieldKit.Core.UserButton
import FieldKit.Http.RequestHead
import FieldKit.Firmware.Conditional
import FieldKit.Lib.Durable
import FieldKit.Core.ConfigStore
import FieldKit.Core.Attribution
import FieldKit.Core.SimpleNtp
import FieldKit.Core.AppSession
import FieldKit.Lib.Resume
import FieldKit.Files.Delivered
import FieldKit.Core.LiveSchedule
import FieldKit.Core.Gps
