import TuyaMiniSwitch.Library.Loop
import TuyaMiniSwitch.Library.Machine
import TuyaMiniSwitch.Library.NorFlash
import TuyaMiniSwitch.Library.RecordRun
import TuyaMiniSwitch.Library.Debounce
import TuyaMiniSwitch.Library.Calendar
import TuyaMiniSwitch.Library.Crc
import TuyaMiniSwitch.Library.CrashSafety
import TuyaMiniSwitch.Library.Refinement
import TuyaMiniSwitch.Library.ByteLanes
import TuyaMiniSwitch.Library.RecordFrames
import TuyaMiniSwitch.Platform.FlashDriver
import TuyaMiniSwitch.Platform.NvDriver
import TuyaMiniSwitch.Platform.NvSector
import TuyaMiniSwitch.Platform.NvTwoSectors
import TuyaMiniSwitch.Platform.NvItem
import TuyaMiniSwitch.Platform.NvCopy
import TuyaMiniSwitch.Platform.NvSectorUpdate
import TuyaMiniSwitch.Platform.NvStore
import TuyaMiniSwitch.Platform.NvWrite
import TuyaMiniSwitch.Platform.NvRuns
import TuyaMiniSwitch.Platform.NvFrameCount
import TuyaMiniSwitch.Platform.NvFrameWrite
import TuyaMiniSwitch.Platform.NvFrameRuns
import TuyaMiniSwitch.App.OnOffDurability
import TuyaMiniSwitch.App.SwitchAlive
import TuyaMiniSwitch.App.PowerOnPolicy
import TuyaMiniSwitch.App.RelayAgreement
import TuyaMiniSwitch.App.StoredStatus
import TuyaMiniSwitch.App.SettingsMirror
import TuyaMiniSwitch.App.RemoteCommands
import TuyaMiniSwitch.App.SettingsReboot
import TuyaMiniSwitch.App.DecoupledSwitch
import TuyaMiniSwitch.App.WriteCommands
import TuyaMiniSwitch.App.RefusedRecords
import TuyaMiniSwitch.App.SwitchOutputs
import TuyaMiniSwitch.App.SwitchNetwork
import TuyaMiniSwitch.App.FirstStart
import TuyaMiniSwitch.App.HoldRelease
import TuyaMiniSwitch.Common.ZigbeeOtaPowerCut
import TuyaMiniSwitch.App.RemoteDestinations
import TuyaMiniSwitch.App.ButtonBursts
import TuyaMiniSwitch.Common.FactoryReset
import TuyaMiniSwitch.Common.ZigbeeOtaOnce
import TuyaMiniSwitch.App.Steering
import TuyaMiniSwitch.App.SwitchDebounce
import TuyaMiniSwitch.App.MomentaryContact
import TuyaMiniSwitch.App.BurstCounting
import TuyaMiniSwitch.App.Weekday
import TuyaMiniSwitch.App.DeviceModel
import TuyaMiniSwitch.App.DefaultSettings
import TuyaMiniSwitch.App.Led
import TuyaMiniSwitch.App.Identify
import TuyaMiniSwitch.App.SteerWindow
import TuyaMiniSwitch.Tools.OtaPackers
import TuyaMiniSwitch.App.ReportTable
import TuyaMiniSwitch.App.Reporting
import TuyaMiniSwitch.App.ReportingRuns
import TuyaMiniSwitch.App.ReportingTimes
import TuyaMiniSwitch.App.ReportDevice
import TuyaMiniSwitch.App.ReportDelay
import TuyaMiniSwitch.App.ReportRestart
import TuyaMiniSwitch.App.Arith64
import TuyaMiniSwitch.App.Arith64Division
import TuyaMiniSwitch.App.Arith64Popcount
import TuyaMiniSwitch.App.ZclFrames
import TuyaMiniSwitch.App.ZclCfgReport
import TuyaMiniSwitch.App.ReportFrames
