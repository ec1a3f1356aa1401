import Songpark.Core.RegisterFile
import Songpark.Device.RegIo
import Songpark.Core.StateProgram
import Songpark.Device.StreamControl
import Songpark.Text.Address
import Songpark.Device.EthParam
import Songpark.Device.Codec
import Songpark.Device.Display
import Songpark.Device.MixerControl
import Songpark.Ui.State
import Songpark.Ui.Command
import Songpark.Ui.Execute
import Songpark.Ui.Frame
import Songpark.Ui.EthSettings
import Songpark.Ui.Init
import Songpark.Ui.MacAddress
import Songpark.Ui.Streaming
import Songpark.Ui.StreamSettings
import Songpark.Ui.SharedVariable
import Songpark.Ui.Volume
import Songpark.Ui.Console
import Songpark.Ui.FailedArgument
import Songpark.Platform.Server
import Songpark.Platform.Online
import Songpark.Platform.LostUpdate
import Songpark.Platform.Registry
import Songpark.Ui.Unmapped
import Songpark.Ui.Mapping
import Songpark.Platform.Authz
import Songpark.Device.DelayLimits
import Songpark.Ui.Filters
import Songpark.Ui.SyncOff
import Songpark.Device.ConfigStore
import Songpark.Core.BitField
import Songpark.Device.FeatureBits
import Songpark.Ui.StartupAddress
import Songpark.Text.CharArray
import Songpark.Text.Groups
import Songpark.Ui.WordStores
import Songpark.Text.LetterCase
import Songpark.Device.MacNumber
import Songpark.Device.ReadStream
import Songpark.Ui.PacketLength
import Songpark.Device.CodecWords
import Songpark.Device.FilterRuns
import Songpark.Core.Lanes
import Songpark.Ui.OledPanel
import Songpark.Ui.OledCells
import Songpark.Ui.OledMessages
import Songpark.Platform.AppView
import Songpark.Core.Expansion
import Songpark.Platform.RoleMatching
import Songpark.Platform.RequestParams
import Songpark.Text.GroupValues
import Songpark.Core.Relay
import Songpark.Ui.PacketThreads
import Songpark.Core.ReadModifyWrite
import Songpark.Platform.Threads
import Songpark.Core.NestedMap
import Songpark.Platform.Database
import Songpark.Ui.Script
import Songpark.Ui.Isolation
import Songpark.Ui.Screen
import Songpark.Ui.SettingReports
import Songpark.Core.Conversation
import Songpark.Device.BringUp
import Songpark.Ui.AsBuilt
import Songpark.Ui.Leds
import Songpark.Ui.Startup
import Songpark.Ui.StackStore
