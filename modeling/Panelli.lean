import Panelli.Runs
import Panelli.Table
import Panelli.Filling
import Panelli.WifiHal.Registry
import Panelli.WifiHal.Commands
import Panelli.WifiHal.Api
import Panelli.WifiHal.Handlers
import Panelli.WifiHal.Heap
import Panelli.WifiHal.WellFormed
import Panelli.WifiHal.Dangling
import Panelli.WifiHal.Rollback
import Panelli.WifiHal.Registered
import Panelli.WifiHal.Leak
import Panelli.WifiHal.Threads
import Panelli.WifiHal.ThreadSafety
import Panelli.WifiHal.Cleanup
import Panelli.Bytes
import Panelli.Netlink.Attr
import Panelli.Netlink.Message
import Panelli.WifiHal.ScanSetup
import Panelli.Netlink.Iterator
import Panelli.WifiHal.GscanResult
import Panelli.WifiHal.CachedResults
import Panelli.WifiHal.Retrieval
import Panelli.WifiHal.ExactRetrieval
import Panelli.Access
import Panelli.WifiHal.FullScan
import Panelli.WifiHal.StoredCounts
import Panelli.WifiHal.HotspotMatch
import Panelli.WifiHal.PnoEvent
import Panelli.WifiHal.RecordEvents
import Panelli.WifiHal.Capabilities
import Panelli.WifiHal.FeatureSets
import Panelli.WifiHal.ChannelList
import Panelli.WifiHal.PasspointList
import Panelli.WifiHal.RequestResponse
import Panelli.Rtt.Elements
import Panelli.Rtt.Command
import Panelli.Rtt.Overrun
import Panelli.Rtt.Delivery
import Panelli.Rtt.Requests
import Panelli.Java
import Panelli.Telephony.Ril
import Panelli.Telephony.DataCall
import Panelli.Telephony.EccList
import Panelli.Telephony.EccUpdate
import Panelli.Telephony.Dial
import Panelli.Telephony.Solicited
import Panelli.Telephony.Answered
import Panelli.Telephony.Reported
import Panelli.Telephony.RadioPower
import Panelli.Telephony.Conditions
import Panelli.Parcel
import Panelli.Audio.AudioFlinger
import Panelli.WifiHal.UnregisterCmd
import Panelli.Telephony.Recognition
import Panelli.Telephony.EccPublication
import Panelli.Telephony.EccParse
import Panelli.Telephony.CidSlots
import Panelli.Telephony.Unsolicited
import Panelli.CString
import Panelli.WpaSupplicant.DriverCmd
import Panelli.WpaSupplicant.RxFilter
import Panelli.WpaSupplicant.Testmode
import Panelli.WpaSupplicant.TransparentCommand
import Panelli.WpaSupplicant.HostapdContext
import Panelli.WpaSupplicant.SharedFreqs
import Panelli.WpaSupplicant.SinkConfig
import Panelli.WifiHal.Interfaces
import Panelli.Slots
import Panelli.WifiHal.TableRefinement
import Panelli.Trace
import Panelli.Audio.CustomVolume
import Panelli.Audio.RowPositions
import Panelli.Interpolation
import Panelli.Audio.StreamVolume
import Panelli.Audio.VoiceVolume
import Panelli.Blocks
import Panelli.WifiHal.MemoryDump
import Panelli.WifiHal.Lifecycle
import Panelli.Netlink.Parse
import Panelli.WifiHal.Multicast
import Panelli.WifiHal.MessageLedger
import Panelli.Netlink.Puts
import Panelli.WifiHal.ApLists
import Panelli.WifiHal.EpnoList
import Panelli.WifiHal.WireFormat
import Panelli.Audio.EngineerMode
import Panelli.Audio.VolumeLoad
import Panelli.KeyedVector
import Panelli.Printf
import Panelli.Gui.DumpTunnel
import Panelli.Gui.Monitor
import Panelli.KeyValueLines
import Panelli.WpaSupplicant.StaReport
import Panelli.WpaSupplicant.StaStatistics
import Panelli.WpaSupplicant.CommandRun
import Panelli.WpaSupplicant.CommandState
import Panelli.WpaSupplicant.CommandMessages
import Panelli.WpaSupplicant.CommandAnswers
import Panelli.Netd.SoftapController
import Panelli.Descriptors
import Panelli.Netd.IfcUtils
import Panelli.Power.PowerProfiles
import Panelli.Power.TapToWake
