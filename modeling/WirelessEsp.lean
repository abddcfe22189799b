import WirelessEsp.LeWords
import WirelessEsp.Transition
import WirelessEsp.WebsocketDispatch
import WirelessEsp.DapExclusive
import WirelessEsp.DapCounting
import WirelessEsp.DapSessions
import WirelessEsp.SwdCycles
import WirelessEsp.SwdSequence
import WirelessEsp.Transports
import WirelessEsp.PinRouting
import WirelessEsp.UsbipStages
import WirelessEsp.UsbipReplies
import WirelessEsp.ResponseSize
import WirelessEsp.ElaphureLink
import WirelessEsp.WifiLock
import WirelessEsp.WifiAttempts
import WirelessEsp.WifiStopTask
import WirelessEsp.WifiScanRuns
import WirelessEsp.ModeChange
import WirelessEsp.ConnectAttempt
import WirelessEsp.CredentialRoundTrip
import WirelessEsp.TransferLength
import WirelessEsp.WebsocketSessions
import WirelessEsp.UartBridge
import WirelessEsp.ApiOwnership
import WirelessEsp.ApiPool
import WirelessEsp.ApiReplies
import WirelessEsp.WebsocketBuffer
import WirelessEsp.WebsocketHandshake
import WirelessEsp.WebsocketPing
import WirelessEsp.WebsocketFragments
import WirelessEsp.UriModules
import WirelessEsp.UriMatch
import WirelessEsp.HeartbeatBroadcast
import WirelessEsp.ApiJsonRouter
import WirelessEsp.BaudCommand
import WirelessEsp.NvsHandles
import WirelessEsp.StaticConf
import WirelessEsp.CommandSteps
import WirelessEsp.CallRecord
import WirelessEsp.PinDelay
import WirelessEsp.SwjPinsWait
import WirelessEsp.TapController
import WirelessEsp.JtagIr
import WirelessEsp.ScanChain
import WirelessEsp.GetDescriptor
import WirelessEsp.PostedTarget
import WirelessEsp.PostedReads
import WirelessEsp.SwjClock
import WirelessEsp.WebsocketUnmask
import WirelessEsp.ApAutoDelay
import WirelessEsp.SsdpService
import WirelessEsp.CredentialStrings
import WirelessEsp.GetScan
import WirelessEsp.ByteRing
import WirelessEsp.DapRings
import WirelessEsp.DapAlignment
import WirelessEsp.PostedBlock
import WirelessEsp.LinkSimulation
import WirelessEsp.WaitingTarget
import WirelessEsp.ScanPath
import WirelessEsp.JtagDp
import WirelessEsp.JtagTarget
import WirelessEsp.JtagWires
import WirelessEsp.JtagAbort
import WirelessEsp.SwLine
import WirelessEsp.SwdFrames
import WirelessEsp.SwdWires
import WirelessEsp.SwdTarget
import WirelessEsp.SwdSession
import WirelessEsp.Kcp
import WirelessEsp.KcpCalls
import WirelessEsp.KcpDelivery
import WirelessEsp.KcpCheck
import WirelessEsp.KcpBuffer
