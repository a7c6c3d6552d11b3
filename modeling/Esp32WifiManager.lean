import Esp32WifiManager.HttpServer.Reassembly
import Esp32WifiManager.HttpServer.ExcessData
import Esp32WifiManager.HttpServer.IntactBuffer
import Esp32WifiManager.HttpServer.AuthInfo
import Esp32WifiManager.HttpServer.AuthRuuvi
import Esp32WifiManager.HttpServer.Resp
import Esp32WifiManager.HttpServer.GetAuth
import Esp32WifiManager.HttpServer.HandleReq
import Esp32WifiManager.HttpServer.Sessions
import Esp32WifiManager.Lib.OneTimeTokens
import Esp32WifiManager.Lib.SlotTable
import Esp32WifiManager.HttpServer.Table
import Esp32WifiManager.HttpServer.SoundLogin
import Esp32WifiManager.HttpServer.SessionTokens
import Esp32WifiManager.HttpServer.Logout
import Esp32WifiManager.HttpServer.LiveSessions
import Esp32WifiManager.HttpServer.BearerLaw
import Esp32WifiManager.Lib.TaskSystem
import Esp32WifiManager.Lib.Mailbox
import Esp32WifiManager.Lib.BoundedQueue
import Esp32WifiManager.WifiManager.State
import Esp32WifiManager.WifiManager.Calls
import Esp32WifiManager.WifiManager.AccessPointsList
import Esp32WifiManager.WifiManager.WifimanMsg
import Esp32WifiManager.WifiManager.HandleMsg
import Esp32WifiManager.WifiManager.Requests
import Esp32WifiManager.WifiManager.System
import Esp32WifiManager.Lib.Contract
import Esp32WifiManager.WifiManager.Frames
import Esp32WifiManager.WifiManager.Deadlock
import Esp32WifiManager.WifiManager.StickyDisconnect
import Esp32WifiManager.WifiManager.Handlers
import Esp32WifiManager.WifiManager.ScanChain
import Esp32WifiManager.WifiManager.DisconnectReason
import Esp32WifiManager.WifiManager.AutoReconnect
import Esp32WifiManager.WifiManager.SavedConfig
import Esp32WifiManager.Lib.Triple
import Esp32WifiManager.WifiManager.Interfaces
import Esp32WifiManager.HttpServer.EmptySecret
import Esp32WifiManager.HttpServer.VersionInfo
import Esp32WifiManager.HttpServer.DigestBinding
import Esp32WifiManager.Lib.Ghost
import Esp32WifiManager.WifiManager.Start
import Esp32WifiManager.WifiManager.Recorded
import Esp32WifiManager.WifiManager.Hotspot
import Esp32WifiManager.WifiManager.Restart
import Esp32WifiManager.Lib.Announce
import Esp32WifiManager.WifiManager.Announcements
import Esp32WifiManager.WifiManager.ConnectPending
import Esp32WifiManager.WifiManager.WatchdogFeed
import Esp32WifiManager.Lib.Typestate
import Esp32WifiManager.Servers.ServerTasks
import Esp32WifiManager.Servers.Registration
import Esp32WifiManager.Servers.HttpLifecycle
import Esp32WifiManager.Lib.Handover
import Esp32WifiManager.Servers.DnsLifecycle
import Esp32WifiManager.WifiManager.UniqueAps
import Esp32WifiManager.HttpReqParse
import Esp32WifiManager.HeaderLines
import Esp32WifiManager.HttpServer.CookiePairs
import Esp32WifiManager.HttpServer.DigestDirectives
import Esp32WifiManager.HttpServer.ServeHandleReq
import Esp32WifiManager.Lib.FoldRuns
import Esp32WifiManager.WifiManager.ApConfig
import Esp32WifiManager.HttpServer.NetconnResp
import Esp32WifiManager.HttpServer.RespFraming
import Esp32WifiManager.HttpServer.RespIsolation
import Esp32WifiManager.HttpServer.ExtraFields
import Esp32WifiManager.HttpServer.ClientText
import Esp32WifiManager.HttpServer.HeaderBlock
import Esp32WifiManager.Lib.JsonText
import Esp32WifiManager.Lib.StrBuf
import Esp32WifiManager.WifiManager.JsonString
import Esp32WifiManager.WifiManager.JsonAccessPoints
import Esp32WifiManager.WifiManager.JsonNetworkInfo
import Esp32WifiManager.Lib.CallTrace
import Esp32WifiManager.WifiManager.Credentials
import Esp32WifiManager.WifiManager.WpsSuccess
import Esp32WifiManager.WifiManager.LanBlocking
import Esp32WifiManager.WifiManager.DriverMode
import Esp32WifiManager.Lib.Ranking
import Esp32WifiManager.WifiManager.PublishedScan
import Esp32WifiManager.Lib.CheckedMem
import Esp32WifiManager.Lib.DnsMessage
import Esp32WifiManager.Servers.DnsReply
import Esp32WifiManager.HttpServer.Ecdh
import Esp32WifiManager.Lib.Base64
import Esp32WifiManager.Lib.BlockPadding
import Esp32WifiManager.HttpServer.EcdhDecrypt
import Esp32WifiManager.HttpServer.EncryptedSize
import Esp32WifiManager.Servers.DnsBounds
import Esp32WifiManager.HttpServer.BoundedSearch
import Esp32WifiManager.HttpServer.HeaderSlices
import Esp32WifiManager.HttpServer.NetconnWrite
import Esp32WifiManager.Lib.Turns
import Esp32WifiManager.WifiManager.ScanChannels
import Esp32WifiManager.HttpServer.AuthHeap
import Esp32WifiManager.HttpServer.RespResources
import Esp32WifiManager.HttpServer.AuthDelay
import Esp32WifiManager.HttpServer.LoginProtocol
import Esp32WifiManager.WifiManager.MessageOrder
import Esp32WifiManager.Lib.Monitor
import Esp32WifiManager.WifiManager.SharedData
import Esp32WifiManager.WifiManager.RaceFreedom
import Esp32WifiManager.HttpServer.Effects
import Esp32WifiManager.HttpServer.Effects
