import Rusnel.Foundation.Transition
import Rusnel.Foundation.Indexed
import Rusnel.Foundation.Table
import Rusnel.Foundation.Utf8
import Rusnel.Foundation.NetGrammar
import Rusnel.Foundation.SocketText
import Rusnel.Foundation.TcpConn
import Rusnel.Foundation.ArgRules
import Rusnel.Foundation.Columns
import Rusnel.Foundation.Json
import Rusnel.Common.RemoteParser
import Rusnel.Common.AddrTokens
import Rusnel.Common.RemoteText
import Rusnel.Common.RemoteForms
import Rusnel.Common.TokenLoop
import Rusnel.Common.Identity
import Rusnel.Common.ControlFrame
import Rusnel.Foundation.Codec
import Rusnel.Common.Wire
import Rusnel.Common.SocksUdp
import Rusnel.Common.SocksHeader
import Rusnel.Common.ProxySocket
import Rusnel.Common.Datagram
import Rusnel.Common.UdpTable
import Rusnel.Common.IdleTimeout
import Rusnel.Common.Association
import Rusnel.Common.UdpStream
import Rusnel.Common.UdpTarget
import Rusnel.Common.HalfClose
import Rusnel.Server.NoLeak
import Rusnel.Server.Accounting
import Rusnel.Server.Detached
import Rusnel.Server.RollUp
import Rusnel.Server.History
import Rusnel.Server.Admission
import Rusnel.Server.Isolation
import Rusnel.Server.Policy
import Rusnel.Client.Shutdown
import Rusnel.Client.Backoff
import Rusnel.EndToEnd.Refusal
import Rusnel.EndToEnd.SocksConnect
import Rusnel.EndToEnd.SocksHandshake
import Rusnel.EndToEnd.ProxyHandshake
import Rusnel.EndToEnd.Routing
import Rusnel.EndToEnd.ControlWire
import Rusnel.EndToEnd.Trust
import Rusnel.EndToEnd.Associate
import Rusnel.EndToEnd.UdpTunnel
import Rusnel.EndToEnd.Stdio
import Rusnel.Foundation.Dialogue
import Rusnel.Foundation.Inbox
import Rusnel.EndToEnd.Encoding
import Rusnel.Config.Tls
import Rusnel.Config.Fingerprint
import Rusnel.Config.Server
import Rusnel.Config.Client
import Rusnel.Config.Interleave
import Rusnel.Config.MutualTls
import Rusnel.EndToEnd.Settings
import Rusnel.Server.Admin
import Rusnel.Ctl.Tables
import Rusnel.Ctl.Render
import Rusnel.EndToEnd.AdminView
import Rusnel.Foundation.Listing
import Rusnel.Server.AdminDetail
import Rusnel.Server.AdminRoutes
import Rusnel.Ctl.Detail
import Rusnel.EndToEnd.Control
import Rusnel.EndToEnd.TcpTunnel
import Rusnel.Server.Relays
import Rusnel.Foundation.Race
import Rusnel.Client.HappyEyeballs
import Rusnel.Client.Connect
import Rusnel.Client.Session
import Rusnel.EndToEnd.Crossing
import Rusnel.EndToEnd.Payload
