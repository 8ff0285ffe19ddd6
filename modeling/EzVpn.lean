import EzVpn.Lib.Run
import EzVpn.Lib.Map
import EzVpn.Lib.Alloc
import EzVpn.Lib.Lease
import EzVpn.Lib.Bytes
import EzVpn.Lib.Checked
import EzVpn.Lib.OnesSum
import EzVpn.Lib.Chunks
import EzVpn.Lib.Tally
import EzVpn.Lib.Gate
import EzVpn.Lib.Framed
import EzVpn.Lib.Json
import EzVpn.Lib.Watch
import EzVpn.Lib.Owned
import EzVpn.Lib.Attempt
import EzVpn.Lib.Hysteresis
import EzVpn.Lib.Keyed
import EzVpn.Net.Addr
import EzVpn.Net.Packet
import EzVpn.Config
import EzVpn.Signaling
import EzVpn.Response
import EzVpn.Server.Pool
import EzVpn.Server.PoolInv
import EzVpn.Server.PoolSpec
import EzVpn.Server.PoolBuild
import EzVpn.Server.Handler
import EzVpn.Server.Steps
import EzVpn.Server.Admission
import EzVpn.Server.Sessions
import EzVpn.Server.SessionSpec
import EzVpn.Server.Inbound
import EzVpn.Server.Isolation
import EzVpn.Server.Limit
import EzVpn.Offload.Checksum
import EzVpn.Offload.ChecksumSpec
import EzVpn.Offload.Virtio
import EzVpn.Offload.Coalesce
import EzVpn.Offload.Segment
import EzVpn.Offload.SegmentSpec
import EzVpn.Offload.Completion
import EzVpn.Offload.Groups
import EzVpn.Offload.Resegment
import EzVpn.Offload.Roundtrip
import EzVpn.Offload.Integrity
import EzVpn.Offload.Remerge
import EzVpn.Bounds.Materialize
import EzVpn.Bounds.Coalesce
import EzVpn.Stream.Datagrams
import EzVpn.Stream.Send
import EzVpn.Server.TunReader
import EzVpn.Server.Queue
import EzVpn.Stream.Frames
import EzVpn.Client.Handshake
import EzVpn.Client.Reconnect
import EzVpn.Server.Full
import EzVpn.Server.Response
import EzVpn.Client.Overlap
import EzVpn.Client.Outbound
import EzVpn.Net.Routes
import EzVpn.Client.Routes
import EzVpn.Net.Bypass
import EzVpn.Client.Bypass
import EzVpn.Client.BypassSession
import EzVpn.Net.TunWriter
import EzVpn.Net.TunFrame
import EzVpn.Transport.PathSelector
import EzVpn.Transport.PathChoice
import EzVpn.Transport.PathSpelling
import EzVpn.Lib.Echo
import EzVpn.Session.Control
import EzVpn.Session.Heartbeat
import EzVpn.Session.Published
import EzVpn.Runtime.Names
import EzVpn.Runtime.Instances
import EzVpn.Runtime.Exclusive
import EzVpn.Mobile.Session
import EzVpn.Mobile.Handle
import EzVpn.Mobile.Events
import EzVpn.Runtime.Log
import EzVpn.Session.DataPath
import EzVpn.Offload.Addresses
import EzVpn.Session.Delivery
import EzVpn.Client.Common
import EzVpn.Client.Status
import EzVpn.Lib.Fallible
import EzVpn.Client.Connect
import EzVpn.Client.Lives
import EzVpn.Client.Install
import EzVpn.Config.File
import EzVpn.Config.ServerStart
import EzVpn.Config.ClientStart
import EzVpn.Lib.Text
import EzVpn.Net.RouteLookup
import EzVpn.Net.HostRoute
import EzVpn.Client.BypassHost
import EzVpn.Lib.Channel
import EzVpn.Server.Shutdown
import EzVpn.Client.WindowsHandle
