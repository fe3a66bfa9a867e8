import Rstream.IoRstrm.Client.Isolation
import Rstream.IoRstrm.Client.AsyncStreams
import Rstream.IoRstrm.Client.SyncHandover
import Rstream.IoRstrm.Client.Responses
import Rstream.Io.Queue.Barrier
import Rstream.Webtty.PayloadRoundTrip
import Rstream.IoRstrm.Socket.Admission
import Rstream.IoRstrm.Acceptor.SingleTunnel
import Rstream.Tunnel.Forwarding
import Rstream.Webtty.Server.Shutdown
import Rstream.Webtty.EndToEnd
import Rstream.Webtty.Client.Completion
import Rstream.Webtty.Client.Termination
import Rstream.Core.Resize
import Rstream.Io.Ssl.Ownership
import Rstream.Ncat.Delivery
import Rstream.Nperf.Bookkeeping
import Rstream.Webtty.Server.Supervision
import Rstream.Webtty.Server.Relaying
import Rstream.IoRstrm.Pairing
import Rstream.Core.Copies
import Rstream.Webtty.Server.Times
import Rstream.Core.TimeWindow
import Rstream.Core.Exposition
import Rstream.IoRstrm.Client.TokenSnapshot
import Rstream.Webtty.Server.Redaction
import Rstream.Webtty.Cli.WorkspaceTrust
import Rstream.Webtty.Server.Environment
import Rstream.Webtty.Cli.TunnelUri
import Rstream.Webtty.Cli.ClientRun
import Rstream.IoRstrm.EngineAddress
import Rstream.IoRstrm.StableDomain
import Rstream.IoRstrm.Convert
import Rstream.Stun.Integrity
import Rstream.Stun.Client
import Rstream.Io.Ssl.KeyOptions
import Rstream.Core.ObjectId
import Rstream.Io.Ssl.PeerIdentity
import Rstream.Ncat.SplitCommand
import Rstream.Tunnel.CommandLine
import Rstream.Nperf.Executions
import Rstream.FileServer.Confinement
import Rstream.Webtty.FifoReader
