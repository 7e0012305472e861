import YrSandbox.Transport.ResumableUpload
import YrSandbox.Transport.DirectInvokeReplay
import YrSandbox.Tunnel.ReplayCredits
import YrSandbox.Tunnel.ReplayGaps
import YrSandbox.Tunnel.ResponseEnd
import YrSandbox.Tunnel.RequestDelivery
import YrSandbox.Tunnel.EndMarkerSlot
import YrSandbox.Tunnel.RequestDeduplication
import YrSandbox.Tunnel.StreamOwnership
import YrSandbox.Tunnel.UpstreamTarget
import YrSandbox.Tunnel.BinaryEnvelope
import YrSandbox.Tunnel.RequestWindow
import YrSandbox.Sandbox.Scheduling
import YrSandbox.Transport.ResumableDownload
import YrSandbox.Sandbox.ConfinedExtraction
import YrSandbox.Tunnel.FailedResponses
import YrSandbox.Tunnel.FrameRouting
import YrSandbox.Tunnel.FrameLimits
import YrSandbox.Tunnel.LateFrames
import YrSandbox.Tunnel.UnackedChunks
import YrSandbox.Tunnel.RequestHeaders
import YrSandbox.Sandbox.Gateway
import YrSandbox.Transport.HttpPool
import YrSandbox.Transport.UploadProgress
import YrSandbox.Transport.DownloadResume
import YrSandbox.Sandbox.RpcRoundTrip
import YrSandbox.Sandbox.CommandPoll
import YrSandbox.Tunnel.ChannelMessages
import YrSandbox.Tunnel.BodyEnd
import YrSandbox.Tunnel.Relay
import YrSandbox.Tunnel.BodyLimits
import YrSandbox.Tunnel.NegotiatedWindow
import YrSandbox.Tunnel.UnexpectedErrors
import YrSandbox.Transport.RouteMisses
import YrSandbox.Transport.CreateDeadline
import YrSandbox.Pty.Closing
import YrSandbox.Sandbox.ShellCommands
import YrSandbox.Sandbox.ShellOutput
import YrSandbox.Sandbox.NetworkPolicy
import YrSandbox.Tunnel.CompletedCache
import YrSandbox.Tunnel.Channels
import YrSandbox.Tunnel.TerminatedStreams
import YrSandbox.Sandbox.TarPipe
import YrSandbox.Sandbox.Lifecycle
import YrSandbox.Tunnel.RelayPaths
import YrSandbox.Sandbox.PolicyEncoding
import YrSandbox.Sandbox.DirectoryCopies
