import TunnelServer.Main
import TunnelServer.Server.Serve
import TunnelServer.Tunnel.Interleaving
import TunnelServer.Tunnel.Wait
import TunnelServer.Proofs.Stream.Delivery
import TunnelServer.Proofs.Stream.Arrival
import TunnelServer.Proofs.Stream.Waiting
import TunnelServer.Proofs.Stream.Pieces
import TunnelServer.Proofs.Wire.Framing
import TunnelServer.Proofs.Tunnel.Faithful
import TunnelServer.Proofs.Handshake.Hearing
import TunnelServer.Proofs.Handshake.Punctuality
import TunnelServer.Proofs.Handshake.Waiting
import TunnelServer.Proofs.Handshake.Passage
import TunnelServer.Proofs.Handshake.Silence
import TunnelServer.Proofs.Handshake.Reading
import TunnelServer.Proofs.Handshake.Acceptance
import TunnelServer.Proofs.Handshake.Encoding
import TunnelServer.Proofs.Handshake.Timetable
import TunnelServer.Proofs.Handshake.Guessing
import TunnelServer.Proofs.Handshake.Interruption
import TunnelServer.Proofs.Tunnel.Conduct
import TunnelServer.Proofs.Tunnel.Closing
import TunnelServer.Proofs.Tunnel.Agreement
import TunnelServer.Proofs.Tunnel.Deadline
import TunnelServer.Proofs.Tunnel.Progress
import TunnelServer.Proofs.Tunnel.Conveyance
import TunnelServer.Proofs.Tunnel.Promptness
import TunnelServer.Proofs.Tunnel.Ledger
import TunnelServer.Proofs.Tunnel.Idleness
import TunnelServer.Proofs.Tunnel.Verdict
import TunnelServer.Proofs.Tunnel.Activity
import TunnelServer.Proofs.Tunnel.Diary
import TunnelServer.Proofs.Tunnel.Receipts
import TunnelServer.Proofs.Tunnel.History
import TunnelServer.Proofs.Address.Spelling
import TunnelServer.Proofs.Network.Loopback
import TunnelServer.Proofs.Handshake.Outcome
import TunnelServer.Proofs.Handshake.Stalling
import TunnelServer.Proofs.Server.Admission
import TunnelServer.Proofs.Server.Handover
import TunnelServer.Proofs.Server.Joining
import TunnelServer.Proofs.Toml.Quoting
import TunnelServer.Proofs.Toml.Token
import TunnelServer.Proofs.Toml.Layout
import TunnelServer.Proofs.Toml.Assembly
import TunnelServer.Proofs.Config.RoundTrip
import TunnelServer.Proofs.Address.Literal
import TunnelServer.Proofs.Address.Printing
import TunnelServer.Proofs.Network.NumericHost
import TunnelServer.Proofs.Wire.Stem
import TunnelServer.Proofs.Handshake.Sharing
import TunnelServer.Proofs.Handshake.Blank
import TunnelServer.Proofs.Config.Partial
import TunnelServer.Proofs.Network.Outcome
import TunnelServer.Proofs.Toml.Sheet
import TunnelServer.Proofs.Config.Excerpt
import TunnelServer.Proofs.Network.LiteralHost
import TunnelServer.Proofs.CommandLine.Listening
import TunnelServer.Proofs.Pem.Line
import TunnelServer.Proofs.Pem.Section
import TunnelServer.Proofs.Tls.Loading
import TunnelServer.Proofs.CommandLine.Options
import TunnelServer.Proofs.Config.Given
import TunnelServer.Proofs.CommandLine.Precedence
