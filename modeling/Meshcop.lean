import Meshcop.Lib.Bytes
import Meshcop.Dtls.Record
import Meshcop.Lib.Computation
import Meshcop.Dtls.Crypto
import Meshcop.Dtls.Protection
import Meshcop.Dtls.Handshake
import Meshcop.Dtls.Hello
import Meshcop.Dtls.ClientHandshake
import Meshcop.Dtls.ServerHandshake
import Meshcop.Dtls.Session
import Meshcop.Dtls.Transport
import Meshcop.Dtls.ClientDriver
import Meshcop.Dtls.ServerDriver
import Meshcop.Dtls.NonceFreshness
import Meshcop.Dtls.MatchingHandshakes
import Meshcop.Wire.Coap
import Meshcop.Wire.NetDiag
import Meshcop.Wire.Messages
import Meshcop.Joiner.Session
import Meshcop.Joiner.Steps
import Meshcop.Joiner.Entrustment
import Meshcop.Driver.Exchange
import Meshcop.Driver.Incoming
import Meshcop.Driver.Run
import Meshcop.Driver.Machine
import Meshcop.Driver.Control
import Meshcop.Driver.Sending
import Meshcop.Driver.ExchangeMoves
import Meshcop.Driver.Record
import Meshcop.Driver.IncomingMoves
import Meshcop.Driver.RunMoves
import Meshcop.Driver.Lifecycle
import Meshcop.Driver.Ordering
import Meshcop.Driver.Isolation
import Meshcop.Driver.Repeats
import Meshcop.Driver.Outcomes
import Meshcop.Wire.CoapCodec
import Meshcop.Dtls.Delivery
import Meshcop.Dtls.Channel
import Meshcop.Dtls.ServerFlight
import Meshcop.Client.PrefixCache
import Meshcop.Client.EnableJoiner
import Meshcop.Client.Steering
import Meshcop.Client.Crc
import Meshcop.Client.Pskc
import Meshcop.Cli.Config
import Meshcop.Cli.DatasetField
import Meshcop.Cli.Joiner
import Meshcop.Joiner.Established
import Meshcop.Driver.JoinerRelay
import Meshcop.Dtls.EcJpake
import Meshcop.Dtls.EcJpakeCodec
import Meshcop.Dtls.HelloCodec
import Meshcop.Wire.TlvCodec
import Meshcop.Dtls.Fragmentation
import Meshcop.Dtls.Flights
import Meshcop.Lib.Runs
import Meshcop.Joiner.Moves
import Meshcop.Joiner.Life
import Meshcop.Joiner.Completion
import Meshcop.Joiner.Reflection
import Meshcop.Dtls.AcceptFlights
import Meshcop.Joiner.WireNumbers
import Meshcop.Dtls.ClientFlights
import Meshcop.Driver.Passage
import Meshcop.Driver.Timers
import Meshcop.Driver.Resigning
import Meshcop.Lib.Coupling
import Meshcop.Joiner.Oblivious
import Meshcop.Driver.JoinerIsolation
import Meshcop.Dtls.HandshakeCodec
import Meshcop.Dtls.RejectedFragments
import Meshcop.Dtls.EcJpakeNormal
import Meshcop.Dtls.KeySchedule
import Meshcop.Wire.UriPath
import Meshcop.Wire.Encapsulation
import Meshcop.Wire.ChannelMask
import Meshcop.Wire.NetDiagFields
import Meshcop.Wire.NetDiagCodec
import Meshcop.Driver.Oversized
import Meshcop.Client.DatasetWrite
