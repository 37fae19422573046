import RethinkDriver.Python
import RethinkDriver.Bytes
import RethinkDriver.Msg
import RethinkDriver.Reference
import RethinkDriver.Cursor
import RethinkDriver.Client
import RethinkDriver.Handshake
import RethinkDriver.Protocol
import RethinkDriver.Transport
import RethinkDriver.Decoder
import RethinkDriver.Printer
import RethinkDriver.Generator
import RethinkDriver.ProtocolGenerators
import RethinkDriver.Proofs.Frame
import RethinkDriver.Proofs.CursorFeed
import RethinkDriver.Proofs.CursorEvents
import RethinkDriver.Proofs.Routing
import RethinkDriver.Proofs.HandshakeRun
import RethinkDriver.Proofs.Connect
import RethinkDriver.Proofs.Rejections
import RethinkDriver.Proofs.Lifecycle
import RethinkDriver.Proofs.Codecs
import RethinkDriver.Proofs.Scram
import RethinkDriver.Proofs.GroupedData
import RethinkDriver.Proofs.Carets
import RethinkDriver.Proofs.Stream
import RethinkDriver.Proofs.Adapter
import RethinkDriver.Proofs.Username
import RethinkDriver.Proofs.Session
import RethinkDriver.Proofs.Exchange
