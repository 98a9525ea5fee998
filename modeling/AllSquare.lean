import AllSquare.Club
import AllSquare.Protocol.Command
import AllSquare.Protocol.Acceptance
import AllSquare.Ble
import AllSquare.Ble.Discovery
import AllSquare.Mpsc
import AllSquare.Testing
import AllSquare.Testing.Precision
import AllSquare.Firmware.Json
import AllSquare.Btleplug.Sessions
import AllSquare.Btleplug.Transport
import AllSquare.Btleplug.Ending
import AllSquare.Bluez.Transport
import AllSquare.Client.Shots
import AllSquare.Client.Calibration
import AllSquare.Client.Dedup
import AllSquare.Client.Cadence
import AllSquare.Client.Watchdog
import AllSquare.Client.Connecting
import AllSquare.Client.Requests
import AllSquare.Client.Selection
import AllSquare.Client.Measured
import AllSquare.Client.Stream
import AllSquare.Client.Channel
import AllSquare.Client.Progress
import AllSquare.Session.Pairing
import AllSquare.Frp.Delivery
import AllSquare.Frp.Connections
import AllSquare.Frp.Acceptor
import AllSquare.Frp.Published
import AllSquare.Frp.Progress
import AllSquare.Bridge.Readiness
import AllSquare.Bridge.Program
import AllSquare.Bridge.Commands
import AllSquare.Bridge.Channel
import AllSquare.Bridge.Silence
import AllSquare.Session.Deployment
