import CommTester.Lib.Loop
import CommTester.Lib.Circ
import CommTester.Lib.Scan
import CommTester.Lib.Lfsr
import CommTester.Lib.CString
import CommTester.Lib.Overwrite
import CommTester.Lib.Schedule
import CommTester.Lib.Codec
import CommTester.Parser.Types
import CommTester.Parser.Machine
import CommTester.Driver.Receive
import CommTester.Link.Frame
import CommTester.Link.Window
import CommTester.Link.WaitData
import CommTester.Link.Step
import CommTester.Link.Rescan
import CommTester.Link.Runs
import CommTester.Link.Framing
import CommTester.Link.Traffic
import CommTester.Link.Invariants
import CommTester.Link.Resume
import CommTester.Crc.Bitwise
import CommTester.Crc.Detection
import CommTester.Dbus.Messages
import CommTester.Dbus.Signals
import CommTester.Dbus.Broadcast
import CommTester.App.Arguments
import CommTester.App.Options
import CommTester.App.Requests
import CommTester.App.ArgumentSafety
import CommTester.App.Senders
import CommTester.App.Main
import CommTester.App.Commands
import CommTester.App.Transmission
import CommTester.App.ExitStatus
import CommTester.App.CommandLine
import CommTester.App.TypedValues
import CommTester.Receiver.Callbacks
import CommTester.Receiver.Threads
import CommTester.Receiver.Interleavings
import CommTester.Receiver.Frames
import CommTester.Receiver.ReceiveMode
import CommTester.Receiver.Coupling
import CommTester.Bus.Transmitter
import CommTester.Bus.Network
import CommTester.Bus.Delivery
import CommTester.Bus.Agreement
import CommTester.Output.Text
