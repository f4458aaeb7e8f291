import SpindleDrive.Bench.Basic
import SpindleDrive.Bench.Command
import SpindleDrive.Bus.Simulated
import SpindleDrive.Bus.Transport
import SpindleDrive.CommandLine.Arguments
import SpindleDrive.CommandLine.Execution
import SpindleDrive.CommandLine.Invocation
import SpindleDrive.Config.Basic
import SpindleDrive.Config.Document
import SpindleDrive.Drive.CommandWord
import SpindleDrive.Drive.Model
import SpindleDrive.Drive.Request
import SpindleDrive.Drive.Simulated
import SpindleDrive.Drive.SpeedScale
import SpindleDrive.DriverError
import SpindleDrive.Files
import SpindleDrive.Host.Registry
import SpindleDrive.Host.Simulated
import SpindleDrive.Modbus.Code
import SpindleDrive.Modbus.Frame
import SpindleDrive.Modbus.ProtocolError
import SpindleDrive.Modbus.RegisterReply
import SpindleDrive.Number.Binary32
import SpindleDrive.Number.Decimal
import SpindleDrive.Number.Rounding
import SpindleDrive.Number.Text
import SpindleDrive.Preview
import SpindleDrive.Simulation.Rig
import SpindleDrive.Simulation.Run
import SpindleDrive.Spindle.Attempts
import SpindleDrive.Spindle.Context
import SpindleDrive.Spindle.Control
import SpindleDrive.Spindle.ExceptionCounter
import SpindleDrive.Spindle.Finding
import SpindleDrive.Spindle.Registration
import SpindleDrive.Spindle.Selection
import SpindleDrive.Spindle.SpeedData
import SpindleDrive.Spindle.Surroundings
import SpindleDrive.Storage
import SpindleDrive.Toml.Document
import SpindleDrive.Toml.Quoted
import SpindleDrive.Toml.Scalar
import SpindleDrive.Toml.Value
import SpindleDrive.Toml.Writing
import SpindleDrive.Main
import SpindleDrive.Proofs.Workshop.Alarms
import SpindleDrive.Proofs.Workshop.Progress
import SpindleDrive.Proofs.Workshop.Reissues
import SpindleDrive.Proofs.Line.ClosedLoop
import SpindleDrive.Proofs.Line.Delivery
import SpindleDrive.Proofs.Line.Recovery
import SpindleDrive.Proofs.Line.RefusedCommand
import SpindleDrive.Proofs.Operation.Ledger
import SpindleDrive.Proofs.Workshop.Ledger
import SpindleDrive.Proofs.Workshop.Watched
import SpindleDrive.Proofs.Workshop.AtSpeed
import SpindleDrive.Proofs.Drive.Requests
import SpindleDrive.Proofs.Workshop.Sending
import SpindleDrive.Proofs.Workshop.Unselected
import SpindleDrive.Proofs.Operation.Mirroring
import SpindleDrive.Proofs.Workshop.Remembering
import SpindleDrive.Proofs.Workshop.Selecting
import SpindleDrive.Proofs.Workshop.Accounts
import SpindleDrive.Proofs.Workshop.Reckoning
import SpindleDrive.Proofs.Workshop.Moments
import SpindleDrive.Proofs.Workshop.Counting
import SpindleDrive.Proofs.Workshop.Polling
import SpindleDrive.Proofs.Workshop.Dispatches
import SpindleDrive.Proofs.Workshop.Steering
import SpindleDrive.Proofs.Workshop.Intrusions
import SpindleDrive.Proofs.Operation.Previewing
import SpindleDrive.Proofs.Drive.Padding
import SpindleDrive.Proofs.Config.RoundTrip
import SpindleDrive.Proofs.Operation.Outcomes
import SpindleDrive.Proofs.Number.Bands
import SpindleDrive.Proofs.Simulation.Link
import SpindleDrive.Proofs.Simulation.Look
import SpindleDrive.Proofs.Simulation.Reached
import SpindleDrive.Proofs.Simulation.Report
import SpindleDrive.Proofs.Line.LostReplies
import SpindleDrive.Proofs.Reply.Grammar
import SpindleDrive.Proofs.Reply.Effect
import SpindleDrive.Proofs.Workshop.Waiting
import SpindleDrive.Proofs.Reply.Order
import SpindleDrive.Proofs.Drive.Obedience
import SpindleDrive.Proofs.Number.Order
import SpindleDrive.Proofs.Number.Errors
import SpindleDrive.Proofs.Number.RoundTrip
import SpindleDrive.Proofs.Host.Enrolment
import SpindleDrive.Proofs.Operation.ZeroSpeed
import SpindleDrive.Proofs.Operation.Attempts
import SpindleDrive.Proofs.Bus.Conservation
