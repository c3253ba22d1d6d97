import SpeedController.Board.Flash
import SpeedController.Board.SerialLine
import SpeedController.Board.TickCounter
import SpeedController.Board.Wiring
import SpeedController.Cell
import SpeedController.Device.Bench
import SpeedController.Link.Grammar
import SpeedController.Proofs.Device.History
import SpeedController.Proofs.Power.Interlock
import SpeedController.Proofs.Device.Guard
import SpeedController.Proofs.Device.Freshness
import SpeedController.Proofs.Device.Calibration
import SpeedController.Proofs.Link.Service
import SpeedController.Proofs.Link.Console
import SpeedController.Proofs.Link.Consistency
import SpeedController.Proofs.Link.Delivery
import SpeedController.Proofs.Link.Pipeline
import SpeedController.Proofs.Device.Hosting
import SpeedController.Proofs.Device.Rest
import SpeedController.Proofs.Link.Acceptance
import SpeedController.Proofs.Receiver.Pairing
import SpeedController.Proofs.Device.Isolation
import SpeedController.Proofs.Device.Recovery
import SpeedController.Proofs.Device.Fault
import SpeedController.Proofs.Device.PowerCycles
import SpeedController.Proofs.Link.Timeout
import SpeedController.Proofs.Device.Sweep
import SpeedController.Proofs.Settings.Correspondence
import SpeedController.Proofs.Board.Interruption
import SpeedController.Proofs.Link.WireFormat
import SpeedController.Proofs.Mixing.Exactness
import SpeedController.Proofs.Device.Range
import SpeedController.Proofs.Mixing.Overshoot
import SpeedController.Proofs.Mixing.Delta
import SpeedController.Proofs.Mixing.Mirror
import SpeedController.Proofs.Device.Uncalibrated
import SpeedController.Proofs.Mixing.Interpolation
import SpeedController.Proofs.Mixing.Normal
import SpeedController.Proofs.Mixing.Derivation
import SpeedController.Proofs.Mixing.Rounding
import SpeedController.Proofs.Settings.Repair
import SpeedController.Proofs.Power.Period
import SpeedController.Proofs.Power.Faults
import SpeedController.Proofs.Board.Durability
import SpeedController.Proofs.Board.Lookahead
import SpeedController.Proofs.Receiver.Sliding
import SpeedController.Proofs.Device.Queueing
