import MotorLink.Engine.Script
import MotorLink.Link.Fleet
import MotorLink.Main
import MotorLink.Proofs.Line.Bits
import MotorLink.Proofs.Line.Capture
import MotorLink.Proofs.Reply.GroupCode
import MotorLink.Proofs.Reply.LineCode
import MotorLink.Proofs.Frame.Checked
import MotorLink.Proofs.Reply.Decode
import MotorLink.Proofs.Reply.Tolerance
import MotorLink.Proofs.Reply.Threshold
import MotorLink.Proofs.Channel.Pool
import MotorLink.Proofs.Channel.FirstFit
import MotorLink.Proofs.Frame.Basic
import MotorLink.Proofs.Line.Timing
import MotorLink.Proofs.Config.Validate
import MotorLink.Proofs.Engine.Simulator
import MotorLink.Proofs.Engine.Hardware
import MotorLink.Proofs.Link.Run
import MotorLink.Proofs.Link.Orders
import MotorLink.Proofs.Link.Wiring
import MotorLink.Proofs.Link.Telemetry
import MotorLink.Proofs.Link.Simulated
import MotorLink.Proofs.Link.Conduct
import MotorLink.Proofs.Link.Fleet
import MotorLink.Proofs.Link.Protocol
import MotorLink.Proofs.Link.Gate
import MotorLink.Proofs.Throttle
import MotorLink.Proofs.Link.Arming
import MotorLink.Proofs.Link.Hysteresis
import MotorLink.Proofs.Link.Cadence
import MotorLink.Proofs.Link.Recall
import MotorLink.Proofs.Channel.Ownership
import MotorLink.Proofs.Link.Start
import MotorLink.Proofs.Engine.History
import MotorLink.Proofs.Link.Likeness
import MotorLink.Proofs.Link.Independence
import MotorLink.Proofs.Link.Ending
import MotorLink.Proofs.Link.Answers
import MotorLink.Proofs.Link.Values
import MotorLink.Proofs.Line.Expansion
import MotorLink.Proofs.Reply.Bijection
import MotorLink.Proofs.Reply.Detection
import MotorLink.Proofs.Reply.Period
import MotorLink.Proofs.Reply.Extent
import MotorLink.Proofs.Line.Duration
import MotorLink.Proofs.Link.Spacing
import MotorLink.Proofs.Engine.Corruption
import MotorLink.Proofs.Engine.Window
import MotorLink.Proofs.Throttle.Monotone
import MotorLink.Proofs.Config.Defaults
import MotorLink.Proofs.Record.Line
