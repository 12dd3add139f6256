import Testbed.Main
import Testbed.Proofs.Pool.Failure
import Testbed.Proofs.Pool.Session
import Testbed.Proofs.RunConfig
import Testbed.Proofs.Ssh.Connection
import Testbed.Proofs.Suite.Completion
import Testbed.Proofs.Suite.Dismissal
import Testbed.Proofs.Target.Assembly
import Testbed.Proofs.Text.Line
import Testbed.Proofs.Time.Poll
import Testbed.Proofs.Trace.Attribute
import Testbed.Proofs.Trace.Checked.Decoder
import Testbed.Proofs.Trace.Chunking
import Testbed.Proofs.Trace.Filter
import Testbed.Proofs.Trace.Intake
import Testbed.Proofs.Trace.Reconstruction
import Testbed.Proofs.Trace.Record.Notification
import Testbed.Proofs.Trace.Requirement
import Testbed.Proofs.Trace.Resynchronisation
import Testbed.Proofs.Trace.Stream
import Testbed.Proofs.Trace.Truncation
import Testbed.Script.Capture
import Testbed.Script.Suite
import Testbed.Proofs.Shell.Quote
import Testbed.Proofs.Shell.Reader
import Testbed.Proofs.Command.Configuration
import Testbed.Proofs.Docker.Construction
import Testbed.Proofs.Trace.Capture
import Testbed.Proofs.Trace.Integer
import Testbed.Proofs.Qemu.Launch
import Testbed.Proofs.Trace.CaptureConfig
