import TlsEcho.Admission.Gate
import TlsEcho.Connection.Request
import TlsEcho.Main
import TlsEcho.Proofs.Admission.History
import TlsEcho.Proofs.Config.Choices
import TlsEcho.Proofs.Connection.Display
import TlsEcho.Proofs.Connection.Outstanding
import TlsEcho.Proofs.Connection.Resampling
import TlsEcho.Proofs.Echo.Accumulation
import TlsEcho.Proofs.Server.Backlog
import TlsEcho.Proofs.Server.Building
import TlsEcho.Proofs.Server.Ceiling
import TlsEcho.Proofs.Server.Failure
import TlsEcho.Proofs.Server.Isolation
import TlsEcho.Proofs.Session.Chunking
import TlsEcho.Proofs.Session.Deadline
import TlsEcho.Proofs.Session.Silence
import TlsEcho.Session.Play
