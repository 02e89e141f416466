import Paje.Admission.Lease
import Paje.Admission.Retry
import Paje.Admission.Foreign
import Paje.Admission.Sharing
import Paje.Admission.Subjects
import Paje.Admission.Handoffs
import Paje.Admission.RunScope
import Paje.Isolation.Once
import Paje.Control.Recovery
import Paje.Control.Sessions
import Paje.Control.Mailbox
import Paje.Control.Ownership
import Paje.Control.Dispatch
import Paje.CodeChange.Fencing
import Paje.CodeChange.Approvals
import Paje.CodeChange.Commands
import Paje.Patch.Policy
import Paje.Journal.Readers
import Paje.Scheduler.Bursts
import Paje.Submission.Repository
