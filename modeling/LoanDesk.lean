import LoanDesk.Config
import LoanDesk.Http.Server
import LoanDesk.Json.Printer
import LoanDesk.Session.Basic
import LoanDesk.Sql.Server
import LoanDesk.Proofs.Store.Frame
import LoanDesk.Proofs.Store.Book
import LoanDesk.Proofs.Store.Mirror
import LoanDesk.Proofs.Program.Ensures
import LoanDesk.Proofs.Program.Steps
import LoanDesk.Proofs.Program.Safe
import LoanDesk.Proofs.Program.Ordered
import LoanDesk.Proofs.Program.Results
import LoanDesk.Proofs.Store.Answers
import LoanDesk.Proofs.Desk.Deed
import LoanDesk.Proofs.Desk.Order
import LoanDesk.Proofs.Desk.Jobs
import LoanDesk.Proofs.Desk.Links
import LoanDesk.Proofs.Desk.Accepted
import LoanDesk.Proofs.Desk.Paired
import LoanDesk.Proofs.Desk.World
import LoanDesk.Proofs.Desk.Histories
import LoanDesk.Proofs.Desk.Evolution
import LoanDesk.Proofs.Http.Failure
import LoanDesk.Proofs.Race.Outcome
import LoanDesk.Proofs.Desk.Standings
import LoanDesk.Proofs.Desk.Announcements
import LoanDesk.Proofs.Desk.Deliveries
import LoanDesk.Proofs.Store.Custody
import LoanDesk.Proofs.Http.Scope
import LoanDesk.Proofs.Store.Moves
import LoanDesk.Proofs.Store.Residue
import LoanDesk.Proofs.Store.Signing
import LoanDesk.Proofs.Http.Secrecy
import LoanDesk.Proofs.Race.Serial
import LoanDesk.Proofs.Store.Claims
import LoanDesk.Proofs.Store.Isolation
import LoanDesk.Proofs.Desk.Cancelled
import LoanDesk.Proofs.Desk.Integrity
import LoanDesk.Proofs.Desk.Reasons
import LoanDesk.Proofs.Desk.Frozen
import LoanDesk.Proofs.Race.Verdicts
import LoanDesk.Proofs.Store.Parts
import LoanDesk.Proofs.Desk.Soundness
import LoanDesk.Proofs.Json.Entities
import LoanDesk.Proofs.Race.Locality
import LoanDesk.Proofs.Race.Independence
import LoanDesk.Proofs.Store.Pending
import LoanDesk.Proofs.Desk.Alternatives
import LoanDesk.Proofs.Desk.Cancellation
import LoanDesk.Proofs.Race.HeldRows
import LoanDesk.Proofs.Store.Latest
import LoanDesk.Proofs.Desk.Expiration
import LoanDesk.Proofs.Desk.Batches
import LoanDesk.Proofs.Desk.Merging
import LoanDesk.Proofs.Desk.Paging
import LoanDesk.Proofs.Desk.Withdrawal
import LoanDesk.Proofs.Sql.Filtering
import LoanDesk.Proofs.Sql.Insertion
import LoanDesk.Proofs.Store.Register
import LoanDesk.Proofs.Sql.Reading
import LoanDesk.Proofs.Sql.Updating
import LoanDesk.Proofs.Sql.Gathering
import LoanDesk.Proofs.Sql.Decoding
