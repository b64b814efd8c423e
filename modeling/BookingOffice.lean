import BookingOffice.Calendar.Clock
import BookingOffice.Http.Application
import BookingOffice.Json.Printer
import BookingOffice.Main
import BookingOffice.Number.Numeral
import BookingOffice.Proofs.Dictionary.Lookup
import BookingOffice.Proofs.Script.Query
import BookingOffice.Proofs.Traversal
import BookingOffice.Statement.Sql
import BookingOffice.Store.Retry
import BookingOffice.Service.Serve
import BookingOffice.Proofs.Schema.Accepted
import BookingOffice.Proofs.Calendar.Days
import BookingOffice.Proofs.Calendar.Written
import BookingOffice.Proofs.Calendar.Strays
import BookingOffice.Proofs.Schema.Verdict
import BookingOffice.Proofs.Catalogue.Fit
import BookingOffice.Proofs.Entity.Lossless
import BookingOffice.Proofs.Store.Cells
import BookingOffice.Proofs.Store.Entries
import BookingOffice.Proofs.Procedure.Query
import BookingOffice.Proofs.Store.Changes
import BookingOffice.Proofs.Store.Sound
import BookingOffice.Proofs.Store.Links
import BookingOffice.Proofs.Procedure.Checks
import BookingOffice.Proofs.Procedure.Write
import BookingOffice.Proofs.Office.Operation
import BookingOffice.Proofs.Office.Uniqueness
import BookingOffice.Proofs.Procedure.Listing
import BookingOffice.Proofs.Office.Chronicle
import BookingOffice.Proofs.Procedure.Erasure
import BookingOffice.Proofs.Office.Erasure
import BookingOffice.Proofs.Listing.Accepted
import BookingOffice.Proofs.Listing.Meaning
import BookingOffice.Proofs.Number.Nearest
import BookingOffice.Proofs.Number.Written
import BookingOffice.Proofs.Listing.Written
import BookingOffice.Proofs.Listing.Strays
import BookingOffice.Proofs.Store.Order
import BookingOffice.Proofs.Store.Listing
import BookingOffice.Proofs.Office.Listing
import BookingOffice.Proofs.Office.Pages
import BookingOffice.Proofs.Office.Legible
import BookingOffice.Proofs.Http.Gate
import BookingOffice.Proofs.Http.Failures
import BookingOffice.Proofs.Entity.Detail
import BookingOffice.Proofs.Http.Requests
import BookingOffice.Proofs.Office.Detail
import BookingOffice.Proofs.Office.Found
import BookingOffice.Proofs.Office.Members
import BookingOffice.Proofs.Office.Turns
import BookingOffice.Proofs.Procedure.Turns
import BookingOffice.Proofs.Service.Secrecy
import BookingOffice.Proofs.Http.Envelopes
import BookingOffice.Proofs.Http.Discretion
import BookingOffice.Proofs.Office.WriteBack
import BookingOffice.Proofs.Http.WriteBack
import BookingOffice.Proofs.Text.Whole
import BookingOffice.Proofs.Calendar.Parts
import BookingOffice.Proofs.Listing.Cuts
import BookingOffice.Proofs.Listing.Points
import BookingOffice.Proofs.Listing.Spelled
import BookingOffice.Proofs.Listing.Ranges
import BookingOffice.Proofs.Listing.Verdict
import BookingOffice.Proofs.Listing.Judged
import BookingOffice.Proofs.Office.Shuffled
import BookingOffice.Proofs.Office.Spans
import BookingOffice.Proofs.Office.Reversed
import BookingOffice.Proofs.Statement.Tokens
import BookingOffice.Proofs.Statement.Inert
import BookingOffice.Proofs.Statement.Parted
import BookingOffice.Proofs.Statement.Marks
import BookingOffice.Proofs.Statement.Aligned
import BookingOffice.Proofs.Service.Lockout
import BookingOffice.Proofs.Http.Authorization
import BookingOffice.Proofs.Store.Times
import BookingOffice.Proofs.Store.Truncation
import BookingOffice.Proofs.Store.Attempts
import BookingOffice.Proofs.Http.Bodies
import BookingOffice.Proofs.Http.Membership
import BookingOffice.Proofs.Office.Creation
import BookingOffice.Proofs.Http.Creation
