import FacetedSearch.Answer
import FacetedSearch.Backend
import FacetedSearch.Calendar
import FacetedSearch.CommandLine.Arguments
import FacetedSearch.CommandLine.Run
import FacetedSearch.Duration
import FacetedSearch.Facet.Access
import FacetedSearch.Facet.Audit
import FacetedSearch.Facet.Basic
import FacetedSearch.Facet.Filter
import FacetedSearch.Facet.Session
import FacetedSearch.Grouping
import FacetedSearch.Json.Basic
import FacetedSearch.Json.Number
import FacetedSearch.Json.Printer
import FacetedSearch.Json.Reader
import FacetedSearch.Log.Journal
import FacetedSearch.Log.Level
import FacetedSearch.Log.Record
import FacetedSearch.Main
import FacetedSearch.Proofs.Composition
import FacetedSearch.Proofs.Duration
import FacetedSearch.Proofs.Facet.Agreement
import FacetedSearch.Proofs.Facet.Failure
import FacetedSearch.Proofs.Facet.Routing
import FacetedSearch.Proofs.Grouping
import FacetedSearch.Proofs.Json.Scalar
import FacetedSearch.Proofs.Parameters
import FacetedSearch.Proofs.Query.Boundary
import FacetedSearch.Proofs.Query.Conservation
import FacetedSearch.Proofs.Query.Joined
import FacetedSearch.Proofs.Query.Layout
import FacetedSearch.Proofs.Query.Plain
import FacetedSearch.Proofs.Quoting
import FacetedSearch.Proofs.Web.Form
import FacetedSearch.Proofs.Web.Limit
import FacetedSearch.Query.Run
import FacetedSearch.Query.Term
import FacetedSearch.Query.Token
import FacetedSearch.Settings
import FacetedSearch.Text.Basic
import FacetedSearch.Text.Blank
import FacetedSearch.Text.Hex
import FacetedSearch.Text.LowerCase
import FacetedSearch.Text.Numeral
import FacetedSearch.Text.Printable
import FacetedSearch.Text.Quoted
import FacetedSearch.Text.UpperCase
import FacetedSearch.Text.Utf8
import FacetedSearch.Text.WholeNumber
import FacetedSearch.Web.Form
import FacetedSearch.Web.Service
import FacetedSearch.Proofs.Json.RoundTrip
import FacetedSearch.Proofs.Answer
import FacetedSearch.Proofs.Web.Carriage
import FacetedSearch.Proofs.Facet.Audit
import FacetedSearch.Proofs.Web.Account
import FacetedSearch.Proofs.CommandLine.Printing
import FacetedSearch.Proofs.Log.History
import FacetedSearch.Text.Template
import FacetedSearch.Proofs.Json.OneLine
import FacetedSearch.Proofs.Log.Line
import FacetedSearch.Proofs.Log.AuditTrail
import FacetedSearch.Proofs.Spelling
import FacetedSearch.Proofs.Facet.FirstFailure
import FacetedSearch.Proofs.Query.Splitting
import FacetedSearch.Proofs.Query.Swap
import FacetedSearch.Proofs.Swap
import FacetedSearch.Proofs.Recovery
import FacetedSearch.Proofs.LastValue
import FacetedSearch.Proofs.Web.Guard
import FacetedSearch.Proofs.NormalForm
import FacetedSearch.Proofs.Facet.Focus
import FacetedSearch.Proofs.Gregorian
import FacetedSearch.Proofs.Log.Stamp
