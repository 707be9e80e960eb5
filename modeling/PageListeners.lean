import PageListeners.Dispatch
import PageListeners.RenderedHead
import PageListeners.Settings.Document
import PageListeners.Proofs.Query
import PageListeners.Proofs.Address
import PageListeners.Proofs.Parameters
import PageListeners.Proofs.Page.Tree
import PageListeners.Proofs.Page.Lineage
import PageListeners.Proofs.Page.Edits
import PageListeners.Proofs.Page.Paths
import PageListeners.Proofs.Page.TreeEdits
import PageListeners.Proofs.Page.Reachable
import PageListeners.Proofs.Page.Refusals
import PageListeners.Proofs.Page.Namespace
import PageListeners.Proofs.Callback
import PageListeners.Proofs.Dispatch
import PageListeners.Proofs.Submission
import PageListeners.Proofs.Pass
import PageListeners.Proofs.Agreement
import PageListeners.Proofs.Rebuild
import PageListeners.Proofs.RenderedHead
import PageListeners.Proofs.SharedPage
import PageListeners.Proofs.Text.LowerCase
import PageListeners.Proofs.EventName
import PageListeners.Proofs.Registry
import PageListeners.Proofs.Page.Census
import PageListeners.Proofs.Delegation
import PageListeners.Proofs.Json.Quoted
import PageListeners.Proofs.Page.MarkupIds
import PageListeners.Proofs.Page.NumberSearch
import PageListeners.Proofs.Scripts
import PageListeners.Proofs.Switches
import PageListeners.Proofs.Contributions
import PageListeners.Proofs.Consolidated
import PageListeners.Proofs.HeadItems
import PageListeners.Proofs.FirstOccurrences
import PageListeners.Proofs.SlotMap
import PageListeners.Proofs.Members
import PageListeners.Proofs.ScriptElement
import PageListeners.Proofs.Page.Handles
import PageListeners.Proofs.Bindings
import PageListeners.Proofs.Appearance
import PageListeners.Proofs.Capture
import PageListeners.Proofs.Reply
import PageListeners.Proofs.Page.Removal
import PageListeners.Proofs.Json.RoundTrip
import PageListeners.Proofs.RequestAttributes
import PageListeners.Proofs.ScriptArguments
import PageListeners.Proofs.Outcome
import PageListeners.Proofs.ScriptOrder
import PageListeners.Proofs.Text.Numeral
import PageListeners.Proofs.Json.InScript
import PageListeners.Proofs.Json.Parameters
