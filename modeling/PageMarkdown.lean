import PageMarkdown.Html.RowPlaces
import PageMarkdown.Main
import PageMarkdown.Proofs.AbsoluteLinks
import PageMarkdown.Proofs.ArticleChoice
import PageMarkdown.Proofs.BlankRuns
import PageMarkdown.Proofs.CellText
import PageMarkdown.Proofs.ClampedNumerals
import PageMarkdown.Proofs.CleanArticle
import PageMarkdown.Proofs.CollectedText
import PageMarkdown.Proofs.Containment
import PageMarkdown.Proofs.ConvertRun
import PageMarkdown.Proofs.DepthLimit
import PageMarkdown.Proofs.Description
import PageMarkdown.Proofs.Destination
import PageMarkdown.Proofs.Dividers
import PageMarkdown.Proofs.EscapedText
import PageMarkdown.Proofs.Fallback
import PageMarkdown.Proofs.Fence
import PageMarkdown.Proofs.Grid
import PageMarkdown.Proofs.Inert
import PageMarkdown.Proofs.Inventory
import PageMarkdown.Proofs.ListLines
import PageMarkdown.Proofs.NameCase
import PageMarkdown.Proofs.NestedLists
import PageMarkdown.Proofs.NestedQuotes
import PageMarkdown.Proofs.NormalForm
import PageMarkdown.Proofs.PagesApart
import PageMarkdown.Proofs.QuotedTitle
import PageMarkdown.Proofs.Refusal
import PageMarkdown.Proofs.RowTexts
import PageMarkdown.Proofs.RunningText
import PageMarkdown.Proofs.Session
import PageMarkdown.Proofs.Transparent
import PageMarkdown.Proofs.TreeLayout
import PageMarkdown.Proofs.UnreadableInputs
import PageMarkdown.Proofs.Unseen
import PageMarkdown.Proofs.Url.Blanks
import PageMarkdown.Proofs.Url.Resolve
import PageMarkdown.Proofs.Url.Safe
import PageMarkdown.Tools
