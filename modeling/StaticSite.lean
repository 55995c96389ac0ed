import StaticSite.Main
import StaticSite.Proofs.Placeholder.Scan
import StaticSite.Proofs.Placeholder.Substitute
import StaticSite.Proofs.Placeholder.ListBlock
import StaticSite.Proofs.Page.Fill
import StaticSite.Proofs.Page.Listing
import StaticSite.Proofs.Page.Layout
import StaticSite.Proofs.Page.Ending
import StaticSite.Proofs.Page.Render
import StaticSite.Proofs.Placeholder.Grammar
import StaticSite.Proofs.Site.Load
import StaticSite.Proofs.Site.Calls
import StaticSite.Proofs.Site.Memory
import StaticSite.Proofs.Site.History
import StaticSite.Proofs.File.Change
import StaticSite.Proofs.File.Parts
import StaticSite.Proofs.File.Way
import StaticSite.Proofs.File.Operation
import StaticSite.Proofs.File.Tree
import StaticSite.Proofs.Site.Write
import StaticSite.Proofs.Page.Check
import StaticSite.Proofs.Site.Compile
import StaticSite.Proofs.Site.Frame
import StaticSite.Proofs.Site.Overlay
import StaticSite.Proofs.Site.Prepare
import StaticSite.Proofs.Site.Static
import StaticSite.Proofs.Spec.Sections
import StaticSite.Proofs.Page.Shadow
import StaticSite.Proofs.Template.Growth
import StaticSite.Proofs.Site.Again
import StaticSite.Proofs.Site.Output
import StaticSite.Proofs.Placeholder.LeftToRight
import StaticSite.Proofs.Page.Alignment
import StaticSite.Proofs.Page.Rest
import StaticSite.Proofs.Page.Circle
import StaticSite.Proofs.Template.Graph
import StaticSite.Proofs.Template.Permanent
import StaticSite.Proofs.Template.Reading
import StaticSite.Proofs.Page.Recent
import StaticSite.Proofs.Spec.Production
import StaticSite.Proofs.Spec.Acceptance
import StaticSite.Proofs.Spec.Stem
import StaticSite.Proofs.Placeholder.Classification
import StaticSite.Proofs.Page.Lines
import StaticSite.Proofs.Markdown.CodeBlocks
import StaticSite.Proofs.Site.Guard
import StaticSite.Proofs.Placeholder.Nesting
import StaticSite.Proofs.Placeholder.FirstBlock
