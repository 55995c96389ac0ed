import StaticSite.Text.Order

/-!
# Pages

A page is what the site's page file says about one page to render, with its content already turned
into HTML. The pages of a site form a `PageSet`, ordered by page name.
-/

namespace StaticSite

/-- Values for variable names. -/
abbrev Bindings := Dictionary Text Text

/-- One page of the site. -/
structure Page where
  /-- The name of the template that lays the page out. -/
  template : Text := []
  /-- The path of the page in its group. -/
  url : Text := []
  /-- The group that list blocks find the page by; empty for a page outside of any group. -/
  group : Text := []
  /-- The date; list blocks show the greatest one first. -/
  date : Text := []
  title : Text := []
  author : Text := []
  /-- The content as HTML. -/
  content : Text := []
  /-- A short form of the content as HTML. -/
  preview : Text := []
  /-- A one-line form of the content as HTML. -/
  line : Text := []
  /-- Whether the page asks not to be listed. List blocks do not look at it. -/
  unlisted : Bool := false
  bindings : Bindings := ∅
  deriving DecidableEq, Inhabited

namespace Page

/-- The path of the page in the destination: the group and the url, or the url alone for a page
outside of any group. -/
def outputPath (p : Page) : Text :=
  if p.group.isEmpty then p.url else p.group ++ '/' :: p.url

end Page

/-- The pages of a site by name. -/
abbrev PageSet := Dictionary Text Page

end StaticSite
