import StaticSite.Build.Outcome
import StaticSite.Page.Fill
import StaticSite.Page.Select
import StaticSite.Placeholder.ListBlock

/-!
# Expanding list blocks

A list block is replaced by one repetition of its body for each page that it selects, with that
page's values filled in and a separator line behind it. Values may bring list blocks with them, so
the first block is replaced and the text is looked through again until no block is left.

A page that keeps listing itself would never come to an end. To notice this, each list start in the
text has a `Lineage`: the pages whose values brought it into the text. A repetition that has more
list starts than the body had gives its starts the lineage of the block and the page; a page that is
in the lineage already is a circle.

Lineages do not catch every endless expansion: a page may bring list ends without list starts. So
`expandLists` is given the number of expansions it may use.
-/

namespace StaticSite

/-- What stands behind every repetition of a block. -/
def blockSeparator : Text :=
  "\n<!-- expanded block div -->\n".toList

/-- The group and the name of each page that brought a list block into the text, the outermost
first. The blocks of a template have none. -/
abbrev Lineage := List (Text × Text)

/-- A text whose list blocks are being expanded. -/
structure Listing where
  text : Text
  /-- The lineages of the list starts, in the order of the text. -/
  lineages : List Lineage
  deriving DecidableEq, Repr, Inhabited

namespace Listing

/-- A text before any expansion. -/
def ofText (t : Text) : Listing where
  text := t
  lineages := List.replicate (ListBlock.countStarts t) []

/-- The lineage of the first list start. -/
def lineage (l : Listing) : Lineage :=
  l.lineages.headD []

/-- The lineages of the list starts in the body of the first block. -/
def inner (l : Listing) (block : ListBlock) : List Lineage :=
  (l.lineages.drop 1).take (ListBlock.countStarts block.body)

/-- The lineages of the list starts behind the first block. -/
def outer (l : Listing) (block : ListBlock) : List Lineage :=
  l.lineages.drop (1 + ListBlock.countStarts block.body)

/-- The repetition of a block for one page, with the lineages of its list starts. -/
def repetition (l : Listing) (block : ListBlock) (name : Text) (page : Page) :
    Except BuildError Listing :=
  let filled := page.fillPage block.body
  let starts := ListBlock.countStarts filled
  let source := (block.start.group, name)
  if ListBlock.countStarts block.body < starts then
    if source ∈ l.lineage then .error (.cyclicList block.start.group)
    else .ok ⟨filled ++ blockSeparator, List.replicate starts (l.lineage ++ [source])⟩
  else .ok ⟨filled ++ blockSeparator, (l.inner block).take starts⟩

/-- The repetitions of a block for some pages, one behind the other. -/
def repetitions (l : Listing) (block : ListBlock) : List (Text × Page) → Except BuildError Listing
  | [] => .ok ⟨[], []⟩
  | (name, page) :: rest =>
    match l.repetition block name page with
    | .error e => .error e
    | .ok one =>
      match repetitions l block rest with
      | .error e => .error e
      | .ok more => .ok ⟨one.text ++ more.text, one.lineages ++ more.lineages⟩

/-- The listing with its first block replaced by its repetitions. -/
def expandBlock (pages : PageSet) (l : Listing) (block : ListBlock) : Outcome Listing :=
  let selected := PageSet.select pages block.start.group block.start.count
  let entry := LogEntry.expandingList block.start.group selected.length block.start.count
  match l.repetitions block selected with
  | .error e => ⟨[entry], .error e⟩
  | .ok new =>
    ⟨[entry], .ok ⟨block.before ++ new.text ++ block.after, new.lineages ++ l.outer block⟩⟩

/-- One expansion; `none` when no block is left. -/
def step (pages : PageSet) (l : Listing) : Outcome (Option Listing) :=
  match ListBlock.find l.text with
  | .error e => .fail e
  | .ok none => .ok none
  | .ok (some block) => (expandBlock pages l block).andThen fun next => .ok (some next)

/-- Expands blocks until none is left, with at most `expansions` expansions. -/
def expandWithin (pages : PageSet) : (expansions : Nat) → Listing → Outcome Text
  | 0, l =>
    (step pages l).andThen fun next =>
      match next with
      | none => .ok l.text
      | some _ => .fail .tooManyExpansions
  | expansions + 1, l =>
    (step pages l).andThen fun next =>
      match next with
      | none => .ok l.text
      | some next => expandWithin pages expansions next

end Listing

/-- The text with all its list blocks expanded, if that takes at most `expansions` expansions. -/
def expandLists (expansions : Nat) (pages : PageSet) (t : Text) : Outcome Text :=
  Listing.expandWithin pages expansions (Listing.ofText t)

end StaticSite
