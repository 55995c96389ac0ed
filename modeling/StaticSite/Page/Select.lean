import StaticSite.Page.Basic

/-!
# Selecting the pages of a list block

A list block shows the most recent pages of a group: the greatest dates first, pages with one date
in the order of their names.
-/

namespace StaticSite

namespace PageSet

/-- The pages of a group with their names, in the order of the names. -/
def ofGroup (pages : PageSet) (group : Text) : List (Text × Page) :=
  pages.entries.filter fun e => e.2.group = group

/-- Whether a page may stand before another one in a list block. -/
def notOlder (d e : Text × Page) : Bool :=
  !decide (d.2.date < e.2.date)

/-- The pages of a group, the most recent first. -/
def mostRecent (pages : PageSet) (group : Text) : List (Text × Page) :=
  (ofGroup pages group).mergeSort notOlder

/-- The `count` most recent pages of a group. -/
def select (pages : PageSet) (group : Text) (count : Nat) : List (Text × Page) :=
  (mostRecent pages group).take count

end PageSet

end StaticSite
