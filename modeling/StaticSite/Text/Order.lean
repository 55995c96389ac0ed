import StaticSite.Dictionary
import StaticSite.Text.Basic

/-!
# Texts as keys

Texts are ordered by their characters, where the first difference decides; this is also the order of
their UTF-8 bytes. Lists of texts are ordered in the same way by their texts.
-/

namespace StaticSite

/-- Texts can be keys of a dictionary. -/
instance : OrderedKey Text :=
  .ofLinearOrder Text

/-- Lists of texts can be keys of a dictionary. -/
instance : OrderedKey (List Text) :=
  .ofLinearOrder (List Text)

end StaticSite
