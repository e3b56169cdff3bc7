import Tabletop.Text.Letters
import Tabletop.Text.VisibleTables

/-!
# Characters that show by themselves

`isVisible` holds for a character that a reader can tell from its mark alone: neither a control,
a format or a separator other than the blank, nor a mark that joins the character before it, nor a
letter that shows nothing.
-/

namespace Tabletop.Text

def isVisible (c : Char) : Bool :=
  !inRanges hiddenRanges c && !inRanges extendingRanges c && !fillers.contains c.toNat

end Tabletop.Text
