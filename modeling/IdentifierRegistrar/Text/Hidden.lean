import IdentifierRegistrar.Text.Mark
import IdentifierRegistrar.Text.Unseen

/-!
Characters that are not shown as they are: those of which nothing is seen, and those that would
join the character before them.
-/

namespace IdentifierRegistrar.Text

def isHidden (c : Char) : Bool := isUnseen c || isExtending c

end IdentifierRegistrar.Text
