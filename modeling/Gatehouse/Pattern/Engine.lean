import Gatehouse.Pattern.Basic
import Gatehouse.Pattern.Reader
import Gatehouse.Pattern.Search

/-!
# An engine for patterns

An engine that reads a pattern into a tree and searches texts for the tree.  It
stands in where no other engine is given: it knows the syntax in common use and
some of the properties of characters, and guesses how large a program may be.
-/

namespace Gatehouse

instance treeEngine : PatternEngine where
  Program := PatternTree
  compile source := ((PatternReader.read? source).map Except.ok).getD (.error ⟨none⟩)
  isIn := PatternTree.isIn

end Gatehouse
