import Microbench.Registry

/-!
An engine of plain texts. A pattern is what stands between bars, and a name matches if some of it
stands in the name; a text with a character that may mean more is refused.
-/

namespace Microbench.PatternEngine

def special : List Char := "()[]{}.*+?^$\\".toList

def standsIn (part name : List Char) : Bool :=
  (List.range (name.length + 1)).any fun i => part.isPrefixOf (name.drop i)

@[reducible] def plain : PatternEngine where
  compile text :=
    if text.toList.any special.contains then .error "not a plain text"
    else .ok fun name => (text.toList.splitOn '|').any (standsIn · name.toList)

end Microbench.PatternEngine
