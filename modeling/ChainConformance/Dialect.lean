import ChainConformance.Pattern.Syntax
import ChainConformance.Yaml.Parser

/-!
# Dialects

Mappers and filters are written as documents with patterns in them. How a document is read, and in
which texts a pattern is found, is a matter of the dialect that they are written in. What is made
of them is the same in all dialects.
-/

namespace ChainConformance

/-- How documents are read, and which patterns there are, each with the texts that it is found
in. -/
structure Dialect where
  document? : String → Option Yaml
  pattern? : String → Option (String → Bool)

/-- The dialect of this library. It has no anchors, tags and block scalars in its documents, and
in its patterns no classes of characters by their Unicode properties. -/
def Dialect.own : Dialect where
  document? := Yaml.parse
  pattern? source := (Pattern.ofText? source).map (·.isMatch)

end ChainConformance
