/-!
# Tokens of a YAML document

A document is first read as a row of tokens. Brackets, dashes and colons are
tokens, and so are the beginnings and ends of lists and mappings that only the
columns of their lines show.
-/

namespace Drafting.Yaml

/-- A line for the reader of a document: the version of the language, the prefix
that a handle in tags stands for, or something that is not known. -/
inductive Directive where
  | version (major : Nat)
  | handle (handle pre : String)
  | unknown
  deriving DecidableEq, Repr

/-- A tag as it is written: a handle, unless it is written out, and what follows. -/
structure WrittenTag where
  handle : Option String
  suffix : String
  deriving DecidableEq, Repr

/-- A token. A scalar has no text if it holds half of a surrogate pair. -/
inductive Token where
  | directive (directive : Directive)
  | documentStart
  | documentEnd
  | textEnd
  | lineListStart
  | lineMappingStart
  | lineEnd
  | bracketListStart
  | bracketListEnd
  | bracketMappingStart
  | bracketMappingEnd
  | comma
  | dash
  | name
  | value
  | reference (anchor : String)
  | anchor (anchor : String)
  | tag (tag : WrittenTag)
  | scalar (text : Option String) (isPlain : Bool)
  deriving DecidableEq, Repr

end Drafting.Yaml
