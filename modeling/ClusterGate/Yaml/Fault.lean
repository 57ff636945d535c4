/-!
# Why a text is not a document
-/

namespace ClusterGate.Yaml

inductive Fault
  /-- The character may not stand in a document at all. -/
  | controlCharacter (c : Char)
  /-- No token starts with the character. -/
  | unexpectedCharacter (c : Char)
  /-- A tab where only spaces indent. -/
  | tabIndent
  /-- A quoted scalar runs to the end of the text. -/
  | unclosedQuote
  /-- A document marker inside a quoted scalar. -/
  | markerInQuote
  /-- The character means nothing after a backslash. -/
  | unknownEscape (c : Char)
  /-- A numbered escape with too few hexadecimal digits, or with the number of no character. -/
  | badEscape
  /-- A block scalar that starts with something else than its indicators and a comment. -/
  | blockHeader
  /-- An anchor or alias without a proper name. -/
  | anchorName
  /-- A tag without a proper name. -/
  | tagName
  | directive
  /-- A tag whose handle no directive defines. -/
  | undefinedHandle
  /-- The key of a block mapping is not followed by a colon. -/
  | missingColon
  | misplacedEntry
  | misplacedKey
  | misplacedValue
  /-- A colon right before an indicator, in a flow collection. -/
  | ambiguousColon
  /-- The tokens form no document. -/
  | unexpectedToken
  /-- An alias before its anchor. -/
  | undefinedAlias (name : String)
  | severalDocuments
  deriving DecidableEq, Repr

end ClusterGate.Yaml
