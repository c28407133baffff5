namespace CardTable
namespace Yaml

/-!
# Tokens

The tokens of a YAML text.  Nesting by columns shows as tokens too: a block
starts where a line goes further in and ends where one comes back.
-/

/-- How a scalar is written. -/
inductive Style where
  | plain
  | quoted
  | literal
  | folded
  deriving DecidableEq, Repr

inductive Token where
  | streamStart
  | streamEnd
  /-- `%YAML` with a version. -/
  | versionDirective (major minor : Nat)
  /-- `%TAG` with a handle and what it stands for. -/
  | tagDirective (handle stands : List Char)
  | documentStart
  | documentEnd
  | blockSequenceStart
  | blockMappingStart
  | blockEnd
  | flowSequenceStart
  | flowSequenceEnd
  | flowMappingStart
  | flowMappingEnd
  | blockEntry
  | flowEntry
  | key
  | value
  | alias (name : List Char)
  | anchor (name : List Char)
  | tag (handle suffix : List Char)
  | scalar (text : List Char) (style : Style)
  deriving DecidableEq, Repr

end Yaml
end CardTable
