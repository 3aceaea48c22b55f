import BootEnv.Yaml.Text

/-!
# Tokens of a YAML document

What a document is made of, before the tokens are put together. Some of them are not written: those
that open and close what indentation alone shows.
-/

namespace BootEnv.Yaml

/-- A scalar: its text, and whether it stands without quotes. -/
structure Scalar where
  text : List Char
  isPlain : Bool
  deriving Repr, DecidableEq

/-- A token. -/
inductive Token where
  /-- The version that a document claims. -/
  | version (major minor : Nat)
  /-- A handle that stands for the first part of tags. -/
  | handle (name stem : List Char)
  | documentStart
  | documentEnd
  | textEnd
  /-- An indented list starts. -/
  | blockList
  /-- An indented mapping starts. -/
  | blockMap
  /-- What was indented ends. -/
  | blockEnd
  | flowList
  | flowListEnd
  | flowMap
  | flowMapEnd
  /-- The sign of an item in a list. -/
  | item
  | comma
  | key
  | value
  | alias (name : List Char)
  | anchor (name : List Char)
  /-- A tag; the empty handle stands for nothing. -/
  | tag (handle rest : List Char)
  | scalar (s : Scalar)
  deriving Repr, DecidableEq

end BootEnv.Yaml
