import TaskRunner.Data

/-!
# Why a document is no settings document

The reasons for which a document is refused, and the place of the first: its line and column, or the
end of the document.
-/

namespace TaskRunner.Toml

/-- Why a document is refused. -/
inductive Reason where
  | badKey
  | noEquals
  | badValue
  | badDate
  | badStatement
  | noLineEnd
  | openTable
  | openTableList
  | openArray
  | openInlineTable
  | openText
  | unclosed (quotes : String)
  | badEscape
  | badHex
  | notScalar
  | illegalChar (c : Char)
  | hiddenChar (c : Char)
  | declaredTwice (key : List String)
  | immutable (key : List String)
  | redefined (key : List String)
  | overwritten
  | duplicateInline (key : String)
  /-- More decimal digits than a number may have. -/
  | longNumber (digits : Nat)
  deriving DecidableEq, Repr

/-- A key of several names, between round brackets. -/
def showKey (key : List String) : String := Data.inspectTuple (key.map .text)

/-- What a reason says. -/
def Reason.message : Reason → String
  | .badKey => "Invalid initial character for a key part"
  | .noEquals => "Expected '=' after a key in a key/value pair"
  | .badValue => "Invalid value"
  | .badDate => "Invalid date or datetime"
  | .badStatement => "Invalid statement"
  | .noLineEnd => "Expected newline or end of document after a statement"
  | .openTable => "Expected ']' at the end of a table declaration"
  | .openTableList => "Expected ']]' at the end of an array declaration"
  | .openArray => "Unclosed array"
  | .openInlineTable => "Unclosed inline table"
  | .openText => "Unterminated string"
  | .unclosed quotes => "Expected " ++ Text.quoted quotes
  | .badEscape => "Unescaped '\\' in a string"
  | .badHex => "Invalid hex value"
  | .notScalar => "Escaped character is not a Unicode scalar value"
  | .illegalChar c => "Illegal character " ++ Text.quoted (String.singleton c)
  | .hiddenChar c => "Found invalid character " ++ Text.quoted (String.singleton c)
  | .declaredTwice key => "Cannot declare " ++ showKey key ++ " twice"
  | .immutable key => "Cannot mutate immutable namespace " ++ showKey key
  | .redefined key => "Cannot redefine namespace " ++ showKey key
  | .overwritten => "Cannot overwrite a value"
  | .duplicateInline key => "Duplicate inline table key " ++ Text.quoted key
  | .longNumber digits => s!"Number of {digits} digits"

/-- A reason and where it arose: a line and a column, or the end of the document. -/
structure Fault where
  reason : Reason
  place : Option (Nat × Nat)
  deriving DecidableEq, Repr

/-- What the fault says. -/
def Fault.message (f : Fault) : String :=
  match f.place with
  | some (line, column) => s!"{f.reason.message} (at line {line}, column {column})"
  | none => s!"{f.reason.message} (at end of document)"

end TaskRunner.Toml
