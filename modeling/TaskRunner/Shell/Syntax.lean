/-!
# What scripts are made of

A script is a row of commands made of words, and a word is a row of pieces: bytes that stand for
themselves, marks where a quotation begins or ends, and parts that stand for something else. Every
byte is a character below 256.
-/

namespace TaskRunner.Shell

/-- The languages of shells. -/
inductive Dialect where
  /-- The common language. -/
  | plain
  /-- The common language with additions. -/
  | extended
  deriving DecidableEq, Repr

/-- What becomes of the value of a parameter. -/
inductive Form where
  | value
  /-- Another word if there is no value. -/
  | default
  /-- Another word if there is no value, which becomes the value. -/
  | assign
  /-- A message if there is no value. -/
  | demand
  /-- Another word if there is a value. -/
  | alternative
  | length
  /-- A part that matches a pattern is taken off the beginning. -/
  | trimStart (longest : Bool)
  /-- A part that matches a pattern is taken off the end. -/
  | trimEnd (longest : Bool)
  /-- From one number on, perhaps so many. -/
  | slice
  /-- What matches a pattern is replaced: the first, all, or only at the beginning or the end. -/
  | replace (place : Char)
  /-- Letters are changed to the other case: one of `^`, `,` and `~`, and whether all of them are. -/
  | casing (kind : Char) (all : Bool)
  /-- The value is written in some way that a letter says. -/
  | transform (letter : Char)
  /-- The names that begin with a name. -/
  | names (separately : Bool)
  /-- The keys of an array. -/
  | keys
  /-- Nothing can come of it. -/
  | bad
  deriving DecidableEq, Repr

/-- How a file is opened for a redirection. -/
inductive Opening where
  | input
  | output
  /-- Output to a file that may be there although files are not to be overwritten. -/
  | clobber
  | append
  | inputAndOutput
  deriving DecidableEq, Repr

/-- What comes after the commands of a case. -/
inductive CaseEnd where
  | leaves
  /-- The commands of the next case, whatever its patterns are. -/
  | fallsThrough
  /-- The next case that matches. -/
  | goesOn
  deriving DecidableEq, Repr

mutual

/-- A part of a word. -/
inductive Piece where
  | text (s : String)
  /-- A byte that stands for itself whatever it is. -/
  | escaped (c : Char)
  /-- A quotation begins or ends, of single marks or of double ones. -/
  | quote (single : Bool)
  /-- The value of a parameter, with what stands after its name. `colon` says whether an empty value is as good as none,
  and for the value itself whether it stands in braces. -/
  | parameter (name : String) (subscript : Option (List Piece)) (indirect : Bool) (form : Form) (colon : Bool)
      (operands : List (List Piece))
  /-- The output of a command; with the bytes between backquotes, if it was written with these. -/
  | command (c : Option Command) (old : Option String)
  /-- The value of an expression. -/
  | arithmetic (expression : List Piece)
  /-- The name of a file that a command is connected with. -/
  | connected (reads : Bool) (c : Option Command)

/-- What is put in a variable. -/
inductive Assignment where
  | scalar (name : String) (subscript : Option (List Piece)) (append : Bool) (value : List Piece)
  /-- The items of an array, perhaps with a place. -/
  | array (name : String) (append : Bool) (items : List (Option (List Piece) × List Piece))

/-- Where a descriptor is to lead. -/
inductive Redirect where
  | file (descriptor : Nat) (opening : Opening) (name : List Piece)
  /-- To where another one leads, or nowhere. -/
  | duplicate (descriptor : Nat) (output : Bool) (target : List Piece)
  /-- The text that follows the command in the script, known by a number. -/
  | document (descriptor number : Nat)
  | line (descriptor : Nat) (word : List Piece)
  /-- Both outputs to one file. -/
  | both (append : Bool) (name : List Piece)
  /-- A redirection of a new descriptor whose number is put in a variable. -/
  | named (label : String) (r : Redirect)

/-- A condition. -/
inductive Condition where
  | word (w : List Piece)
  | unary (operator : String) (w : List Piece)
  | binary (left : List Piece) (operator : String) (right : List Piece)
  | negation (c : Condition)
  | both (a b : Condition)
  | either (a b : Condition)
  | grouped (c : Condition)

/-- A command. `line` is where it stands. -/
inductive Command where
  /-- `late` is put in variables after the command has been carried out. -/
  | simple (line : Nat) (assignments : List Assignment) (words : List (List Piece)) (redirects : List Redirect)
      (late : List Assignment)
  | pipeline (commands : List Command)
  | negation (c : Command)
  | timed (posix : Bool) (c : Option Command)
  | sequence (a b : Command)
  | both (a b : Command)
  | either (a b : Command)
  | background (c : Command)
  | group (c : Command)
  | subshell (line : Nat) (c : Command)
  | redirected (line : Nat) (c : Command) (redirects : List Redirect)
  | branch (condition yes : Command) (no : Option Command)
  | loop (negated : Bool) (condition body : Command)
  | each (line : Nat) (name : String) (words : Option (List (List Piece))) (body : Command)
  | counted (line : Nat) (first condition next : List Piece) (body : Command)
  | choice (line : Nat) (name : String) (words : Option (List (List Piece))) (body : Command)
  /-- The first of the cases with a pattern that matches. -/
  | select (line : Nat) (subject : List Piece) (cases : List (List (List Piece) × Option Command × CaseEnd))
  | define (line : Nat) (name : String) (body : Command)
  | arithmetic (line : Nat) (expression : List Piece)
  | condition (line : Nat) (c : Condition)
  /-- A command that the shell is connected with, by an array of descriptors that has a name. -/
  | coprocess (line : Nat) (name : List Piece) (c : Command)

end

/-- A row of pieces. -/
abbrev Word := List Piece

/-- What ends a text of several lines. -/
structure EndMark where
  text : String
  /-- Whether it is quoted, so that nothing in the text stands for something else. -/
  isQuoted : Bool
  /-- Whether tabs at the beginnings of lines are taken off. -/
  stripsTabs : Bool
  deriving Inhabited

/-- A text of several lines that follows a command. -/
structure Document where
  mark : EndMark
  /-- The text as it is written. -/
  text : String
  content : Word
  deriving Inhabited

instance : Inhabited Piece := ⟨.text ""⟩
instance : Inhabited Command := ⟨.simple 0 [] [] [] []⟩

namespace Word

/-- A word that is only bytes that stand for themselves. -/
def ofText (s : String) : Word := [.text s]

/-- The bytes of a word that holds nothing else. -/
def plain? : Word → Option String
  | [] => some ""
  | [.text s] => some s
  | .text s :: rest => (plain? rest).map (s ++ ·)
  | _ => none

/-- The bytes of a word, quotations removed; what stands for something else is left out. -/
def unquoted : Word → String
  | [] => ""
  | .text s :: rest => s ++ unquoted rest
  | .escaped c :: rest => String.singleton c ++ unquoted rest
  | _ :: rest => unquoted rest

/-- Whether anything in a word is quoted. -/
def isQuoted (w : Word) : Bool := w.any fun
  | .quote _ | .escaped _ => true
  | _ => false

end Word

/-- Whether a byte can begin a name. -/
def isNameStart (c : Char) : Bool := c == '_' || ('a' ≤ c && c ≤ 'z') || ('A' ≤ c && c ≤ 'Z')

/-- Whether a byte can be inside a name. -/
def isNameInside (c : Char) : Bool := isNameStart c || ('0' ≤ c && c ≤ '9')

/-- Whether a text is a name. -/
def isName (s : String) : Bool := match s.toList with
  | c :: cs => isNameStart c && cs.all isNameInside
  | [] => false

/-- Whether a byte is the name of a special parameter. -/
def isSpecialParameter (c : Char) : Bool := ['@', '*', '#', '?', '-', '$', '!'].contains c || ('0' ≤ c && c ≤ '9')

end TaskRunner.Shell
