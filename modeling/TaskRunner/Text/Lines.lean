/-!
# Line ends and terminal sequences

`unifyLineEnds` turns every way to end a line into a line feed. `stripSequences` removes what
colours a terminal: an escape, an opening bracket, digits, semicolons and question marks, and one
letter. A start of a sequence that no letter ends is text and stays.
-/

namespace TaskRunner.Text

/-- A carriage return, with or without the line feed after it, becomes one line feed. -/
def unifyLineEndsList : List Char → List Char
  | [] => []
  | '\r' :: '\n' :: rest => '\n' :: unifyLineEndsList rest
  | '\r' :: rest => '\n' :: unifyLineEndsList rest
  | c :: rest => c :: unifyLineEndsList rest

/-- Every line of the text ends in a line feed. -/
def unifyLineEnds (s : String) : String :=
  String.ofList (unifyLineEndsList s.toList)

namespace Sequences

/-- Whether a character may stand between the bracket and the letter of a sequence. -/
def isParameter (c : Char) : Bool := c.isDigit || c == ';' || c == '?'

/-- What follows the sequence that the characters start with; none if they start with no sequence. -/
def after? (cs : List Char) : Option (List Char) :=
  match cs with
  | '\x1b' :: '[' :: rest =>
    match rest.dropWhile isParameter with
    | c :: tail => if c.isAlpha then some tail else none
    | [] => none
  | _ => none

/-- What follows a sequence is shorter than the text that starts with it. -/
theorem length_lt_of_after? {cs rest : List Char} (h : after? cs = some rest) : rest.length < cs.length := by
  unfold after? at h
  split at h
  · rename_i tail
    have hd : (tail.dropWhile isParameter).length ≤ tail.length :=
      (List.dropWhile_suffix isParameter).sublist.length_le
    split at h
    · rename_i c t heq
      split at h
      · cases h
        rw [heq] at hd
        simp only [List.length_cons] at hd ⊢
        omega
      · cases h
    · cases h
  · cases h

end Sequences

/-- The characters without the terminal sequences among them. -/
def stripSequencesList (cs : List Char) : List Char :=
  match _h : Sequences.after? cs with
  | some rest => stripSequencesList rest
  | none =>
    match cs with
    | [] => []
    | c :: rest => c :: stripSequencesList rest
  termination_by cs.length
  decreasing_by
    · exact Sequences.length_lt_of_after? _h
    · simp

/-- The text without terminal sequences. -/
def stripSequences (s : String) : String :=
  String.ofList (stripSequencesList s.toList)

end TaskRunner.Text
