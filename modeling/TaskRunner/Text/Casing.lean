import TaskRunner.Text.Casing.Table

/-!
# Lower and upper case

`lower` and `upper` map a whole text, character by character. A form may be longer than its
character, and one form depends on its neighbours: a capital sigma becomes the final sigma at the
end of a word and the ordinary one elsewhere. An ASCII letter is mapped without a look at a table,
and it counts as a letter in either case, so the case of one ASCII letter never shows in the lower
form of the rest (`lowerChars_map_lowerAscii`).
-/

namespace TaskRunner.Text

open Casing

/-- The lower form of an ASCII letter; any other character is kept. -/
def lowerAscii (c : Char) : Char :=
  if 65 ≤ c.toNat ∧ c.toNat ≤ 90 then Char.ofNat (c.toNat + 32) else c

/-- The upper form of an ASCII letter; any other character is kept. -/
def upperAscii (c : Char) : Char :=
  if 97 ≤ c.toNat ∧ c.toNat ≤ 122 then Char.ofNat (c.toNat - 32) else c

namespace Casing

/-- The form of a character beyond ASCII by the tables: a long form, else the form of a run, else itself. -/
def byTable (long : List (Nat × List Nat)) (runs : List Run) (c : Char) : List Char :=
  match long.lookup c.toNat with
  | some form => form.map Char.ofNat
  | none =>
    match runs.findSome? (·.map? c.toNat) with
    | some code => [Char.ofNat code]
    | none => [c]

/-- Whether a code point lies in one of the ranges. -/
def inRanges (ranges : List (Nat × Nat)) (code : Nat) : Bool :=
  ranges.any fun r => r.1 ≤ code && code ≤ r.2

/-- The ASCII characters that are skipped in the search for the neighbours of a sigma. -/
def asciiIgnorable : List Nat := [0x27, 0x2E, 0x3A, 0x5E, 0x60]

/-- Whether a character is skipped in the search for the neighbours of a sigma. -/
def isIgnorable (c : Char) : Bool :=
  if c.toNat < 128 then asciiIgnorable.contains c.toNat else inRanges ignorableRanges c.toNat

/-- Whether a character that is not skipped counts as a letter with case. -/
def isCased (c : Char) : Bool :=
  if c.toNat < 128 then c.isAlpha else inRanges casedRanges c.toNat

/-- Whether the first character that is not skipped is a letter with case. -/
def meetsLetter (cs : List Char) : Bool :=
  match cs.dropWhile isIgnorable with
  | [] => false
  | c :: _ => isCased c

end Casing

/-- The capital sigma, the one letter whose lower form depends on its neighbours. -/
def capitalSigma : Char := 'Σ'

/-- The lower form of one character, given the text before it (nearest first) and after it. -/
def lowerChar (before : List Char) (c : Char) (after : List Char) : List Char :=
  if c.toNat < 128 then [lowerAscii c]
  else if c = capitalSigma then
    if Casing.meetsLetter before && !Casing.meetsLetter after then ['ς'] else ['σ']
  else Casing.byTable longLower lowerRuns c

/-- The upper form of one character. -/
def upperChar (c : Char) : List Char :=
  if c.toNat < 128 then [upperAscii c] else Casing.byTable longUpper upperRuns c

/-- The lower form of a text that follows `before` (nearest character first). -/
def lowerChars (before : List Char) : List Char → List Char
  | [] => []
  | c :: after => lowerChar before c after ++ lowerChars (c :: before) after

/-- The lower form of a text. -/
def lower (s : String) : String :=
  String.ofList (lowerChars [] s.toList)

/-- The upper form of a text. -/
def upper (s : String) : String :=
  String.ofList (s.toList.flatMap upperChar)

/-- Two texts that differ only in the case of ASCII letters, character by character. -/
def SameButAsciiCase (s t : String) : Prop :=
  s.toList.map lowerAscii = t.toList.map lowerAscii

/-! ## The case of ASCII letters -/

namespace Casing

/-- What holds of the 26 capital ASCII letters, one by one, holds of every capital ASCII letter. -/
theorem forall_capital {P : Char → Prop} (h : ∀ k : Fin 26, P (Char.ofNat (65 + k))) {c : Char} (hc : 65 ≤ c.toNat ∧ c.toNat ≤ 90) :
    P c := by
  have hk : c.toNat - 65 < 26 := by omega
  have hcode : 65 + (c.toNat - 65) = c.toNat := by omega
  have := h ⟨c.toNat - 65, hk⟩
  rwa [hcode, Char.ofNat_toNat] at this

/-- A capital ASCII letter and its lower form are letters, and none is skipped. -/
theorem capital_letter {c : Char} (hc : 65 ≤ c.toNat ∧ c.toNat ≤ 90) :
    (lowerAscii c).toNat < 128 ∧ lowerAscii (lowerAscii c) = lowerAscii c ∧ isIgnorable (lowerAscii c) = isIgnorable c ∧
      isCased (lowerAscii c) = isCased c := by
  refine forall_capital (P := fun c => (lowerAscii c).toNat < 128 ∧ lowerAscii (lowerAscii c) = lowerAscii c ∧
    isIgnorable (lowerAscii c) = isIgnorable c ∧ isCased (lowerAscii c) = isCased c) ?_ hc
  decide +kernel

theorem lowerAscii_of_not_capital {c : Char} (hc : ¬(65 ≤ c.toNat ∧ c.toNat ≤ 90)) : lowerAscii c = c := if_neg hc

theorem isIgnorable_lowerAscii (c : Char) : isIgnorable (lowerAscii c) = isIgnorable c := by
  by_cases hc : 65 ≤ c.toNat ∧ c.toNat ≤ 90
  · exact (capital_letter hc).2.2.1
  · rw [lowerAscii_of_not_capital hc]

theorem isCased_lowerAscii (c : Char) : isCased (lowerAscii c) = isCased c := by
  by_cases hc : 65 ≤ c.toNat ∧ c.toNat ≤ 90
  · exact (capital_letter hc).2.2.2
  · rw [lowerAscii_of_not_capital hc]

/-- The search for the neighbours of a sigma does not see the case of ASCII letters. -/
theorem meetsLetter_map_lowerAscii (cs : List Char) : meetsLetter (cs.map lowerAscii) = meetsLetter cs := by
  induction cs with
  | nil => rfl
  | cons c rest ih =>
    unfold meetsLetter at ih ⊢
    rw [List.map_cons, List.dropWhile_cons, List.dropWhile_cons, isIgnorable_lowerAscii]
    by_cases h : isIgnorable c = true
    · rw [if_pos h, if_pos h]
      exact ih
    · rw [if_neg h, if_neg h]
      exact isCased_lowerAscii c

end Casing

theorem lowerChar_map_lowerAscii (before : List Char) (c : Char) (after : List Char) :
    lowerChar (before.map lowerAscii) (lowerAscii c) (after.map lowerAscii) = lowerChar before c after := by
  by_cases hc : 65 ≤ c.toNat ∧ c.toNat ≤ 90
  · have hascii : c.toNat < 128 := by omega
    obtain ⟨hlower, htwice, -⟩ := capital_letter hc
    rw [lowerChar, lowerChar, if_pos hlower, if_pos hascii, htwice]
  · rw [lowerAscii_of_not_capital hc, lowerChar, lowerChar, meetsLetter_map_lowerAscii, meetsLetter_map_lowerAscii]

/-- The lower form of a text is that of the text with its ASCII letters in lower case. -/
theorem lowerChars_map_lowerAscii (before cs : List Char) :
    lowerChars (before.map lowerAscii) (cs.map lowerAscii) = lowerChars before cs := by
  induction cs generalizing before with
  | nil => rfl
  | cons c after ih =>
    rw [List.map_cons, lowerChars, lowerChars, lowerChar_map_lowerAscii]
    exact congrArg _ (ih (c :: before))

/-- Texts that differ only in the case of ASCII letters have one lower form. -/
theorem lower_eq_of_sameButAsciiCase {s t : String} (h : SameButAsciiCase s t) : lower s = lower t := by
  have hs := lowerChars_map_lowerAscii [] s.toList
  have ht := lowerChars_map_lowerAscii [] t.toList
  rw [lower, lower, ← hs, ← ht, h]

end TaskRunner.Text
