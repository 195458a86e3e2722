import Mathlib.Data.List.Forall2
import TaskRunner.Proofs.TaskTable

/-!
# The help

The help is a header and one line for each task, in the order of the table. With the longest name of `w` characters, the
documentation of every task begins at column `w + 8` (`Registry.LaidOut`); more tasks push that column to the right and change
nothing else in the lines that were there (`Manager.help_layout`).
-/

namespace TaskRunner

namespace Registry

variable {r : Registry} {t : Task} {column : Nat}

/-- The length of the longest name, and nothing where there is no name. -/
def longest (r : Registry) : Nat := ((r.tasks.map fun t => t.name.length).max?).getD 0

/-- A line with the given padding between the name of a task and its documentation. -/
def padded (t : Task) (spaces : Nat) : String :=
  "  " ++ t.name ++ String.ofList (List.replicate spaces ' ') ++ t.doc.getD ""

/-- The line of a task in the help: its name at index 2, as it is spelled; then spaces only, at least six of them, up to the column
at which the documentation begins, if there is any. -/
structure LaidOut (column : Nat) (t : Task) (line : String) : Prop where
  indent : line.toList.take 2 = [' ', ' ']
  name : (line.toList.drop 2).take t.name.length = t.name.toList
  gutter : 2 + t.name.length + 6 ≤ column
  gap : ∀ i, 2 + t.name.length ≤ i → i < column → line.toList[i]? = some ' '
  doc : line.toList.drop column = (t.doc.getD "").toList

theorem nameWidth_eq_longest (r : Registry) : r.nameWidth = r.longest := by
  have hfold : r.nameWidth = (r.tasks.map fun t => t.name.length).foldl max 0 := List.foldl_map.symm
  rw [hfold, longest]
  cases r.tasks.map fun t => t.name.length with
  | nil => rfl
  | cons first rest => rw [List.foldl_cons, Nat.zero_max, List.max?_cons', Option.getD_some]

theorem length_le_longest (h : t ∈ r.tasks) : t.name.length ≤ r.longest := by
  have hmem : t.name.length ∈ r.tasks.map fun t => t.name.length := List.mem_map_of_mem h
  rw [longest]
  cases hmax : (r.tasks.map fun t => t.name.length).max? with
  | none =>
    rw [List.max?_eq_none_iff.1 hmax] at hmem
    cases hmem
  | some w => exact (List.max?_eq_some_iff.1 hmax).2 _ hmem

/-- More tasks make the longest name no shorter. -/
theorem longest_le_of_subset {r' : Registry} (h : r.tasks ⊆ r'.tasks) : r.longest ≤ r'.longest := by
  rw [longest]
  cases hmax : (r.tasks.map fun t => t.name.length).max? with
  | none => exact Nat.zero_le _
  | some w =>
    obtain ⟨t, ht, rfl⟩ := List.mem_map.1 (List.max?_eq_some_iff.1 hmax).1
    exact length_le_longest (h ht)

theorem helpLine_eq_padded (w : Nat) (t : Task) : helpLine w t = padded t (w - t.name.length + 6) := rfl

theorem toList_padded (t : Task) (spaces : Nat) :
    (padded t spaces).toList = [' ', ' '] ++ (t.name.toList ++ (List.replicate spaces ' ' ++ (t.doc.getD "").toList)) := by
  simp only [padded, String.toList_append, String.toList_ofList, List.append_assoc]
  rfl

/-- The documentation begins where the padding ends. -/
theorem laidOut_padded {spaces : Nat} (h : 6 ≤ spaces) (hcolumn : column = 2 + t.name.length + spaces) :
    LaidOut column t (padded t spaces) := by
  have hname : t.name.toList.length = t.name.length := rfl
  refine ⟨?_, ?_, by omega, fun i hi hlt => ?_, ?_⟩
  · rw [toList_padded]
    rfl
  · rw [toList_padded]
    exact List.take_left' hname
  · have hpadding : (List.replicate spaces ' ')[i - 2 - t.name.length]? = some ' ' :=
      List.getElem?_replicate_of_lt (by omega)
    rw [toList_padded, List.getElem?_append_right (by simp; omega), List.getElem?_append_right (by simp; omega),
      List.getElem?_append_left (by simp; omega)]
    exact hpadding
  · rw [toList_padded, ← List.append_assoc, ← List.append_assoc, List.drop_left']
    simp
    omega

theorem help_eq (r : Registry) : r.help = "Tasks:" :: r.tasks.map (helpLine r.longest) := by
  rw [help, nameWidth_eq_longest]
  rfl

theorem laidOut_helpLine (h : t ∈ r.tasks) : LaidOut (r.longest + 8) t (helpLine r.longest t) := by
  have hle := length_le_longest h
  rw [helpLine_eq_padded]
  exact laidOut_padded (by omega) (by omega)

/-- The line of a task in the help. -/
theorem getElem?_help {i : Nat} (h : r.tasks[i]? = some t) :
    r.help[i + 1]? = some (padded t (r.longest - t.name.length + 6)) := by
  rw [help_eq, List.getElem?_cons_succ, List.getElem?_map, h]
  rfl

/-- The help of the same tasks in another order has the same lines. -/
theorem help_perm {r' : Registry} (h : r.tasks.Perm r'.tasks) : r.help.Perm r'.help := by
  have hlongest : r.longest = r'.longest :=
    Nat.le_antisymm (longest_le_of_subset h.subset) (longest_le_of_subset h.symm.subset)
  rw [help_eq, help_eq, hlongest]
  exact (h.map _).cons _

end Registry

namespace Manager

open Registry

/-- The help of a manager. It is the header, alone if there is no task, and then exactly one line for each task, in the order of the
table: with the longest name of `w` characters, each line has the name after two spaces, then spaces only up to column `w + 8`, and
from there on the documentation. Whatever Runfiles are loaded and mappings merged later, the line of a task stays where it is and as
it is but for the padding, which is longer by the same number of spaces in every line. -/
theorem help_layout (m : Manager) :
    (m.registry.tasks = [] → m.registry.help = ["Tasks:"]) ∧
    (∃ entries, m.registry.help = "Tasks:" :: entries ∧
      List.Forall₂ (LaidOut (m.registry.longest + 8)) m.registry.tasks entries) ∧
    ∀ history, ∃ more, ∀ i t, m.registry.tasks[i]? = some t → ∃ spaces,
      m.registry.help[i + 1]? = some (padded t spaces) ∧
        (m.afterCalls history).registry.help[i + 1]? = some (padded t (spaces + more)) := by
  refine ⟨fun hnone => ?_, ⟨_, help_eq m.registry, ?_⟩, fun history => ?_⟩
  · rw [help_eq, hnone]
    rfl
  · rw [List.forall₂_map_right_iff, List.forall₂_same]
    exact fun t ht => laidOut_helpLine ht
  · have hprefix : m.registry.tasks <+: (m.afterCalls history).registry.tasks :=
      (toList_prefix_afterCalls m history).map Prod.snd
    have hgrows := longest_le_of_subset hprefix.subset
    refine ⟨(m.afterCalls history).registry.longest - m.registry.longest, fun i t ht => ⟨_, getElem?_help ht, ?_⟩⟩
    have hfits := length_le_longest (List.mem_of_getElem? ht)
    obtain ⟨hlt, rfl⟩ := List.getElem?_eq_some_iff.1 ht
    have ht' := List.prefix_iff_getElem?.1 hprefix i hlt
    rw [getElem?_help ht']
    congr 2
    omega

namespace Listed

def short : Task := ⟨"ab", some "first", .steps [], ⟨1, []⟩, 0⟩

def long : Task := ⟨"abcd", none, .steps [], ⟨1, []⟩, 0⟩

def manager : Manager := ⟨⟨.null, false⟩, ⟨⟨[("ab", short)]⟩⟩⟩

/-- A task with a longer name comes later. -/
def later : List (Call × World) :=
  [(.merge ⟨[("abcd", long)]⟩, World.initial ⟨FileSystem.empty, ⟨[], 0⟩, ⟨[], []⟩, Assoc.empty⟩ ["runner"])]

end Listed

open Listed in
/-- The documentation of a task is at column 10, until a task with a longer name comes. -/
theorem help_layout_widened :
    (∃ entries, manager.registry.help = "Tasks:" :: entries ∧ List.Forall₂ (LaidOut 10) [short] entries) ∧
    ∃ spaces more, manager.registry.help[1]? = some (padded short spaces) ∧
      (manager.afterCalls later).registry.help[1]? = some (padded short (spaces + more)) ∧
      (manager.afterCalls later).registry.help = ["Tasks:", "  ab        first", "  abcd      "] := by
  obtain ⟨-, hentries, hlater⟩ := help_layout manager
  obtain ⟨more, hmore⟩ := hlater later
  obtain ⟨spaces, hbefore, hafter⟩ := hmore 0 short rfl
  exact ⟨hentries, spaces, more, hbefore, hafter, by decide +kernel⟩

end Manager
end TaskRunner
