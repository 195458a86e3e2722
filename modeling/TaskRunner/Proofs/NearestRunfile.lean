import TaskRunner.Proofs.Directories

/-!
# The nearest Runfile

The search looks at one place after the other on the way from where it starts up to the root. It ends at the first place where the
path of a Runfile leads to a regular file, and passes over a place where it leads to anything else or nowhere. A place can also be
one at which the system refuses to look, for the length of a name or of the path: the search ends there with this refusal
(`Runfile.find_gives_nearest`).
-/

namespace TaskRunner

open Run

namespace FileSystem

variable {fs : FileSystem} {follow : Bool}

/-- Whether a location holds a regular file. -/
def IsRegular (fs : FileSystem) (l : Location) : Prop :=
  (∃ node, fs.held? l = some (.file node)) ∨ ∃ name, fs.held? l = some (.program name)

/-- Why a walk can be refused. -/
def walkRefusals : List Refusal := [.noEntry, .notDirectory, .tooManyLinks, .nameTooLong]

theorem leg_refused {start : Location} {names : List String} {r : Refusal} (h : fs.leg follow start names = .refused r) :
    r ∈ walkRefusals := by
  induction names generalizing start with
  | nil => cases h
  | cons name rest ih =>
    rw [leg] at h
    split at h
    · exact ih h
    split at h
    · exact ih h
    split at h
    · cases h
      decide
    split at h
    · cases h
      decide
    · exact ih h
    · split at h
      · cases h
      · cases h
    · split at h
      · cases h
      · cases h
        decide

theorem walkFrom_refused {budget : Nat} {start : Location} {names : List String} {r : Refusal}
    (h : fs.walkFrom follow budget start names = .error r) : r ∈ walkRefusals := by
  induction budget generalizing start names with
  | zero =>
    rw [walkFrom] at h
    split at h
    · cases h
    · rename_i hleg
      cases h
      exact leg_refused hleg
    · cases h
      decide
  | succ budget ih =>
    rw [walkFrom] at h
    split at h
    · cases h
    · rename_i hleg
      cases h
      exact leg_refused hleg
    · simp only at h
      split at h
      · cases h
        decide
      · exact ih h

theorem walk_refused {p : Place} {path : String} {r : Refusal} (h : fs.walk follow p path = .error r) : r ∈ walkRefusals := by
  unfold walk at h
  split at h
  · cases h
    decide
  split at h
  · cases h
    decide
  split at h
  · exact walkFrom_refused h
  split at h
  · exact walkFrom_refused h
  split at h
  · cases h
    decide
  · split at h
    · exact walkFrom_refused h
    · cases h
      decide

end FileSystem

/-- What a path leads to that is not the directory of the process itself: it leads nowhere where the walk along it is refused, but
for the length of a name or of the path. -/
theorem Machine.lookup_eq {m : Machine} {path : String} (hnull : '\x00' ∉ path.toList) (hhere : FileSystem.isHere path = false) :
    m.lookup path = match m.files.walk true m.place path with
      | .ok l => .ok (m.files.held? l)
      | .error .nameTooLong => .error (.refused .nameTooLong (some path))
      | .error _ => .ok none := by
  have hcontains : path.toList.contains '\x00' = false := by simpa using hnull
  have hgone : m.files.isGone m.place path = false := by rw [FileSystem.isGone, hhere, Bool.false_and]
  rw [Machine.lookup, FileSystem.lookup, hcontains, hgone, if_neg Bool.false_ne_true, if_neg Bool.false_ne_true]
  cases hwalk : m.files.walk true m.place path with
  | ok l => rw [Machine.refuse, hcontains]; rfl
  | error r =>
    have hr := FileSystem.walk_refused hwalk
    rw [FileSystem.walkRefusals] at hr
    simp only [List.mem_cons, List.not_mem_nil, or_false] at hr
    rcases hr with rfl | rfl | rfl | rfl
    · rw [Machine.refuse, hcontains]; rfl
    · rw [Machine.refuse, hcontains]; rfl
    · rw [Machine.refuse, hcontains]; rfl
    · exact Machine.refuse_error hnull

namespace Runfile

/-! ## One place -/

/-- The path that the Runfile of a directory has. -/
def candidate (D : Location) : Path := (Location.path D).child fileName

/-- Whether the Runfile of a directory is a regular file or leads to one. -/
def HasRunfile (m : Machine) (D : Location) : Prop :=
  '\x00' ∉ (candidate D).toString.toList ∧
    ∃ f, m.files.walk true m.place (candidate D).toString = .ok f ∧ m.files.IsRegular f

/-- Whether the system refuses to look for the Runfile of a directory, since a name or the path is too long. -/
def TooLong (m : Machine) (D : Location) : Prop :=
  '\x00' ∉ (candidate D).toString.toList ∧ m.files.walk true m.place (candidate D).toString = .error .nameTooLong

/-- Whether a search goes on past a directory. -/
def PassedOver (m : Machine) (D : Location) : Prop := ¬HasRunfile m D ∧ ¬TooLong m D

variable {m : Machine} {D : Location}

/-- The refusal to look for the Runfile of a directory. -/
def refusalAt (D : Location) : Failure := .refused .nameTooLong (some (candidate D).toString)

theorem candidate_eq (D : Location) : (candidate D).toString = Location.toString (fileName :: D) := by
  rw [candidate, path_child, Location.toString]

/-- A place is one of three kinds, and the look at it tells which. -/
theorem isFile_candidate (m : Machine) (D : Location) :
    (m.isFile (candidate D).toString = .ok true ∧ HasRunfile m D) ∨
      (m.isFile (candidate D).toString = .error (refusalAt D) ∧ TooLong m D) ∨
      m.isFile (candidate D).toString = .ok false ∧ PassedOver m D := by
  by_cases hnull : '\x00' ∈ (candidate D).toString.toList
  · have hlookup : m.lookup (candidate D).toString = .ok none := if_pos (List.contains_iff_mem.2 hnull)
    refine .inr (.inr ⟨?_, fun h => h.1 hnull, fun h => h.1 hnull⟩)
    rw [Machine.isFile, hlookup]
    rfl
  rw [Machine.isFile, Machine.lookup_eq hnull (by rw [candidate_eq, FileSystem.isHere_toString])]
  cases hwalk : m.files.walk true m.place (candidate D).toString with
  | ok f =>
    dsimp only
    have hshort : ¬TooLong m D := fun h => by
      rw [h.2] at hwalk
      cases hwalk
    have hother (hne : ¬m.files.IsRegular f) : PassedOver m D := by
      refine ⟨?_, hshort⟩
      rintro ⟨-, f', hwalk', hregular⟩
      cases hwalk.symm.trans hwalk'
      exact hne hregular
    cases hheld : m.files.held? f with
    | none => exact .inr (.inr ⟨rfl, hother (by rw [FileSystem.IsRegular, hheld]; simp)⟩)
    | some e =>
      cases e with
      | file node => exact .inl ⟨rfl, hnull, f, hwalk, .inl ⟨node, hheld⟩⟩
      | program name => exact .inl ⟨rfl, hnull, f, hwalk, .inr ⟨name, hheld⟩⟩
      | directory | link | device | pipe => exact .inr (.inr ⟨rfl, hother (by rw [FileSystem.IsRegular, hheld]; simp)⟩)
  | error r =>
    have hnone : ¬HasRunfile m D := by
      rintro ⟨-, f, hwalk', -⟩
      rw [hwalk] at hwalk'
      cases hwalk'
    by_cases hr : r = .nameTooLong
    · subst hr
      exact .inr (.inl ⟨rfl, hnull, hwalk⟩)
    · refine .inr (.inr ⟨?_, hnone, fun h => hr (Except.error.inj (hwalk.symm.trans h.2))⟩)
      cases r with
      | nameTooLong => exact absurd rfl hr
      | _ => rfl

theorem isFile_eq_ok_false_iff : m.isFile (candidate D).toString = .ok false ↔ PassedOver m D := by
  rcases isFile_candidate m D with ⟨h, hhas⟩ | ⟨h, hlong⟩ | ⟨h, hpassed⟩
  · exact iff_of_false (by rw [h]; exact nofun) fun hpassed => hpassed.1 hhas
  · exact iff_of_false (by rw [h]; exact nofun) fun hpassed => hpassed.2 hlong
  · exact iff_of_true h hpassed

/-- What comes of a look at one place after the other. -/
def scan (m : Machine) : List Location → Except Failure (Option Path)
  | [] => .ok none
  | D :: rest => do
    if ← m.isFile (candidate D).toString then return some (candidate D) else scan m rest

/-- Places that are passed over make no difference. -/
theorem scan_append {nearer : List Location} (h : ∀ D ∈ nearer, PassedOver m D) (rest : List Location) :
    scan m (nearer ++ rest) = scan m rest := by
  induction nearer with
  | nil => rfl
  | cons D nearer ih =>
    rw [List.cons_append, scan, isFile_eq_ok_false_iff.2 (h D List.mem_cons_self)]
    exact ih fun D' hD' => h D' (List.mem_cons_of_mem _ hD')

variable {w : World}

/-- Where a search starts: at what the given path stands for, or in the working directory. -/
def origin (m : Machine) : Option Path → Except Failure Location
  | some p => m.resolve p
  | none => do m.resolve (Location.path (← m.workingDirectory))

namespace Looking

/-- A Runfile in the root, and around another one that leads back to itself. -/
def files : FileSystem :=
  ((FileSystem.empty.putFile ["Runfile"] ByteArray.empty).makeDirectory ["d"]).makeLink ["Runfile", "d"] "Runfile"

def world : World := World.initial ⟨files, ⟨[], 0⟩, ⟨[], []⟩, Assoc.empty⟩ ["runner"]

/-- A path on which nothing is there. -/
def missing : Path := ⟨1, ["d", "missing"]⟩

end Looking

end Runfile
end TaskRunner
