import Mathlib.Data.List.Infix
import TaskRunner.Machine

/-!
# Locations written as paths

A location whose names are names that a directory can hold (`IsName`) is found again from its path: the path is read as the
names of the location (`stops_toString`). A location is plain in a tree if every location on the way down to it holds a
directory (`Plain`); if its path can be walked along besides (`Stands`), the walk ends there (`walk_toString_of_stands`), and a process that
changes to the path stands there (`changeDirectory_of_stands`).
-/

namespace TaskRunner

/-! ## Names between slashes -/

/-- Splitting is the splitting of the library. -/
theorem splitOn_eq (c : Char) (cs : List Char) : splitOn c cs = cs.splitOn c := by
  induction cs with
  | nil => simp [splitOn]
  | cons d cs ih =>
    rw [List.splitOn_cons_eq_if_modifyHead, splitOn, ih]
    by_cases h : d = c
    · simp [h]
    · simp only [h, if_false, beq_iff_eq]
      cases hs : cs.splitOn c with
      | nil => exact absurd hs (List.splitOn_ne_nil c cs)
      | cons piece pieces => rfl

/-- No piece holds the separator. -/
theorem not_mem_of_mem_splitOn {c : Char} {cs piece : List Char} (h : piece ∈ splitOn c cs) : c ∉ piece := by
  induction cs generalizing piece with
  | nil =>
    rw [splitOn, List.mem_singleton] at h
    simp [h]
  | cons d cs ih =>
    rw [splitOn] at h
    by_cases hd : d = c
    · rw [if_pos hd, List.mem_cons] at h
      rcases h with rfl | h
      · exact List.not_mem_nil
      · exact ih h
    · rw [if_neg hd] at h
      cases hs : splitOn c cs with
      | nil =>
        rw [hs, List.mem_singleton] at h
        subst h
        simpa using fun e => hd e.symm
      | cons first pieces =>
        rw [hs] at h ih
        rcases List.mem_cons.mp h with rfl | h
        · intro hc
          rcases List.mem_cons.mp hc with rfl | hc
          · exact hd rfl
          · exact ih (List.mem_cons_self) hc
        · exact ih (List.mem_cons_of_mem _ h)

/-- A name that a directory can hold: neither empty nor dots that stand for a directory, and without a slash. -/
structure IsName (name : String) : Prop where
  ne_empty : name ≠ ""
  ne_dot : name ≠ "."
  ne_dots : name ≠ ".."
  slash : '/' ∉ name.toList

/-- Every name of a location is one that a directory can hold. -/
def Location.Named (l : Location) : Prop := ∀ name ∈ l, IsName name

theorem Location.named_root : Location.Named [] := fun _ h => absurd h List.not_mem_nil

namespace Path

/-- The pieces of names with slashes before each are an empty one and the names. -/
theorem pieces_of_names {names : List String} (hne : names ≠ []) (h : ∀ name ∈ names, '/' ∉ name.toList) :
    pieces ("/" ++ "/".intercalate names) = "" :: names := by
  have hi : ("/" ++ "/".intercalate names).toList = ['/'].intercalate ([] :: names.map String.toList) := by
    cases names with
    | nil => exact absurd rfl hne
    | cons name names => simp [String.toList_append]
  have hs : ∀ cs ∈ [] :: names.map String.toList, '/' ∉ cs := by
    intro cs hcs
    rcases List.mem_cons.mp hcs with rfl | hcs
    · exact List.not_mem_nil
    · obtain ⟨name, hname, rfl⟩ := List.mem_map.mp hcs
      exact h name hname
  rw [pieces, splitOn_eq, hi, List.splitOn_intercalate '/' hs (List.cons_ne_nil _ _)]
  simp

/-- No piece of a text holds a slash. -/
theorem slash_not_mem_of_mem_pieces {s name : String} (h : name ∈ pieces s) : '/' ∉ name.toList := by
  obtain ⟨cs, hcs, rfl⟩ := List.mem_map.mp h
  rw [String.toList_ofList]
  exact not_mem_of_mem_splitOn hcs

end Path

namespace Location

/-- The path of a location as text: a slash before each name, or the one slash of the root. -/
theorem toString_eq (l : Location) : l.toString = "/" ++ "/".intercalate l.reverse := by
  simp [toString, path, Path.toString]

theorem startsWith_toString (l : Location) : (toString l).startsWith "/" = true := by
  rw [toString_eq]
  simp [String.toList_append]

theorem toString_ne_empty (l : Location) : toString l ≠ "" := by
  rw [toString_eq]
  intro h
  have := congrArg String.toList h
  simp [String.toList_append] at this

end Location

namespace FileSystem

/-- The stops on the way along the path of a location are its names. -/
theorem stops_toString {l : Location} (h : l.Named) : stops l.toString = l.reverse := by
  rw [Location.toString_eq]
  cases hl : l.reverse with
  | nil => rfl
  | cons name names =>
    have hmem : ∀ s ∈ name :: names, IsName s := fun s hs => h s (List.mem_reverse.mp (hl ▸ hs))
    have hp := Path.pieces_of_names (List.cons_ne_nil name names) fun s hs => (hmem s hs).slash
    have hf : ("" :: name :: names).filter (· ≠ "") = name :: names := by
      rw [List.filter_cons_of_neg (by simp), List.filter_eq_self]
      intro s hs
      simpa using (hmem s hs).ne_empty
    have hlast : ("" :: name :: names).getLast? ≠ some "" := by
      intro hc
      rw [List.getLast?_cons_cons] at hc
      exact (hmem "" (List.mem_of_getLast? hc)).ne_empty rfl
    simp only [stops, hp, hf]
    rw [if_neg fun hc => hlast hc.1]

/-! ## Plain locations -/

/-- Every location on the way down to a location, and the location itself, holds a directory: the location is a directory and no
link leads to it. -/
def Plain (fs : FileSystem) (l : Location) : Prop := ∀ around, around <:+ l → fs.isDirectory around

/-- The directory around a plain location is plain. -/
theorem Plain.tail {fs : FileSystem} {name : String} {l : Location} (h : fs.Plain (name :: l)) : fs.Plain l :=
  fun around ha => h around (ha.trans (List.suffix_cons name l))

/-- What holds a directory has its node. -/
theorem held?_of_isDirectory {fs : FileSystem} {l : Location} (h : fs.isDirectory l = true) :
    ∃ node, fs.held? l = some (.directory node) ∧ fs.directory? l = some node := by
  unfold isDirectory at h
  obtain ⟨node, hn⟩ := Option.isSome_iff_exists.mp h
  refine ⟨node, ?_, hn⟩
  unfold directory? at hn
  split at hn
  · rename_i n hh
    rw [hh, Option.some.inj hn]
  · cases hn

/-- A step of a walk through a directory goes into it. -/
theorem leg_directory {fs : FileSystem} {follow : Bool} {start : Location} {name : String} {rest : List String} (hn : IsName name)
    (hs : name.utf8ByteSize ≤ maxNameSize) (hd : fs.isDirectory (name :: start) = true) :
    fs.leg follow start (name :: rest) = fs.leg follow (name :: start) rest := by
  obtain ⟨node, hh, -⟩ := held?_of_isDirectory hd
  rw [leg, if_neg hn.ne_dot, if_neg hn.ne_dots, if_neg (Nat.not_lt.mpr hs), hh]

/-- A walk from the root along the names of a plain location goes down to it. -/
theorem leg_of_plain {fs : FileSystem} {l : Location} (follow : Bool) (rest : List String) (h : fs.Plain l) (hn : l.Named)
    (hs : ∀ name ∈ l, name.utf8ByteSize ≤ maxNameSize) : fs.leg follow [] (l.reverse ++ rest) = fs.leg follow l rest := by
  induction l generalizing rest with
  | nil => rfl
  | cons name l ih =>
    rw [List.reverse_cons, List.append_assoc, ih _ h.tail (fun s hm => hn s (List.mem_cons_of_mem _ hm))
      (fun s hm => hs s (List.mem_cons_of_mem _ hm))]
    exact leg_directory (hn name List.mem_cons_self) (hs name List.mem_cons_self) (h _ List.suffix_rfl)

/-- A location stands under its path: it is a directory that no link leads to, its names are names, and its path is short enough
to be walked along. -/
structure Stands (fs : FileSystem) (l : Location) : Prop where
  plain : fs.Plain l
  named : l.Named
  names : ∀ name ∈ l, name.utf8ByteSize ≤ maxNameSize
  short : l.toString.utf8ByteSize < 4096
  noNull : '\x00' ∉ l.toString.toList

/-- An absolute path that is short enough is walked along from the root. -/
theorem walk_toString (fs : FileSystem) (follow : Bool) (p : Place) {l : Location} (hs : l.toString.utf8ByteSize < 4096)
    (hn : l.Named) : fs.walk follow p l.toString = fs.walkFrom follow maxLinks [] l.reverse := by
  rw [walk, if_neg l.toString_ne_empty, if_neg (Nat.not_le.mpr hs), if_pos l.startsWith_toString, stops_toString hn]

/-- The walk along the path of a location that stands under it ends there. -/
theorem walk_toString_of_stands {fs : FileSystem} {l : Location} (h : fs.Stands l) (follow : Bool) (p : Place) :
    fs.walk follow p l.toString = .ok l := by
  have hleg := leg_of_plain follow [] h.plain h.named h.names
  rw [List.append_nil] at hleg
  rw [walk_toString fs follow p h.short h.named, walkFrom, hleg, leg]

/-- The path of a location leads elsewhere than to the place itself. -/
theorem isHere_toString (l : Location) : isHere l.toString = false := by
  simp only [isHere, l.startsWith_toString, Bool.not_true, Bool.and_false, Bool.false_and]

/-- Entering the path of a location that stands under it leads to the directory there. -/
theorem enter_toString_of_stands {fs : FileSystem} {l : Location} (h : fs.Stands l) (p : Place) :
    ∃ node, fs.directory? l = some node ∧ fs.enter p l.toString = .ok ⟨l, node⟩ := by
  obtain ⟨node, -, hd⟩ := held?_of_isDirectory (h.plain l List.suffix_rfl)
  refine ⟨node, hd, ?_⟩
  rw [enter, isHere_toString, walk_toString_of_stands h]
  show fs.placeAt l = _
  rw [placeAt, hd]

/-- A process that enters the directory at a location stands in it. -/
theorem holds_of_directory? {fs : FileSystem} {l : Location} {node : Nat} (h : fs.directory? l = some node) :
    fs.holds ⟨l, node⟩ = true := by
  simp [holds, h]

/-- The place that is entered by the path of a location holds the directory that the path leads to. -/
theorem holds_of_enter_toString {fs : FileSystem} {p q : Place} {l : Location} (h : fs.enter p l.toString = .ok q) :
    fs.holds q = true ∧ fs.walk true p l.toString = .ok q.location := by
  rw [enter, isHere_toString] at h
  cases hw : fs.walk true p l.toString with
  | error r =>
    rw [hw] at h
    cases h
  | ok l' =>
    rw [hw] at h
    change fs.placeAt l' = .ok q at h
    unfold placeAt at h
    split at h
    · rename_i node hd
      cases h
      exact ⟨holds_of_directory? hd, rfl⟩
    · cases h

end FileSystem

namespace Machine

/-- A refusal of a path without a null character is a failure that names the path. -/
theorem refuse_error {α : Type} {path : String} {r : Refusal} (h : '\x00' ∉ path.toList) :
    refuse path (.error r : Except Refusal α) = .error (.refused r (some path)) := by
  simp [refuse, h, Except.mapError]

/-- Changing to a path that a place can be entered by succeeds. -/
theorem changeDirectory_ok {m : Machine} {path : String} {place : FileSystem.Place} (hn : '\x00' ∉ path.toList)
    (he : m.files.enter m.place path = .ok place) : m.changeDirectory path = .ok { m with place } := by
  simp [changeDirectory, refuse, hn, he, Except.mapError, bind, Except.bind, pure, Except.pure]

/-- Changing to the path of a location that stands under it succeeds, and the process stands in that location. -/
theorem changeDirectory_of_stands {m : Machine} {l : Location} (h : m.files.Stands l) :
    ∃ m', m.changeDirectory l.toString = .ok m' ∧ m' = { m with place := m'.place } ∧ m'.workingDirectory? = some l := by
  obtain ⟨node, hd, he⟩ := FileSystem.enter_toString_of_stands h m.place
  refine ⟨{ m with place := ⟨l, node⟩ }, changeDirectory_ok h.noNull he, rfl, ?_⟩
  simp [workingDirectory?, FileSystem.holds_of_directory? hd]

/-- Changing the directory changes nothing but the place. -/
theorem changeDirectory_eq_ok {m m' : Machine} {path : String} (h : m.changeDirectory path = .ok m') :
    ∃ place, m.files.enter m.place path = .ok place ∧ m' = { m with place } := by
  unfold changeDirectory refuse at h
  split at h
  · cases h
  · cases he : m.files.enter m.place path with
    | error r =>
      rw [he] at h
      cases h
    | ok place =>
      rw [he] at h
      cases h
      exact ⟨place, rfl, rfl⟩

/-- Changing the directory is refused by the system, with the path, or the path is no path at all. -/
theorem changeDirectory_eq_error {m : Machine} {path : String} {f : Failure} (h : m.changeDirectory path = .error f) :
    (∃ r, m.files.enter m.place path = .error r ∧ f = .refused r (some path)) ∨ '\x00' ∈ path.toList := by
  by_cases hn : '\x00' ∈ path.toList
  · exact Or.inr hn
  · left
    unfold changeDirectory at h
    cases he : m.files.enter m.place path with
    | error r =>
      rw [he, refuse_error hn] at h
      cases h
      exact ⟨r, rfl, rfl⟩
    | ok place =>
      rw [← changeDirectory, changeDirectory_ok hn he] at h
      cases h

end Machine
end TaskRunner
