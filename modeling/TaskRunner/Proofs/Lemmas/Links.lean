import Mathlib.Data.List.Perm.Subperm
import TaskRunner.FileSystem.Resolve
import TaskRunner.Proofs.Lemmas.Place
import TaskRunner.Proofs.Lemmas.Table

/-!
# Links

A walk follows links up to a budget, and a resolution follows them inside one another, each only once. `Goes` says where names lead
when every link is followed, and how many are: it has one outcome (`Goes.deterministic`). A walk that arrives goes there
(`goes_of_walkFrom`), and so does a resolution (`resolveNamesFrom_of_goes`): a link that led back to itself would be followed more
often than itself. What is gone to has no link on the way (`Goes.clear`).
-/

namespace TaskRunner
namespace FileSystem

variable {fs : FileSystem}

/-- A name that is looked up where it stands. -/
def Looked (name : String) : Prop := name ≠ "" ∧ name ≠ "." ∧ name ≠ ".."

/-- Names lead from a location to another one, with so many links followed. -/
inductive Goes (fs : FileSystem) : Location → List String → Location → Nat → Prop where
  | done (l : Location) : Goes fs l [] l 0
  | skip {start l : Location} {name : String} {rest : List String} {n : Nat} (hname : name = "" ∨ name = ".")
      (hrest : Goes fs start rest l n) : Goes fs start (name :: rest) l n
  | up {start l : Location} {rest : List String} {n : Nat} (hrest : Goes fs start.tail rest l n) :
      Goes fs start (".." :: rest) l n
  | down {start l : Location} {name : String} {rest : List String} {n : Nat} (hname : Looked name)
      (hheld : ∀ target node, fs.held? (name :: start) ≠ some (.link target node))
      (hrest : Goes fs (name :: start) rest l n) : Goes fs start (name :: rest) l n
  | turn {start mid l : Location} {name target : String} {node : Nat} {rest : List String} {m n : Nat} (hname : Looked name)
      (hheld : fs.held? (name :: start) = some (.link target node))
      (htarget : Goes fs (linkStart (name :: start) target) (Path.pieces target) mid m)
      (hrest : Goes fs mid rest l n) : Goes fs start (name :: rest) l (m + n + 1)

namespace Goes

theorem deterministic {start l l' : Location} {names : List String} {n n' : Nat} (h : Goes fs start names l n)
    (h' : Goes fs start names l' n') : l = l' ∧ n = n' := by
  induction h generalizing l' n' with
  | done => cases h'; exact ⟨rfl, rfl⟩
  | skip hname _ ih =>
    cases h' with
    | skip _ hrest => exact ih hrest
    | up => simp at hname
    | down hlooked => exact absurd hname (by simp [hlooked.1, hlooked.2.1])
    | turn hlooked => exact absurd hname (by simp [hlooked.1, hlooked.2.1])
  | up _ ih =>
    cases h' with
    | skip hname => simp at hname
    | up hrest => exact ih hrest
    | down hlooked => exact absurd rfl hlooked.2.2
    | turn hlooked => exact absurd rfl hlooked.2.2
  | down hlooked hheld _ ih =>
    cases h' with
    | skip hname => exact absurd hname (by simp [hlooked.1, hlooked.2.1])
    | up => exact absurd rfl hlooked.2.2
    | down _ _ hrest => exact ih hrest
    | turn _ hlink => exact absurd hlink (hheld _ _)
  | turn hlooked hheld _ _ iht ihr =>
    cases h' with
    | skip hname => exact absurd hname (by simp [hlooked.1, hlooked.2.1])
    | up => exact absurd rfl hlooked.2.2
    | down _ hno => exact absurd hheld (hno _ _)
    | turn _ hlink htarget hrest =>
      rw [hheld] at hlink
      cases hlink
      obtain ⟨rfl, rfl⟩ := iht htarget
      obtain ⟨rfl, rfl⟩ := ihr hrest
      exact ⟨rfl, rfl⟩

/-- Names in a row are gone along one part after the other. -/
theorem of_append {start l : Location} {first rest : List String} {n : Nat} (h : Goes fs start (first ++ rest) l n) :
    ∃ mid m k, Goes fs start first mid m ∧ Goes fs mid rest l k ∧ n = m + k := by
  induction first generalizing start n with
  | nil => exact ⟨start, 0, n, .done start, h, (Nat.zero_add n).symm⟩
  | cons name first ih =>
    cases h with
    | skip hname hrest =>
      obtain ⟨mid, m, k, hfirst, hlast, rfl⟩ := ih hrest
      exact ⟨mid, m, k, .skip hname hfirst, hlast, rfl⟩
    | up hrest =>
      obtain ⟨mid, m, k, hfirst, hlast, rfl⟩ := ih hrest
      exact ⟨mid, m, k, .up hfirst, hlast, rfl⟩
    | down hname hheld hrest =>
      obtain ⟨mid, m, k, hfirst, hlast, rfl⟩ := ih hrest
      exact ⟨mid, m, k, .down hname hheld hfirst, hlast, rfl⟩
    | turn hname hheld htarget hrest =>
      obtain ⟨mid, m, k, hfirst, hlast, rfl⟩ := ih hrest
      exact ⟨mid, _, k, .turn hname hheld htarget hfirst, hlast, by omega⟩

/-- Empty names make no difference. -/
theorem of_filter {start l : Location} {names : List String} {n : Nat} (h : Goes fs start (names.filter (· ≠ "")) l n) :
    Goes fs start names l n := by
  induction names generalizing start n with
  | nil => exact h
  | cons name rest ih =>
    by_cases he : name = ""
    · rw [List.filter_cons_of_neg (by simpa using he)] at h
      exact .skip (.inl he) (ih h)
    · rw [List.filter_cons_of_pos (by simpa using he)] at h
      cases h with
      | skip hname hrest => exact .skip hname (ih hrest)
      | up hrest => exact .up (ih hrest)
      | down hname hheld hrest => exact .down hname hheld (ih hrest)
      | turn hname hheld htarget hrest => exact .turn hname hheld htarget (ih hrest)

/-- The stops on the way along a path and the pieces of the path lead to the same location. -/
theorem of_stops {start l : Location} {path : String} {n : Nat} (h : Goes fs start (stops path) l n) :
    Goes fs start (Path.pieces path) l n := by
  rw [stops] at h
  split at h
  · obtain ⟨mid, m, k, hfirst, hlast, rfl⟩ := h.of_append
    obtain ⟨rfl, rfl⟩ := hlast.deterministic (.skip (.inr rfl) (.done mid))
    exact hfirst.of_filter
  · exact h.of_filter

end Goes

/-! ## Walks -/

/-- A walk along real directories that arrives goes there. -/
theorem goes_of_arrived {start l : Location} {names : List String} (hne : ∀ name ∈ names, name ≠ "")
    (h : fs.leg true start names = .arrived l) : Goes fs start names l 0 := by
  induction names generalizing start with
  | nil =>
    cases h
    exact .done _
  | cons name rest ih =>
    have hrest := fun name' hn => hne name' (List.mem_cons_of_mem _ hn)
    rw [leg] at h
    by_cases hdot : name = "."
    · rw [if_pos hdot] at h
      exact .skip (.inr hdot) (ih hrest h)
    rw [if_neg hdot] at h
    by_cases hdots : name = ".."
    · subst hdots
      exact .up (ih hrest h)
    rw [if_neg hdots] at h
    have hname : Looked name := ⟨hne name List.mem_cons_self, hdot, hdots⟩
    split at h
    · cases h
    · split at h
      · cases h
      · rename_i hheld
        exact .down hname (by simp [hheld]) (ih hrest h)
      · simp at h
      · rename_i e hlink hdir hheld
        split at h
        · rename_i hnil
          subst hnil
          cases h
          refine .down hname (fun target node hl => ?_) (.done _)
          rw [hheld] at hl
          exact hdir target node (Option.some.inj hl)
        · cases h

/-- A walk along real directories that comes to a link goes where the target of the link and the names that are left lead. -/
theorem goes_of_turn {start around : Location} {names rest : List String} {target : String}
    (hne : ∀ name ∈ names, name ≠ "") (h : fs.leg true start names = .turn around target rest) :
    (∀ name ∈ rest, name ≠ "") ∧ ∀ mid m l n,
      Goes fs (if target.startsWith "/" then [] else around) (Path.pieces target) mid m → Goes fs mid rest l n →
        Goes fs start names l (m + n + 1) := by
  induction names generalizing start with
  | nil => cases h
  | cons name tail ih =>
    have htail := fun name' hn => hne name' (List.mem_cons_of_mem _ hn)
    rw [leg] at h
    by_cases hdot : name = "."
    · rw [if_pos hdot] at h
      obtain ⟨hr, hgoes⟩ := ih htail h
      exact ⟨hr, fun mid m l n ht hl => .skip (.inr hdot) (hgoes mid m l n ht hl)⟩
    rw [if_neg hdot] at h
    by_cases hdots : name = ".."
    · subst hdots
      obtain ⟨hr, hgoes⟩ := ih htail h
      exact ⟨hr, fun mid m l n ht hl => .up (hgoes mid m l n ht hl)⟩
    rw [if_neg hdots] at h
    have hname : Looked name := ⟨hne name List.mem_cons_self, hdot, hdots⟩
    split at h
    · cases h
    · split at h
      · cases h
      · rename_i hheld
        obtain ⟨hr, hgoes⟩ := ih htail h
        exact ⟨hr, fun mid m l n ht hl => .down hname (by simp [hheld]) (hgoes mid m l n ht hl)⟩
      · rename_i target' node hheld
        rw [if_neg (by simp)] at h
        cases h
        exact ⟨htail, fun mid m l n ht hl => .turn hname hheld ht hl⟩
      · split at h
        · cases h
        · cases h

theorem ne_empty_of_mem_stops {path name : String} (h : name ∈ stops path) : name ≠ "" := by
  rw [stops] at h
  split at h
  · rcases List.mem_append.1 h with h | h
    · simpa using (List.mem_filter.1 h).2
    · rw [List.mem_singleton.1 h]
      decide
  · simpa using (List.mem_filter.1 h).2

/-- A walk that arrives goes there, however many links it may follow. -/
theorem goes_of_walkFrom {budget : Nat} {start l : Location} {names : List String} (hne : ∀ name ∈ names, name ≠ "")
    (h : fs.walkFrom true budget start names = .ok l) : ∃ n, Goes fs start names l n := by
  induction budget generalizing start names with
  | zero =>
    rw [walkFrom] at h
    split at h
    · rename_i hleg
      cases h
      exact ⟨0, goes_of_arrived hne hleg⟩
    · cases h
    · cases h
  | succ budget ih =>
    rw [walkFrom] at h
    split at h
    · rename_i hleg
      cases h
      exact ⟨0, goes_of_arrived hne hleg⟩
    · cases h
    · rename_i around target rest hleg
      obtain ⟨hr, hgoes⟩ := goes_of_turn hne hleg
      dsimp only at h
      split at h
      · cases h
      · obtain ⟨k, hk⟩ := ih (fun name hn => (List.mem_append.1 hn).elim ne_empty_of_mem_stops (hr name)) h
        obtain ⟨mid, m, n, hfirst, hlast, -⟩ := hk.of_append
        exact ⟨_, hgoes mid m l n hfirst.of_stops hlast⟩

/-! ## Resolution -/

/-- What links stand for where so many more can be inside one another. -/
def linksAt (fs : FileSystem) (active : List Location) : Nat → Location → String → Resolution
  | 0 => fun l _ => .looped l []
  | depth + 1 => standsFor active (fs.resolveFrom depth)

theorem resolveFrom_eq (depth : Nat) (active : List Location) (start : Location) (names : List String) :
    fs.resolveFrom depth active start names = fs.resolveNames (linksAt fs active depth) start names := by
  cases depth <;> rfl

/-- No link that is being resolved costs less than what is still to be gone along. -/
def Heavier (fs : FileSystem) (active : List Location) (n : Nat) : Prop :=
  ∀ a ∈ active, ∀ target node, fs.held? a = some (.link target node) →
    ∀ mid k, Goes fs (linkStart a target) (Path.pieces target) mid k → n ≤ k

theorem mem_links {l : Location} {name target : String} {node : Nat} (h : fs.held? (name :: l) = some (.link target node)) :
    name :: l ∈ fs.links := by
  have hmem : (name :: l, Entry.link target node) ∈ fs.entries.toList := Assoc.mem_toList_of_find? h
  exact List.mem_filterMap.2 ⟨_, hmem, rfl⟩

/-- A resolution reaches what its names lead to. A link that it has begun with costs more than all that is inside of it, so that it
does not come up again; and so the links that are left are enough. -/
theorem resolveFrom_of_goes {start l : Location} {names : List String} {n : Nat} (h : Goes fs start names l n) :
    ∀ (depth : Nat) (active : List Location), active.Nodup → active ⊆ fs.links → fs.links.length ≤ depth + active.length →
      Heavier fs active n → fs.resolveFrom depth active start names = .reached l := by
  induction h with
  | done l =>
    intro depth active _ _ _ _
    rw [resolveFrom_eq, resolveNames]
  | skip hname _ ih =>
    intro depth active hnodup hsub hdepth hheavy
    rw [resolveFrom_eq, resolveNames, if_pos hname, ← resolveFrom_eq]
    exact ih depth active hnodup hsub hdepth hheavy
  | up _ ih =>
    intro depth active hnodup hsub hdepth hheavy
    rw [resolveFrom_eq, resolveNames, if_neg (by simp), if_pos rfl, ← resolveFrom_eq]
    exact ih depth active hnodup hsub hdepth hheavy
  | down hname hheld _ ih =>
    intro depth active hnodup hsub hdepth hheavy
    rw [resolveFrom_eq, resolveNames, if_neg (by simp [hname.1, hname.2.1]), if_neg hname.2.2]
    split
    · rename_i target node hlink
      exact absurd hlink (hheld target node)
    · rw [← resolveFrom_eq]
      exact ih depth active hnodup hsub hdepth hheavy
  | @turn start mid l name target node rest m n hname hheld htarget _ iht ihr =>
    intro depth active hnodup hsub hdepth hheavy
    have hnew : name :: start ∉ active := by
      intro ha
      have := hheavy _ ha target node hheld mid m htarget
      omega
    rw [resolveFrom_eq, resolveNames, if_neg (by simp [hname.1, hname.2.1]), if_neg hname.2.2, hheld]
    cases depth with
    | zero =>
      -- every link is being resolved already, this one among them
      have hall := (List.subperm_of_subset hnodup hsub).perm_of_length_le (by omega)
      exact absurd (hall.mem_iff.2 (mem_links hheld)) hnew
    | succ depth =>
      have hinside : fs.resolveFrom depth ((name :: start) :: active) (linkStart (name :: start) target)
          (Path.pieces target) = .reached mid := by
        refine iht depth _ (List.nodup_cons.2 ⟨hnew, hnodup⟩) ?_ (by simp only [List.length_cons]; omega) ?_
        · exact List.cons_subset.2 ⟨mem_links hheld, hsub⟩
        · intro a ha target' node' hlink mid' k hgoes
          rcases List.mem_cons.1 ha with rfl | ha
          · rw [hheld] at hlink
            cases hlink
            exact Nat.le_of_eq (htarget.deterministic hgoes).2
          · have := hheavy a ha target' node' hlink mid' k hgoes
            omega
      have hlink : linksAt fs active (depth + 1) (name :: start) target = .reached mid := by
        rw [linksAt, standsFor, if_neg hnew, hinside]
      simp only [hlink]
      rw [← resolveFrom_eq]
      refine ihr (depth + 1) active hnodup hsub hdepth fun a ha target' node' hlink mid' k hgoes => ?_
      have := hheavy a ha target' node' hlink mid' k hgoes
      omega

theorem resolveNamesFrom_of_goes {start l : Location} {names : List String} {n : Nat} (h : Goes fs start names l n) :
    fs.resolveNamesFrom start names = l := by
  rw [resolveNamesFrom, resolveFrom_of_goes h _ [] List.nodup_nil (List.nil_subset _) (by simp) nofun]

/-! ## Where no link is on the way -/

/-- Neither a location nor any around it holds a link. -/
def Clear (fs : FileSystem) (l : Location) : Prop :=
  ∀ around, around <:+ l → ∀ target node, fs.held? around ≠ some (.link target node)

theorem clear_root : Clear fs [] := by
  intro around ha target node
  rw [List.suffix_nil.1 ha]
  exact nofun

theorem Clear.tail {l : Location} (h : Clear fs l) : Clear fs l.tail :=
  fun around ha => h around (ha.trans (List.tail_suffix l))

theorem Clear.cons {l : Location} {name : String} (h : Clear fs l)
    (hheld : ∀ target node, fs.held? (name :: l) ≠ some (.link target node)) : Clear fs (name :: l) := by
  intro around ha
  rcases List.suffix_cons_iff.1 ha with rfl | ha
  · exact hheld
  · exact h around ha

theorem Clear.linkStart {l : Location} (h : Clear fs l.tail) (target : String) : Clear fs (linkStart l target) := by
  unfold FileSystem.linkStart
  split
  · exact clear_root
  · exact h

/-- What is gone to from where no link is on the way has no link on the way. -/
theorem Goes.clear {start l : Location} {names : List String} {n : Nat} (h : Goes fs start names l n)
    (hstart : Clear fs start) : Clear fs l := by
  induction h with
  | done => exact hstart
  | skip _ _ ih => exact ih hstart
  | up _ ih => exact ih hstart.tail
  | down _ hheld _ ih => exact ih (hstart.cons hheld)
  | turn _ _ _ _ iht ihr => exact ihr (iht (hstart.linkStart _))

theorem isName_of_looked {name : String} (h : Looked name) (hslash : '/' ∉ name.toList) : IsName name :=
  ⟨h.1, h.2.1, h.2.2, hslash⟩

theorem named_linkStart {l : Location} (h : Location.Named l.tail) (target : String) : (linkStart l target).Named := by
  unfold linkStart
  split
  · exact Location.named_root
  · exact h

/-- What names without slashes lead to has names that a directory can hold. -/
theorem Goes.named {start l : Location} {names : List String} {n : Nat} (h : Goes fs start names l n)
    (hstart : start.Named) (hslash : ∀ name ∈ names, '/' ∉ name.toList) : l.Named := by
  induction h with
  | done => exact hstart
  | skip _ _ ih => exact ih hstart fun name hn => hslash name (List.mem_cons_of_mem _ hn)
  | up _ ih =>
    exact ih (fun name hn => hstart name (List.mem_of_mem_tail hn)) fun name hn => hslash name (List.mem_cons_of_mem _ hn)
  | @down start _ name _ _ hname _ _ ih =>
    refine ih (fun other ho => ?_) fun name hn => hslash name (List.mem_cons_of_mem _ hn)
    rcases List.mem_cons.1 ho with rfl | ho
    · exact isName_of_looked hname (hslash _ List.mem_cons_self)
    · exact hstart other ho
  | @turn start _ _ name target _ _ _ _ _ _ _ _ iht ihr =>
    exact ihr (iht (named_linkStart (l := name :: start) hstart target) fun name hn => Path.slash_not_mem_of_mem_pieces hn)
      fun name hn => hslash name (List.mem_cons_of_mem _ hn)

/-- A resolution that ends at a location whose names are names, with names without slashes left. -/
def Resolution.Named : Resolution → Prop
  | .reached l => l.Named
  | .looped l rest => l.Named ∧ ∀ name ∈ rest, '/' ∉ name.toList

theorem named_resolveNames {standsFor : Location → String → Resolution} {start : Location} {names : List String}
    (hstart : start.Named) (hslash : ∀ name ∈ names, '/' ∉ name.toList)
    (hlink : ∀ l target, Location.Named l → (standsFor l target).Named) :
    (fs.resolveNames standsFor start names).Named := by
  induction names generalizing start with
  | nil => exact hstart
  | cons name rest ih =>
    have hrest := fun other ho => hslash other (List.mem_cons_of_mem _ ho)
    rw [resolveNames]
    split
    · exact ih hstart hrest
    · rename_i hskip
      split
      · exact ih (fun other ho => hstart other (List.mem_of_mem_tail ho)) hrest
      · rename_i hdots
        have hnew : Location.Named (name :: start) := by
          intro other ho
          rcases List.mem_cons.1 ho with rfl | ho
          · exact ⟨fun h => hskip (.inl h), fun h => hskip (.inr h), hdots, hslash _ List.mem_cons_self⟩
          · exact hstart other ho
        split
        · rename_i target node _
          have hfound := hlink (name :: start) target hnew
          split
          · rename_i l hreached
            rw [hreached] at hfound
            exact ih hfound hrest
          · rename_i l left hlooped
            rw [hlooped] at hfound
            unfold Resolution.followedBy
            split
            · exact ⟨Location.named_root, hrest⟩
            · exact ⟨hfound.1, fun other ho => (List.mem_append.1 ho).elim (hfound.2 other) (hrest other)⟩
        · exact ih hnew hrest

theorem named_resolveFrom (depth : Nat) : ∀ (active : List Location) {start : Location} {names : List String},
    start.Named → (∀ name ∈ names, '/' ∉ name.toList) → (fs.resolveFrom depth active start names).Named := by
  induction depth with
  | zero =>
    intro active start names hstart hslash
    rw [resolveFrom_eq]
    exact named_resolveNames hstart hslash fun l target hl => ⟨hl, nofun⟩
  | succ depth ih =>
    intro active start names hstart hslash
    rw [resolveFrom_eq]
    refine named_resolveNames hstart hslash fun l target hl => ?_
    rw [linksAt, standsFor]
    split
    · exact ⟨hl, nofun⟩
    · have htail : Location.Named l.tail := fun name hn => hl name (List.mem_of_mem_tail hn)
      exact ih _ (named_linkStart htail target) fun name hn => Path.slash_not_mem_of_mem_pieces hn

theorem named_descend {l : Location} {names : List String} (hl : l.Named)
    (hnames : ∀ name ∈ names, name ≠ "" ∧ '/' ∉ name.toList) : (l.descend names).Named := by
  induction names generalizing l with
  | nil => exact hl
  | cons name rest ih =>
    have hrest := fun other ho => hnames other (List.mem_cons_of_mem _ ho)
    rw [Location.descend]
    split
    · exact ih hl hrest
    · split
      · exact ih (fun other ho => hl other (List.mem_of_mem_tail ho)) hrest
      · rename_i hdot hdots
        refine ih (fun other ho => ?_) hrest
        rcases List.mem_cons.1 ho with rfl | ho
        · obtain ⟨hne, hslash⟩ := hnames other List.mem_cons_self
          exact ⟨hne, hdot, hdots, hslash⟩
        · exact hl other ho

/-- Names without slashes are resolved to a location whose names are names. -/
theorem named_resolveNamesFrom {start : Location} {names : List String} (hstart : start.Named)
    (hslash : ∀ name ∈ names, '/' ∉ name.toList) : (fs.resolveNamesFrom start names).Named := by
  have h : (fs.resolveFrom fs.links.length [] start names).Named := named_resolveFrom fs.links.length [] hstart hslash
  unfold resolveNamesFrom
  split
  · rename_i hreached
    rwa [hreached] at h
  · rename_i hlooped
    rw [hlooped] at h
    refine named_descend h.1 fun name hn => ?_
    obtain ⟨hmem, hne⟩ := List.mem_filter.1 hn
    exact ⟨by simpa using hne, h.2 name hmem⟩

/-- The names of a location that has no link on the way lead there. -/
theorem goes_reverse {l : Location} (hclear : Clear fs l) (hnamed : l.Named) : Goes fs [] l.reverse l 0 := by
  have hrest : ∀ rest l' n, Goes fs l rest l' n → Goes fs [] (l.reverse ++ rest) l' n := by
    induction l with
    | nil => exact fun _ _ _ h => h
    | cons name l ih =>
      intro rest l' n h
      rw [List.reverse_cons, List.append_assoc]
      have hn := hnamed name List.mem_cons_self
      refine ih hclear.tail (fun other ho => hnamed other (List.mem_cons_of_mem _ ho)) _ _ _ ?_
      exact .down ⟨hn.ne_empty, hn.ne_dot, hn.ne_dots⟩ (hclear _ List.suffix_rfl) h
  have h := hrest [] l 0 (.done l)
  rwa [List.append_nil] at h

/-- The names of a location lead where its path can be walked to. -/
theorem goes_of_walk {p : Place} {l f : Location} (hnamed : l.Named) (h : fs.walk true p l.toString = .ok f) :
    ∃ n, Goes fs [] l.reverse f n := by
  have hshort : l.toString.utf8ByteSize < 4096 := by
    by_contra hlong
    rw [walk, if_neg l.toString_ne_empty, if_pos (Nat.not_lt.1 hlong)] at h
    cases h
  rw [walk_toString fs true p hshort hnamed] at h
  exact goes_of_walkFrom (fun name hn => (hnamed name (List.mem_reverse.1 hn)).ne_empty) h

/-- The path of a location leads where the resolution of the location does, if it can be walked along; no link is on the way to
where it leads. -/
theorem goes_of_walk_toString {p : Place} {l f : Location} (hnamed : l.Named)
    (h : fs.walk true p l.toString = .ok f) :
    fs.resolveNamesFrom [] l.reverse = f ∧ Clear fs f ∧ f.Named := by
  obtain ⟨n, hgoes⟩ := goes_of_walk hnamed h
  exact ⟨resolveNamesFrom_of_goes hgoes, hgoes.clear clear_root,
    hgoes.named Location.named_root fun name hn => (hnamed name (List.mem_reverse.1 hn)).slash⟩

/-- Where the path of a location can be walked along, the directory around the location is resolved to one without a link on the
way. -/
theorem clear_resolve_tail {p : Place} {l f : Location} (hnamed : l.Named) (h : fs.walk true p l.toString = .ok f) :
    Clear fs (fs.resolveNamesFrom [] l.tail.reverse) := by
  cases l with
  | nil =>
    have hroot : fs.resolveNamesFrom [] [] = [] := resolveNamesFrom_of_goes (.done [])
    show Clear fs (fs.resolveNamesFrom [] [])
    rw [hroot]
    exact clear_root
  | cons name around =>
    obtain ⟨n, hgoes⟩ := goes_of_walk hnamed h
    rw [List.reverse_cons] at hgoes
    obtain ⟨mid, _, _, haround, -, -⟩ := hgoes.of_append
    show Clear fs (fs.resolveNamesFrom [] around.reverse)
    rw [resolveNamesFrom_of_goes haround]
    exact haround.clear clear_root

/-- A location without a link on the way is resolved to itself. -/
theorem resolveNamesFrom_reverse {l : Location} (hclear : Clear fs l) (hnamed : l.Named) :
    fs.resolveNamesFrom [] l.reverse = l :=
  resolveNamesFrom_of_goes (goes_reverse hclear hnamed)

end FileSystem

namespace Machine

open FileSystem

variable {m : Machine}

/-- The directory that a process stands in is the location of its place. -/
theorem named_of_workingDirectory {l : Location} (hplace : m.place.location.Named) (h : m.workingDirectory = .ok l) :
    l.Named := by
  unfold workingDirectory workingDirectory? at h
  split at h
  · rename_i hsome
    split at hsome
    · cases hsome
      cases h
      exact hplace
    · cases hsome
  · cases h

/-- A location is resolved name by name. -/
theorem resolve_path_eq_ok {l l' : Location} (h : m.resolve (Location.path l) = .ok l') :
    m.files.resolveNamesFrom [] l.reverse = l' := by
  unfold resolve at h
  simp only [bind, Except.bind, pure, Except.pure] at h
  split at h
  · cases h
  · have habsolute : (Location.path l).isAbsolute = true := rfl
    rw [if_pos habsolute] at h
    split at h
    · cases h
    · exact Except.ok.inj h

/-- Where a path leads to a regular file, it can be walked along. -/
theorem walk_of_isFile {path : String} (h : m.isFile path = .ok true) : ∃ f, m.files.walk true m.place path = .ok f := by
  cases hw : m.files.walk true m.place path with
  | ok f => exact ⟨f, rfl⟩
  | error r =>
    have hlookup : m.files.lookup m.place path = .ok (some (.directory m.place.serial)) ∨
        m.files.lookup m.place path = .ok none ∨ m.files.lookup m.place path = .error r := by
      unfold FileSystem.lookup
      rw [hw]
      split
      · exact .inl rfl
      · cases r <;> simp
    unfold isFile lookup refuse at h
    by_cases hn : path.toList.contains '\x00'
    · rw [if_pos hn] at h
      cases h
    · rw [if_neg hn, if_neg hn] at h
      rcases hlookup with hl | hl | hl <;> rw [hl] at h <;> cases h

/-- A process that has changed to a location without a link on the way stands in it. -/
theorem workingDirectory?_of_changeDirectory {m' : Machine} {l : Location} (hclear : Clear m.files l) (hnamed : l.Named)
    (h : m.changeDirectory l.toString = .ok m') : m'.workingDirectory? = some l := by
  obtain ⟨place, henter, rfl⟩ := changeDirectory_eq_ok h
  obtain ⟨hholds, hwalk⟩ := holds_of_enter_toString henter
  have hl : place.location = l := by
    rw [← (goes_of_walk_toString hnamed hwalk).1, resolveNamesFrom_reverse hclear hnamed]
  rw [workingDirectory?, if_pos hholds, hl]

end Machine
end TaskRunner
