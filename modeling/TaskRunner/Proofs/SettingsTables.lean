import Mathlib.Data.String.Basic
import TaskRunner.Proofs.Diagnostics

/-!
# Settings tables

A table is read as settings if it has the names of settings and each value is of its kind; the level of the log is then a text that
names one in some case, though it is looked for in the text of any value (`Log.levelOf?_display`). `Settings.read_of_table` says what
is read and with which failure a table is refused, and that settings which have been read are read again from the table that is made
of them. What is accepted as a level is what the log can be set up to (`Invocation.level_checks_agree`).
-/

namespace TaskRunner

open Run

/-! ## Texts that name no level -/

namespace Text

/-- A character of ASCII that is no letter. -/
def IsMark (c : Char) : Prop := c.toNat < 128 ∧ ¬(65 ≤ c.toNat ∧ c.toNat ≤ 90) ∧ ¬(97 ≤ c.toNat ∧ c.toNat ≤ 122)

instance (c : Char) : Decidable (IsMark c) := inferInstanceAs (Decidable (_ ∧ _))

/-- A text has a character of ASCII that is no letter. -/
def Marked (s : String) : Prop := ∃ c ∈ s.toList, IsMark c

instance (s : String) : Decidable (Marked s) := decidable_of_iff (s.toList.any fun c => decide (IsMark c)) (by simp [Marked])

theorem Marked.append_left {s : String} (h : Marked s) (t : String) : Marked (s ++ t) := by
  obtain ⟨c, hc, hmark⟩ := h
  exact ⟨c, by rw [String.toList_append]; exact List.mem_append_left _ hc, hmark⟩

theorem Marked.append_right {t : String} (h : Marked t) (s : String) : Marked (s ++ t) := by
  obtain ⟨c, hc, hmark⟩ := h
  exact ⟨c, by rw [String.toList_append]; exact List.mem_append_right _ hc, hmark⟩

/-- What is no letter stays in upper case. -/
theorem Marked.upper {s : String} (h : Marked s) : Marked (upper s) := by
  obtain ⟨c, hc, hascii, hcapital, hsmall⟩ := h
  have hkept : upperChar c = [c] := by rw [upperChar, if_pos hascii, upperAscii, if_neg hsmall]
  refine ⟨c, ?_, hascii, hcapital, hsmall⟩
  rw [Text.upper, String.toList_ofList, List.mem_flatMap]
  exact ⟨c, hc, by rw [hkept]; exact List.mem_singleton_self c⟩

theorem isMark_of_isDigit {c : Char} (h : c.isDigit = true) : IsMark c := by
  simp only [Char.isDigit, ge_iff_le, Bool.and_eq_true, decide_eq_true_eq, UInt32.le_iff_toNat_le] at h
  have hzero : '0'.val.toNat = 48 := rfl
  have hnine : '9'.val.toNat = 57 := rfl
  have hcode : c.val.toNat = c.toNat := rfl
  unfold IsMark
  omega

theorem marked_repr (n : Nat) : Marked n.repr := by
  obtain ⟨c, hc⟩ := List.exists_mem_of_ne_nil _ (Nat.toDigits_ne_nil (n := n) (b := 10))
  refine ⟨c, ?_, isMark_of_isDigit (Nat.isDigit_of_mem_toDigits (by decide) (by decide) hc)⟩
  rw [Nat.repr_eq_ofList_toDigits, String.toList_ofList]
  exact hc

end Text

open Text

namespace Decimal

theorem mem_positional (digits : List Char) (point : Int) : '.' ∈ positional digits point := by
  unfold positional
  split
  · simp
  · dsimp only
    split <;> simp

theorem mem_exponential (width : Nat) (digits : List Char) (point : Int) :
    '-' ∈ exponential width digits point ∨ '+' ∈ exponential width digits point := by
  unfold exponential
  dsimp only
  by_cases h : point - 1 < 0
  · rw [if_pos h]
    simp
  · rw [if_neg h]
    simp

/-- The text of a number has a point or a sign, unless it is no number or infinite. -/
theorem marked_render (layout : Layout) (bits : UInt64) :
    Marked (layout.render bits) ∨ layout.render bits = "nan" ∨ layout.render bits = "inf" := by
  unfold Layout.render
  cases Reading.ofBits bits with
  | undefined => exact .inr (.inl rfl)
  | infinite negative =>
    cases negative with
    | true => exact .inl (by decide : Marked "-inf")
    | false => exact .inr (.inr rfl)
  | finite negative m q narrow =>
    left
    dsimp only
    generalize hbody : (if m = 0 then _ else _ : List Char) = body
    have hmark : ∃ c ∈ body, IsMark c := by
      subst hbody
      split
      · exact ⟨'.', by decide, by decide⟩
      · split
        · exact ⟨'.', mem_positional _ _, by decide⟩
        · rcases mem_exponential layout.exponentWidth _ _ with h | h
          · exact ⟨'-', h, by decide⟩
          · exact ⟨'+', h, by decide⟩
    obtain ⟨c, hc, hmark⟩ := hmark
    refine ⟨c, ?_, hmark⟩
    rw [String.toList_ofList]
    split
    · exact List.mem_cons_of_mem _ hc
    · exact hc

end Decimal

namespace Moment

theorem marked_showDate (d : Date) : Marked (showDate d) :=
  (((Marked.append_right (by decide : Marked "-") _).append_left _).append_left _).append_left _

theorem marked_showClock (t : Clock) : Marked (showClock t) := by
  have hbase : Marked s!"{padded 2 t.hour}:{padded 2 t.minute}:{padded 2 t.second}" :=
    (((Marked.append_right (by decide : Marked ":") _).append_left _).append_left _).append_left _
  unfold showClock
  dsimp only
  split
  · exact hbase
  · exact (hbase.append_left _).append_left _

theorem marked_display (m : Moment) : Marked m.display := by
  cases m with
  | date d => exact marked_showDate d
  | clock t => exact marked_showClock t
  | full d t offset =>
    have hfull : Marked s!"{showDate d} {showClock t}" := ((marked_showDate d).append_left _).append_left _
    cases offset with
    | none => exact hfull
    | some offset => exact hfull.append_left _

end Moment

namespace Log

/-- A name of a level is of letters only. -/
theorem levelOf?_eq_none_of_marked {s : String} (h : Marked s) : levelOf? s = none := by
  have hall : ∀ entry ∈ levels, ¬Marked entry.1 := by decide +kernel
  cases hlevel : levelOf? s with
  | none => rfl
  | some n => exact absurd h (hall (s, n) (mem_levels_of_levelOf? hlevel))

/-- What is no text names no level by the text that is made of it. -/
theorem levelOf?_display {d : Data} (h : ∀ s, d ≠ .text s) : levelOf? (upper d.display) = none := by
  have hmarked {s : String} (hs : Marked s) : levelOf? (upper s) = none := levelOf?_eq_none_of_marked hs.upper
  -- the words for nothing, truth and numbers that are none or infinite are of letters only; every other text has a mark
  cases d with
  | null => decide +kernel
  | flag b => cases b <;> decide +kernel
  | int n =>
    cases n with
    | ofNat n => exact hmarked (marked_repr n)
    | negSucc n => exact hmarked ((marked_repr _).append_right "-")
  | float bits =>
    show levelOf? (upper (Decimal.plain.render bits)) = none
    rcases Decimal.marked_render Decimal.plain bits with h | h | h
    · exact hmarked h
    · rw [h]
      decide +kernel
    · rw [h]
      decide +kernel
  | text s => exact absurd rfl (h s)
  | moment m => exact hmarked m.marked_display
  | list items => exact hmarked (((by decide : Marked "[").append_left _).append_left _)
  | table fields => exact hmarked (((by decide : Marked "\x7b").append_left _).append_left _)

end Log

/-! ## Settings from a table -/

namespace Settings

variable {table : List (String × Data)} {s : Settings}

/-- A table from which settings can be read: it has the names of settings only, and what it gives for a setting is of its kind. -/
structure Acceptable (table : List (String × Data)) : Prop where
  names : ∀ entry ∈ table, entry.1 ∈ keys
  shell : ∀ d, table.lookup "shell" = some d → d = .null ∨ ∃ shell, d = .text shell
  echoCommands : ∀ d, table.lookup "echo_commands" = some d → ∃ b, d = .flag b
  logLevel : ∀ d, table.lookup "log_level" = some d → ∃ name n, d = .text name ∧ Log.levelOf? (Text.upper name) = some n

/-- The settings have what a table gives, the level in upper case, and what is set by default where it gives nothing. -/
structure Given (table : List (String × Data)) (s : Settings) : Prop where
  shell : (table.lookup "shell").getD .null = s.shell.elim .null .text
  echoCommands : (table.lookup "echo_commands").getD (.flag default.echoCommands) = .flag s.echoCommands
  logLevel : ∃ name, (table.lookup "log_level").getD (.text default.logLevel) = .text name ∧ s.logLevel = Text.upper name

/-- A table without what it gives for the level. -/
def withoutLevel (table : List (String × Data)) : List (String × Data) := table.filter fun entry => entry.1 ≠ "log_level"

/-! ### The names -/

theorem mem_unknownKeys {key : String} : key ∈ unknownKeys table ↔ key ∈ table.map Prod.fst ∧ key ∉ keys := by
  rw [unknownKeys, List.mem_mergeSort, List.mem_filter, Bool.not_eq_true', ← Bool.not_eq_true, List.contains_iff_mem]

theorem unknownKeys_eq_nil_iff : unknownKeys table = [] ↔ ∀ entry ∈ table, entry.1 ∈ keys := by
  rw [List.eq_nil_iff_forall_not_mem]
  constructor
  · intro h entry hentry
    by_contra hkey
    exact h entry.1 (mem_unknownKeys.2 ⟨List.mem_map_of_mem hentry, hkey⟩)
  · intro h key hkey
    obtain ⟨hmem, hunknown⟩ := mem_unknownKeys.1 hkey
    obtain ⟨entry, hentry, rfl⟩ := List.mem_map.1 hmem
    exact hunknown (h entry hentry)

/-- Names that are distinct are told in order. -/
theorem pairwise_unknownKeys (hkeys : (table.map Prod.fst).Nodup) : (unknownKeys table).Pairwise (· < ·) := by
  have hdistinct : (unknownKeys table).Nodup := (List.mergeSort_perm _ _).nodup_iff.2 (hkeys.filter _)
  have htrans (a b c : String) (hab : decide (a ≤ b) = true) (hbc : decide (b ≤ c) = true) : decide (a ≤ c) = true :=
    decide_eq_true (le_trans (of_decide_eq_true hab) (of_decide_eq_true hbc))
  have htotal (a b : String) : (decide (a ≤ b) || decide (b ≤ a)) = true := by simpa using le_total a b
  have hordered : (unknownKeys table).Pairwise fun a b => decide (a ≤ b) = true := List.pairwise_mergeSort htrans htotal _
  exact (hordered.and hdistinct).imp fun {a b} (h : _ ∧ a ≠ b) => lt_of_le_of_ne (of_decide_eq_true h.1) h.2

theorem ofTable_of_unknown (h : unknownKeys table ≠ []) : ofTable table = .error (.unknownKeys (unknownKeys table)) := by
  unfold ofTable
  cases hunknown : unknownKeys table with
  | nil => exact absurd hunknown h
  | cons key rest => rfl

/-! ### The values -/

theorem shellOf_eq_ok_iff {shell : Option String} :
    shellOf table = .ok shell ↔ (table.lookup "shell").getD .null = shell.elim .null .text := by
  unfold shellOf
  cases table.lookup "shell" with
  | none => cases shell <;> simp
  | some d => cases d <;> cases shell <;> simp

theorem echoOf_eq_ok_iff {b : Bool} :
    echoOf table = .ok b ↔ (table.lookup "echo_commands").getD (.flag default.echoCommands) = .flag b := by
  unfold echoOf
  cases table.lookup "echo_commands" with
  | none => simp
  | some d => cases d <;> simp

theorem levelOf_eq_ok_iff {level : String} :
    levelOf table = .ok level ↔ (∃ name, levelData table = .text name ∧ level = Text.upper name) ∧ ∃ n, Log.levelOf? level = some n := by
  unfold levelOf
  dsimp only
  constructor
  · intro h
    cases hn : Log.levelOf? (upper (levelData table).display) with
    | none =>
      rw [hn] at h
      cases h
    | some n =>
      rw [hn] at h
      cases h
      refine ⟨?_, n, hn⟩
      by_contra hno
      rw [Log.levelOf?_display fun name hname => hno ⟨name, hname, by rw [hname]; rfl⟩] at hn
      cases hn
  · rintro ⟨⟨name, hname, rfl⟩, n, hn⟩
    have hdisplay : (levelData table).display = name := by rw [hname]; rfl
    rw [hdisplay, hn]

theorem exists_shellOf_iff :
    (∃ shell, shellOf table = .ok shell) ↔ ∀ d, table.lookup "shell" = some d → d = .null ∨ ∃ shell, d = .text shell := by
  unfold shellOf
  cases table.lookup "shell" with
  | none => simp
  | some d => cases d <;> simp

theorem exists_echoOf_iff :
    (∃ b, echoOf table = .ok b) ↔ ∀ d, table.lookup "echo_commands" = some d → ∃ b, d = .flag b := by
  unfold echoOf
  cases table.lookup "echo_commands" with
  | none => simp
  | some d => cases d <;> simp

theorem exists_levelOf_iff : (∃ level, levelOf table = .ok level) ↔
    ∀ d, table.lookup "log_level" = some d → ∃ name n, d = .text name ∧ Log.levelOf? (upper name) = some n := by
  have hdefault : ∃ n, Log.levelOf? (upper default.logLevel) = some n := ⟨30, by decide +kernel⟩
  constructor
  · rintro ⟨level, h⟩ d hd
    obtain ⟨⟨name, hname, rfl⟩, n, hn⟩ := levelOf_eq_ok_iff.1 h
    rw [levelData, hd] at hname
    exact ⟨name, n, hname, hn⟩
  · intro h
    cases hd : table.lookup "log_level" with
    | none => exact ⟨_, levelOf_eq_ok_iff.2 ⟨⟨default.logLevel, by rw [levelData, hd]; rfl, rfl⟩, hdefault⟩⟩
    | some d =>
      obtain ⟨name, n, hname, hn⟩ := h d hd
      exact ⟨_, levelOf_eq_ok_iff.2 ⟨⟨name, by rw [levelData, hd, hname]; rfl, rfl⟩, n, hn⟩⟩

/-- What is looked for before the settings are made. -/
theorem acceptable_iff : Acceptable table ↔ (∀ entry ∈ table, entry.1 ∈ keys) ∧ (∃ shell, shellOf table = .ok shell) ∧
    (∃ b, echoOf table = .ok b) ∧ ∃ level, levelOf table = .ok level := by
  rw [exists_shellOf_iff, exists_echoOf_iff, exists_levelOf_iff]
  exact ⟨fun h => ⟨h.names, h.shell, h.echoCommands, h.logLevel⟩, fun ⟨hn, hs, he, hl⟩ => ⟨hn, hs, he, hl⟩⟩

/-! ### The settings -/

theorem ofTable_of_names (h : ∀ entry ∈ table, entry.1 ∈ keys) :
    ofTable table = (do return ⟨← shellOf table, ← echoOf table, ← levelOf table⟩) := by
  unfold ofTable
  rw [unknownKeys_eq_nil_iff.2 h]

/-- A table that is not refused for its names has the names of settings only. -/
theorem names_of_ofTable (h : ∀ names, ofTable table ≠ .error (.unknownKeys names)) : ∀ entry ∈ table, entry.1 ∈ keys := by
  rw [← unknownKeys_eq_nil_iff]
  by_contra hunknown
  exact h _ (ofTable_of_unknown hunknown)

/-- Settings are read from a table just if it has the names of settings only, and they are given by it and have a level. -/
theorem read_eq_ok_iff_given : read table = .ok s ↔
    (∀ entry ∈ table, entry.1 ∈ keys) ∧ Given table s ∧ ∃ n, Log.levelOf? s.logLevel = some n := by
  rw [read_eq_ok_iff]
  constructor
  · intro h
    have hnames := names_of_ofTable fun names hrefused => by cases h.symm.trans hrefused
    rw [ofTable_of_names hnames] at h
    obtain ⟨shell, hshell, h⟩ := except_bind_eq_ok h
    obtain ⟨echo, hecho, h⟩ := except_bind_eq_ok h
    obtain ⟨level, hlevel, h⟩ := except_bind_eq_ok h
    cases h
    obtain ⟨hgiven, hknown⟩ := levelOf_eq_ok_iff.1 hlevel
    exact ⟨hnames, ⟨shellOf_eq_ok_iff.1 hshell, echoOf_eq_ok_iff.1 hecho, hgiven⟩, hknown⟩
  · rintro ⟨hnames, hgiven, hknown⟩
    rw [ofTable_of_names hnames, shellOf_eq_ok_iff.2 hgiven.shell, echoOf_eq_ok_iff.2 hgiven.echoCommands,
      levelOf_eq_ok_iff.2 ⟨hgiven.logLevel, hknown⟩]
    rfl

theorem exists_read_iff : (∃ s, read table = .ok s) ↔ Acceptable table := by
  rw [acceptable_iff]
  constructor
  · rintro ⟨s, h⟩
    obtain ⟨hnames, hgiven, hknown⟩ := read_eq_ok_iff_given.1 h
    exact ⟨hnames, ⟨_, shellOf_eq_ok_iff.2 hgiven.shell⟩, ⟨_, echoOf_eq_ok_iff.2 hgiven.echoCommands⟩,
      ⟨_, levelOf_eq_ok_iff.2 ⟨hgiven.logLevel, hknown⟩⟩⟩
  · rintro ⟨hnames, ⟨shell, hshell⟩, ⟨echo, hecho⟩, level, hlevel⟩
    refine ⟨⟨shell, echo, level⟩, read_eq_ok_iff.2 ?_⟩
    rw [ofTable_of_names hnames, hshell, hecho, hlevel]
    rfl

theorem given_toTable (h : Text.upper s.logLevel = s.logLevel) : Given s.toTable s := by
  obtain ⟨shell, echo, level⟩ := s
  cases shell <;> exact ⟨rfl, rfl, level, rfl, h.symm⟩

/-- Settings with a level are read from the table that is made of them. -/
theorem read_toTable {n : Int} (h : Log.levelOf? s.logLevel = some n) : read s.toTable = .ok s := by
  refine read_eq_ok_iff_given.2 ⟨?_, given_toTable (upper_of_levelOf? h), n, h⟩
  obtain ⟨shell, echo, level⟩ := s
  cases shell <;> simp [toTable, keys]

/-! ### The level apart -/

theorem lookup_withoutLevel {key : String} (h : key ≠ "log_level") : (withoutLevel table).lookup key = table.lookup key := by
  unfold withoutLevel
  induction table with
  | nil => rfl
  | cons entry rest ih =>
    obtain ⟨name, d⟩ := entry
    rw [List.filter_cons]
    by_cases hname : name = "log_level"
    · rw [if_neg (by simpa using hname), ih, List.lookup_cons, beq_false_of_ne (hname ▸ h)]
    · rw [if_pos (by simpa using hname), List.lookup_cons, List.lookup_cons, ih]

theorem lookup_level_withoutLevel : (withoutLevel table).lookup "log_level" = none := by
  rw [List.lookup_eq_none_iff]
  intro entry hentry
  have hname : entry.1 ≠ "log_level" := of_decide_eq_true (List.mem_filter.1 hentry).2
  rw [bne_iff_ne]
  exact hname.symm

theorem names_withoutLevel : (∀ entry ∈ withoutLevel table, entry.1 ∈ keys) ↔ ∀ entry ∈ table, entry.1 ∈ keys := by
  refine ⟨fun h entry hentry => ?_, fun h entry hentry => h entry (List.mem_of_mem_filter hentry)⟩
  by_cases hlevel : entry.1 = "log_level"
  · rw [hlevel]
    decide
  · exact h entry (List.mem_filter.2 ⟨hentry, by simpa using hlevel⟩)

/-- What is looked for before the level is. -/
theorem acceptable_withoutLevel_iff : Acceptable (withoutLevel table) ↔
    (∀ entry ∈ table, entry.1 ∈ keys) ∧ (∃ shell, shellOf table = .ok shell) ∧ ∃ b, echoOf table = .ok b := by
  rw [exists_shellOf_iff, exists_echoOf_iff, ← names_withoutLevel, ← lookup_withoutLevel (by decide : "shell" ≠ "log_level"),
    ← lookup_withoutLevel (by decide : "echo_commands" ≠ "log_level")]
  refine ⟨fun h => ⟨h.names, h.shell, h.echoCommands⟩, fun ⟨hn, hs, he⟩ => ⟨hn, hs, he, fun d hd => ?_⟩⟩
  rw [lookup_level_withoutLevel] at hd
  cases hd

theorem acceptable_iff_withoutLevel : Acceptable table ↔ Acceptable (withoutLevel table) ∧ ∃ level, levelOf table = .ok level := by
  rw [acceptable_iff, acceptable_withoutLevel_iff, and_assoc, and_assoc]

theorem shellOf_error {fault : SettingsFault} (h : shellOf table = .error fault) : fault = .shellNotText := by
  unfold shellOf at h
  split at h
  · cases h
  · cases h
  · cases h
  · exact (Except.error.inj h).symm

theorem echoOf_error {fault : SettingsFault} (h : echoOf table = .error fault) : fault = .echoNotFlag := by
  unfold echoOf at h
  split at h
  · cases h
  · cases h
  · exact (Except.error.inj h).symm

theorem levelOf_error {fault : SettingsFault} (h : levelOf table = .error fault) :
    fault = .unknownLevel (levelData table).display := by
  unfold levelOf at h
  dsimp only at h
  split at h
  · cases h
  · exact (Except.error.inj h).symm

/-- A table is refused for its level just if there is nothing else to refuse it for. -/
theorem refused_for_level_iff :
    (∃ given, ofTable table = .error (.unknownLevel given)) ↔ Acceptable (withoutLevel table) ∧ ¬∃ level, levelOf table = .ok level := by
  rw [acceptable_withoutLevel_iff]
  constructor
  · rintro ⟨given, h⟩
    have hnames := names_of_ofTable fun names hrefused => by cases h.symm.trans hrefused
    rw [ofTable_of_names hnames] at h
    -- the level is looked at last, so that a fault of it leaves no other fault
    cases hshell : shellOf table with
    | error fault =>
      rw [hshell, shellOf_error hshell] at h
      cases h
    | ok shell =>
      cases hecho : echoOf table with
      | error fault =>
        rw [hshell, hecho, echoOf_error hecho] at h
        cases h
      | ok echo =>
        refine ⟨⟨hnames, ⟨shell, rfl⟩, echo, rfl⟩, ?_⟩
        rintro ⟨level, hlevel⟩
        rw [hshell, hecho, hlevel] at h
        cases h
  · rintro ⟨⟨hnames, ⟨shell, hshell⟩, echo, hecho⟩, hlevel⟩
    rw [ofTable_of_names hnames, hshell, hecho]
    cases h : levelOf table with
    | ok level => exact absurd ⟨level, h⟩ hlevel
    | error fault =>
      rw [levelOf_error h]
      exact ⟨_, rfl⟩

/-- A level that holds a number which is too long is no text, and is refused. -/
theorem not_levelOf_of_long (h : (levelData table).hasLongNumber = true) : ¬∃ level, levelOf table = .ok level := by
  rintro ⟨level, hlevel⟩
  obtain ⟨⟨name, hname, -⟩, -⟩ := levelOf_eq_ok_iff.1 hlevel
  rw [hname] at h
  cases h

theorem levelData_long_iff :
    (levelData table).hasLongNumber = true ↔ ∃ d, table.lookup "log_level" = some d ∧ d.hasLongNumber = true := by
  unfold levelData
  cases table.lookup "log_level" with
  | none => exact iff_of_false (by decide) nofun
  | some d => simp

/-- A table is refused without a fault of the settings just for a level that holds a number which is too long to be told. -/
theorem read_unreported_iff {f : Failure} : (read table = .error f ∧ ∀ fault, f ≠ .settings fault) ↔
    f = .longNumber none ∧ Acceptable (withoutLevel table) ∧ ∃ d, table.lookup "log_level" = some d ∧ d.hasLongNumber = true := by
  rw [← levelData_long_iff]
  constructor
  · rintro ⟨h, hforeign⟩
    unfold read at h
    cases htable : ofTable table with
    | ok s =>
      rw [htable] at h
      cases h
    | error fault =>
      rw [htable] at h
      cases fault with
      | unknownLevel given =>
        dsimp only at h
        split at h
        · next hlong =>
          cases h
          exact ⟨rfl, (refused_for_level_iff.1 ⟨given, htable⟩).1, hlong⟩
        · cases h
          exact absurd rfl (hforeign _)
      | _ =>
        cases h
        exact absurd rfl (hforeign _)
  · rintro ⟨rfl, hrest, hlong⟩
    obtain ⟨given, htable⟩ := refused_for_level_iff.2 ⟨hrest, not_levelOf_of_long hlong⟩
    refine ⟨?_, nofun⟩
    unfold read
    rw [htable]
    exact if_pos hlong

/-- Reading settings from a table, whatever it holds. It gives settings just if the table is acceptable, and then those that the table
gives, which are read again from the table that is made of them. Names that no setting has are told all together and in order,
whatever else is wrong. A table is refused with a fault of the settings, unless all of it is in order but a level which holds a number
that is too long to be told. -/
theorem read_of_table (hkeys : (table.map Prod.fst).Nodup) :
    ((∃ s, read table = .ok s) ↔ Acceptable table) ∧
      (∀ s, read table = .ok s → Given table s ∧ read s.toTable = .ok s) ∧
      ((∃ key ∈ table.map Prod.fst, key ∉ keys) → ∃ names, read table = .error (.settings (.unknownKeys names)) ∧
        names.Pairwise (· < ·) ∧ (∀ key, key ∈ names ↔ key ∈ table.map Prod.fst ∧ key ∉ keys) ∧
        (SettingsFault.unknownKeys names).message = "Unknown [tool.runx] keys: " ++ ", ".intercalate names) ∧
      ∀ f, (read table = .error f ∧ ∀ fault, f ≠ .settings fault) ↔ f = .longNumber none ∧ Acceptable (withoutLevel table) ∧
        ∃ d, table.lookup "log_level" = some d ∧ d.hasLongNumber = true := by
  refine ⟨exists_read_iff, fun s h => ?_, ?_, fun f => read_unreported_iff⟩
  · obtain ⟨-, hgiven, n, hn⟩ := read_eq_ok_iff_given.1 h
    exact ⟨hgiven, read_toTable hn⟩
  · rintro ⟨key, hkey⟩
    refine ⟨unknownKeys table, ?_, pairwise_unknownKeys hkeys, fun key => mem_unknownKeys, rfl⟩
    rw [read, ofTable_of_unknown (List.ne_nil_of_mem (mem_unknownKeys.2 hkey))]

/-- The upper form of a letter beyond ASCII is one of ASCII, so that this table names a level. -/
def dotless : List (String × Data) := [("log_level", .text "\u0131nfo"), ("shell", .null)]

theorem acceptable_dotless : Acceptable dotless where
  names := by decide
  shell := by
    rintro d hd
    exact .inl (Option.some.inj hd).symm
  echoCommands := by
    rintro d hd
    cases hd
  logLevel := by
    rintro d hd
    exact ⟨_, 20, (Option.some.inj hd).symm, by decide +kernel⟩

/-- The settings of a table are read with the level in upper case, and read again from their own table. -/
theorem read_of_table_dotless :
    (dotless.map Prod.fst).Nodup ∧ read dotless = .ok ⟨none, false, "INFO"⟩ ∧
      read (toTable ⟨none, false, "INFO"⟩) = .ok ⟨none, false, "INFO"⟩ := by
  have hkeys : (dotless.map Prod.fst).Nodup := by decide
  obtain ⟨haccepted, hread, -⟩ := read_of_table hkeys
  obtain ⟨⟨shell, echo, level⟩, h⟩ := haccepted.2 acceptable_dotless
  obtain ⟨⟨hshell, hecho, name, hname, hlevel⟩, hagain⟩ := hread _ h
  have hupper : upper "\u0131nfo" = "INFO" := by decide +kernel
  cases hecho
  cases hname
  cases shell with
  | some shell => cases hshell
  | none =>
    rw [hupper] at hlevel
    cases hlevel
    exact ⟨hkeys, h, hagain⟩

/-- A level that is a number of more digits than are written out. -/
def longLevel : List (String × Data) := [("log_level", .int (Nat.pow 10 Data.mostDigits))]

/-- A table that is not acceptable may be refused without a fault of the settings. -/
theorem read_of_table_false :
    ¬Acceptable longLevel ∧ read longLevel = .error (.longNumber none) ∧ ∀ fault, read longLevel ≠ .error (.settings fault) := by
  have hlong : (levelData longLevel).hasLongNumber = true := by decide +kernel
  have hrest : Acceptable (withoutLevel longLevel) :=
    acceptable_withoutLevel_iff.2 ⟨by decide, ⟨none, rfl⟩, false, rfl⟩
  obtain ⟨hread, -⟩ := read_unreported_iff.2 ⟨rfl, hrest, levelData_long_iff.1 hlong⟩
  refine ⟨fun h => not_levelOf_of_long hlong (acceptable_iff_withoutLevel.1 h).2, hread, fun fault h => ?_⟩
  rw [hread] at h
  cases h

end Settings

/-! ## The level of the log -/

namespace Invocation

open Settings

section level

variable {w : World} {table : List (String × Data)} {name : String}

theorem levelOfData_of_upper {n : Int} (h : Log.levelOf? (upper name) = some n) : Log.levelOfData (.text name) = .ok n := by
  unfold Log.levelOfData
  dsimp only
  rw [h]

/-- The log is set up to a text just if it names a level in some case. -/
theorem setupLog_text_iff : (∃ w', setupLog (.text name) w = .ok () w') ↔ ∃ n, Log.levelOf? (upper name) = some n := by
  constructor
  · rintro ⟨w', h⟩
    cases hn : Log.levelOf? (upper name) with
    | some n => exact ⟨n, rfl⟩
    | none =>
      have hrefused : Log.levelOfData (.text name) = .error (.unknownLevel (upper name)) := by
        unfold Log.levelOfData
        dsimp only
        rw [hn]
      cases h.symm.trans (setupLog_refused hrefused w)
  · rintro ⟨n, hn⟩
    exact ⟨_, setupLog_of_level (levelOfData_of_upper hn) w⟩

theorem exists_levelOf_text_iff (hname : table.lookup "log_level" = some (.text name)) :
    (∃ level, levelOf table = .ok level) ↔ ∃ n, Log.levelOf? (upper name) = some n := by
  rw [exists_levelOf_iff, hname]
  constructor
  · intro h
    obtain ⟨_, n, htext, hn⟩ := h _ rfl
    cases htext
    exact ⟨n, hn⟩
  · rintro ⟨n, hn⟩ d hd
    cases hd
    exact ⟨name, n, rfl, hn⟩

/-- A table is accepted just if it is without its level, and the log can be set up to the level. -/
theorem exists_read_of_level_iff (hname : table.lookup "log_level" = some (.text name)) :
    (∃ s, read table = .ok s) ↔ (∃ s, read (withoutLevel table) = .ok s) ∧ ∃ w', setupLog (.text name) w = .ok () w' := by
  rw [exists_read_iff, exists_read_iff, acceptable_iff_withoutLevel, exists_levelOf_text_iff hname, setupLog_text_iff]

/-- The settings of a directory that have been read set the log up. -/
theorem configure_of_load {directory : Path} {s : Settings} (h : Settings.load w.machine directory = .ok s) :
    ∃ w', configure directory w = .ok s w' := by
  unfold configure
  rw [bind_ok (observe_ok h)]
  obtain ⟨n, hn⟩ := level_of_load h
  rw [bind_ok (setupLog_of_level (levelOfData_text hn) w)]
  exact ⟨_, rfl⟩

/-- A text is accepted for the level just if the log can be set up to it, alone and in any table that is accepted without it; and then
the level that is read sets the log up as the text does, to the number that the level has. So no settings that a directory has given
stop an invocation when it sets the log up to their level. -/
theorem level_checks_agree (hname : table.lookup "log_level" = some (.text name)) (w : World) :
    ((∃ s, read [("log_level", .text name)] = .ok s) ↔ ∃ w', setupLog (.text name) w = .ok () w') ∧
      ((∃ s, read table = .ok s) ↔ (∃ s, read (withoutLevel table) = .ok s) ∧ ∃ w', setupLog (.text name) w = .ok () w') ∧
      (∀ s, read table = .ok s → ∃ w', setupLog (.text name) w = .ok () w' ∧ setupLog (.text s.logLevel) w = .ok () w' ∧
        Log.levelOf? s.logLevel = some w'.log.level) ∧
      (∀ m directory s, Settings.load m directory = .ok s → ∃ w', setupLog (.text s.logLevel) w = .ok () w') ∧
      ∀ directory s, Settings.load w.machine directory = .ok s → ∃ w', configure directory w = .ok s w' := by
  refine ⟨?_, exists_read_of_level_iff hname, fun s h => ?_, fun m directory s h => ?_, fun directory s h => configure_of_load h⟩
  · have hbare : ∃ s, read (withoutLevel [("log_level", .text name)]) = .ok s :=
      exists_read_iff.2 (acceptable_withoutLevel_iff.2 ⟨by simp [keys], ⟨none, rfl⟩, false, rfl⟩)
    rw [exists_read_of_level_iff (rfl : List.lookup "log_level" [("log_level", Data.text name)] = _), and_iff_right hbare]
  · obtain ⟨-, hgiven, n, hn⟩ := read_eq_ok_iff_given.1 h
    obtain ⟨given, hlookup, hlevel⟩ := hgiven.logLevel
    rw [hname] at hlookup
    cases hlookup
    exact ⟨_, setupLog_of_level (levelOfData_of_upper (hlevel ▸ hn)) w, setupLog_of_level (levelOfData_text hn) w, hn⟩
  · obtain ⟨n, hn⟩ := level_of_load h
    exact ⟨_, setupLog_of_level (levelOfData_text hn) w⟩

/-- A state in which nothing has happened. -/
def quiet : World := World.initial ⟨FileSystem.empty, ⟨[], 0⟩, ⟨[], []⟩, Assoc.empty⟩ []

/-- The log is set up to a text with a letter beyond ASCII and to the level that a table reads from it alike. -/
theorem level_checks_agree_dotless :
    dotless.lookup "log_level" = some (.text "\u0131nfo") ∧ ∃ s w', read dotless = .ok s ∧
      setupLog (.text "\u0131nfo") quiet = .ok () w' ∧ setupLog (.text s.logLevel) quiet = .ok () w' ∧
        Log.levelOf? s.logLevel = some w'.log.level := by
  have hname : dotless.lookup "log_level" = some (.text "\u0131nfo") := rfl
  obtain ⟨-, -, hagree, -⟩ := level_checks_agree hname quiet
  obtain ⟨s, h⟩ := exists_read_iff.2 acceptable_dotless
  obtain ⟨w', hset⟩ := hagree s h
  exact ⟨hname, s, w', h, hset⟩

end level

end Invocation
end TaskRunner
