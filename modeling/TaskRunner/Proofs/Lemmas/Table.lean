import Mathlib.Data.List.Nodup
import TaskRunner.Assoc

/-!
# The keys of a table

What an insertion and a removal do to the keys of a table. A table is *single* when no two of its entries have the same key; the
tables that are built by insertions are.
-/

namespace TaskRunner

/-! ## Distinct keys -/

/-- What is left when the repetitions are removed is distinct. -/
theorem nodup_eraseDups {α : Type} [DecidableEq α] : ∀ l : List α, l.eraseDups.Nodup
  | [] => List.nodup_nil
  | a :: l => by
    rw [List.eraseDups_cons, List.nodup_cons, List.mem_eraseDups, List.mem_filter]
    exact ⟨fun h => by simp at h, nodup_eraseDups _⟩
  termination_by l => l.length
  decreasing_by exact Nat.lt_succ_of_le (List.length_filter_le _ _)

/-- What is distinct has no repetitions to remove. -/
theorem eraseDups_of_nodup {α : Type} [DecidableEq α] {l : List α} (h : l.Nodup) : l.eraseDups = l := by
  induction l with
  | nil => rfl
  | cons a l ih =>
    obtain ⟨ha, hl⟩ := List.nodup_cons.1 h
    have hall : l.filter (fun b => !b == a) = l := by
      rw [List.filter_eq_self]
      intro b hb
      have hne : b ≠ a := fun he => ha (he ▸ hb)
      simpa using hne
    rw [List.eraseDups_cons, hall, ih hl]

/-- What is put at the end leaves what is there before without the repetitions. -/
theorem eraseDups_prefix_append {α : Type} [DecidableEq α] (l more : List α) : l.eraseDups <+: (l ++ more).eraseDups := by
  rw [List.eraseDups_append]
  exact List.prefix_append _ _

/-- What is put at the end stays if it is not there before. -/
theorem eraseDups_concat {α : Type} [DecidableEq α] (l : List α) (a : α) :
    (l ++ [a]).eraseDups = if a ∈ l then l.eraseDups else l.eraseDups ++ [a] := by
  rw [List.eraseDups_append]
  by_cases h : a ∈ l
  · have hremoved : [a].removeAll l = [] := by simp [List.removeAll, h]
    rw [if_pos h, hremoved]
    exact List.append_nil _
  · have hkept : [a].removeAll l = [a] := by simp [List.removeAll, h]
    rw [if_neg h, hkept]
    rfl

/-- More of the same values are found by a look that finds all that another one finds. -/
theorem filterMap_sublist_filterMap {α β : Type} {look look' : α → Option β} (h : ∀ a b, look a = some b → look' a = some b)
    (l : List α) : (l.filterMap look).Sublist (l.filterMap look') := by
  induction l with
  | nil => exact List.Sublist.slnil
  | cons a l ih =>
    cases ha : look a with
    | none =>
      rw [List.filterMap_cons_none ha]
      cases ha' : look' a with
      | none => rwa [List.filterMap_cons_none ha']
      | some b =>
        rw [List.filterMap_cons_some ha']
        exact ih.cons b
    | some b =>
      rw [List.filterMap_cons_some ha, List.filterMap_cons_some (h a b ha)]
      exact ih.cons_cons b

/-- Of the values that distinct keys stand for, the ones that stand under one key are the one of that key. -/
theorem filter_filterMap_eq_singleton {α β : Type} {keys : List α} {look : α → Option β} {p : β → Bool} {key : α} {value : β}
    (hn : keys.Nodup) (hmem : key ∈ keys) (hlook : look key = some value) (hp : p value = true)
    (hother : ∀ other ∈ keys, ∀ b, look other = some b → p b = true → other = key) :
    (keys.filterMap look).filter p = [value] := by
  induction keys with
  | nil => cases hmem
  | cons first rest ih =>
    obtain ⟨hfirst, hrest⟩ := List.nodup_cons.1 hn
    by_cases he : first = key
    · subst he
      have hnone : (rest.filterMap look).filter p = [] := by
        rw [List.filter_eq_nil_iff]
        intro b hb hpb
        obtain ⟨other, ho, hb⟩ := List.mem_filterMap.1 hb
        exact hfirst (hother other (List.mem_cons_of_mem _ ho) b hb hpb ▸ ho)
      rw [List.filterMap_cons_some hlook, List.filter_cons_of_pos hp, hnone]
    · have hrec := ih hrest ((List.mem_cons.1 hmem).resolve_left (Ne.symm he))
        fun other ho => hother other (List.mem_cons_of_mem _ ho)
      cases hf : look first with
      | none => rwa [List.filterMap_cons_none hf]
      | some b =>
        have hpb : ¬p b = true := fun hpb => he (hother first List.mem_cons_self b hf hpb)
        rwa [List.filterMap_cons_some hf, List.filter_cons_of_neg hpb]

namespace Assoc

variable {κ α : Type} [DecidableEq κ]

/-- No two entries have the same key. -/
def Single (t : Assoc κ α) : Prop := t.keys.Nodup

omit [DecidableEq κ] in
theorem single_empty : (empty : Assoc κ α).Single := List.nodup_nil

theorem not_mem_keys_iff (t : Assoc κ α) (key : κ) : key ∉ t.keys ↔ t.contains key = false := by
  rw [← contains_iff_mem_keys, Bool.not_eq_true]

/-- A new key comes last. -/
theorem keys_insert_of_not_mem (t : Assoc κ α) {key : κ} (value : α) (h : key ∉ t.keys) :
    (t.insert key value).keys = t.keys ++ [key] := by
  rw [keys, toList_insert_of_not_mem t value h, List.map_append]
  rfl

theorem mem_keys_insert (t : Assoc κ α) (key other : κ) (value : α) :
    other ∈ (t.insert key value).keys ↔ other = key ∨ other ∈ t.keys := by
  by_cases h : key ∈ t.keys
  · rw [keys_insert_of_mem t value h]
    constructor
    · exact Or.inr
    · rintro (rfl | ho)
      · exact h
      · exact ho
  · rw [keys_insert_of_not_mem t value h, List.mem_append, List.mem_singleton, or_comm]

theorem Single.insert {t : Assoc κ α} (h : t.Single) (key : κ) (value : α) : (t.insert key value).Single := by
  by_cases hk : key ∈ t.keys
  · rw [Single, keys_insert_of_mem t value hk]
    exact h
  · rw [Single, keys_insert_of_not_mem t value hk]
    exact List.nodup_append.2 ⟨h, List.nodup_singleton key, fun a ha b hb => by
      rw [List.mem_singleton.1 hb]
      rintro rfl
      exact hk ha⟩

theorem size_insert_of_not_mem (t : Assoc κ α) {key : κ} (value : α) (h : key ∉ t.keys) :
    (t.insert key value).size = t.size + 1 := by
  rw [size, toList_insert_of_not_mem t value h, List.length_append]
  rfl

/-! ## Removal -/

theorem keys_erase (t : Assoc κ α) (key : κ) : (t.erase key).keys = t.keys.filter (· ≠ key) := by
  rw [keys, keys, erase, List.filter_map]
  rfl

theorem mem_keys_erase (t : Assoc κ α) (key other : κ) : other ∈ (t.erase key).keys ↔ other ∈ t.keys ∧ other ≠ key := by
  rw [keys_erase, List.mem_filter, decide_eq_true_eq]

theorem Single.erase {t : Assoc κ α} (h : t.Single) (key : κ) : (t.erase key).Single := by
  rw [Single, keys_erase]
  exact h.filter _

/-- The removal of a key that is not there changes nothing. -/
theorem erase_of_not_mem (t : Assoc κ α) {key : κ} (h : key ∉ t.keys) : t.erase key = t := by
  obtain ⟨l⟩ := t
  rw [erase]
  congr 1
  rw [List.filter_eq_self]
  intro entry he
  rw [decide_eq_true_eq]
  rintro rfl
  exact h (List.mem_map_of_mem he)

omit [DecidableEq κ] in
theorem size_eq_length_keys (t : Assoc κ α) : t.size = t.keys.length := (List.length_map _).symm

/-- The removal of a key that is there takes one entry. -/
theorem size_erase_of_mem {t : Assoc κ α} (h : t.Single) {key : κ} (hk : key ∈ t.keys) :
    (t.erase key).size + 1 = t.size := by
  have hpos : 0 < t.keys.length := List.length_pos_of_mem hk
  have hlen : (t.keys.erase key).length = t.keys.length - 1 := List.length_erase_of_mem hk
  rw [List.Nodup.erase_eq_filter h] at hlen
  rw [size_eq_length_keys, size_eq_length_keys, keys_erase]
  have hsame : t.keys.filter (fun other => other ≠ key) = t.keys.filter (fun other => other != key) := by
    apply List.filter_congr
    intro other _
    by_cases h : other = key <;> simp [h]
  rw [hsame, hlen]
  omega

/-! ## Entries -/

theorem mem_toList_of_find? {t : Assoc κ α} {key : κ} {value : α} (h : t.find? key = some value) :
    (key, value) ∈ t.toList := by
  obtain ⟨entry, he, rfl⟩ := Option.map_eq_some_iff.1 h
  have hk : entry.1 = key := by simpa using List.find?_some he
  subst hk
  exact List.mem_of_find?_eq_some he

/-- An entry of a table is found, if no other one has its key. -/
theorem find?_of_mem {t : Assoc κ α} (h : t.Single) {entry : κ × α} (he : entry ∈ t.toList) :
    t.find? entry.1 = some entry.2 := by
  obtain ⟨l⟩ := t
  induction l with
  | nil => cases he
  | cons first rest ih =>
    obtain ⟨hfirst, hrest⟩ := List.nodup_cons.1 h
    rcases List.mem_cons.1 he with rfl | he
    · simp [find?]
    · have hne : first.1 ≠ entry.1 := fun hkey => hfirst (hkey ▸ List.mem_map_of_mem he)
      have := ih hrest he
      simpa [find?, hne] using this

/-- The values of a table are those that its keys stand for, if no two entries have the same key. -/
theorem filterMap_keys {t : Assoc κ α} (h : t.Single) : t.keys.filterMap t.find? = t.values := by
  rw [keys, List.filterMap_map, values, ← List.filterMap_eq_map]
  exact List.filterMap_congr fun entry he => find?_of_mem h he

/-- The entries after an insertion are the new one and others that were there. -/
theorem mem_toList_insert {t : Assoc κ α} {key : κ} {value : α} {entry : κ × α}
    (h : entry ∈ (t.insert key value).toList) : entry = (key, value) ∨ entry ∈ t.toList := by
  obtain ⟨l⟩ := t
  induction l with
  | nil => exact Or.inl (List.mem_singleton.1 h)
  | cons first rest ih =>
    change entry ∈ insertList key value (first :: rest) at h
    rw [insertList] at h
    split at h
    · rcases List.mem_cons.1 h with h | h
      · exact Or.inl h
      · exact Or.inr (List.mem_cons_of_mem _ h)
    · rcases List.mem_cons.1 h with h | h
      · exact Or.inr (h ▸ List.mem_cons_self)
      · exact (ih h).imp_right (List.mem_cons_of_mem _)

/-- Many insertions under new keys that are distinct put the entries at the end, in their order. -/
theorem toList_insertAll {entries : List (κ × α)} {t : Assoc κ α} (hn : (entries.map Prod.fst).Nodup)
    (hnew : ∀ key ∈ entries.map Prod.fst, key ∉ t.keys) : (t.insertAll entries).toList = t.toList ++ entries := by
  induction entries generalizing t with
  | nil => exact (List.append_nil _).symm
  | cons first rest ih =>
    obtain ⟨hfirst, hrest⟩ := List.nodup_cons.1 hn
    have hkey : first.1 ∉ t.keys := hnew _ List.mem_cons_self
    have hlater : ∀ key ∈ rest.map Prod.fst, key ∉ (t.insert first.1 first.2).keys := by
      intro key hk hmem
      rcases (mem_keys_insert _ _ _ _).1 hmem with rfl | hmem
      · exact hfirst hk
      · exact hnew key (List.mem_cons_of_mem _ hk) hmem
    have h : ((t.insert first.1 first.2).insertAll rest).toList = _ := ih hrest hlater
    rw [toList_insert_of_not_mem _ _ hkey, List.append_assoc] at h
    exact h

theorem find?_insert (t : Assoc κ α) (key other : κ) (value : α) :
    (t.insert key value).find? other = if other = key then some value else t.find? other := by
  split
  · rename_i h
    rw [h, find?_insert_self]
  · rename_i h
    exact find?_insert_ne t value h

/-- What is not under a key in the first of two lists of entries is looked for in the second. -/
theorem find?_append (first second : List (κ × α)) (key : κ) :
    (⟨first ++ second⟩ : Assoc κ α).find? key = ((⟨first⟩ : Assoc κ α).find? key).or ((⟨second⟩ : Assoc κ α).find? key) := by
  simp only [find?, List.find?_append, Option.map_or]

/-- The order of the entries does not matter to what is found, if no two of them have the same key. -/
theorem find?_of_perm {t t' : Assoc κ α} (h : t.Single) (hperm : t.toList.Perm t'.toList) (key : κ) :
    t.find? key = t'.find? key := by
  have h' : t'.Single := (hperm.map Prod.fst).nodup_iff.1 h
  refine Option.ext fun value => ⟨fun hv => ?_, fun hv => ?_⟩
  · exact find?_of_mem h' (hperm.subset (mem_toList_of_find? hv))
  · exact find?_of_mem h (hperm.symm.subset (mem_toList_of_find? hv))

end Assoc
end TaskRunner
