import Mathlib.Data.List.Induction
import TaskRunner.Proofs.Lemmas.Table
import TaskRunner.Registry

/-!
# Batches of tasks

What becomes of a table of tasks when a batch is merged into it. Either no task of the batch has a key that is taken, and the table
goes on with the batch (`merge_of_fresh`), or there is a first one that has, and the batch is refused (`merge_of_firstTaken`).
-/

namespace TaskRunner
namespace Registry

variable {r r' : Registry} {batch earlier later : List Task} {t : Task} {f : Failure} {n : Nat}

/-- The entries that tasks make in a table: each is under its own key. -/
def entriesOf (batch : List Task) : List (String × Task) := batch.map fun t => (t.key, t)

/-- The key of a task is taken: a task of the table has it, or one that comes earlier in the batch. -/
def Taken (r : Registry) (earlier : List Task) (t : Task) : Prop := t.key ∈ r.table.keys ∨ ∃ u ∈ earlier, u.key = t.key

/-- No task of a batch has a key that is taken. -/
def Fresh (r : Registry) (batch : List Task) : Prop :=
  ∀ earlier t later, batch = earlier ++ t :: later → ¬r.Taken earlier t

/-- A task is the first one of a batch whose key is taken. -/
def FirstTaken (r : Registry) (batch : List Task) (t : Task) : Prop :=
  ∃ earlier later, batch = earlier ++ t :: later ∧ r.Taken earlier t ∧ r.Fresh earlier

theorem fresh_nil (r : Registry) : r.Fresh [] := by
  intro earlier t later h
  simp at h

/-- The beginning of a batch of new tasks is one. -/
theorem Fresh.of_append (h : r.Fresh (earlier ++ later)) : r.Fresh earlier := by
  rintro before t after rfl
  exact h before t (after ++ later) (by rw [List.append_assoc, List.cons_append])

/-- One more task whose key is not taken. -/
theorem Fresh.snoc (h : r.Fresh earlier) (ht : ¬r.Taken earlier t) : r.Fresh (earlier ++ [t]) := by
  intro before u after heq
  rcases List.eq_nil_or_concat after with rfl | ⟨after, last, rfl⟩
  · obtain ⟨rfl, hu⟩ := List.append_inj' heq rfl
    rw [← (List.cons.inj hu).1]
    exact ht
  · have heq' : earlier ++ [t] = (before ++ u :: after) ++ [last] := by
      rw [heq, List.concat_eq_append, List.append_assoc, List.cons_append]
    exact h before u after (List.append_inj' heq' rfl).1

/-- Either every task of a batch is new, or there is a first one that is not. -/
theorem fresh_or_firstTaken (r : Registry) (batch : List Task) : r.Fresh batch ∨ ∃ t, r.FirstTaken batch t := by
  induction batch using List.reverseRecOn with
  | nil => exact .inl (fresh_nil r)
  | append_singleton earlier t ih =>
    rcases ih with hfresh | ⟨u, before, after, rfl, htaken, hbefore⟩
    · by_cases ht : r.Taken earlier t
      · exact .inr ⟨t, earlier, [], rfl, ht, hfresh⟩
      · exact .inl (hfresh.snoc ht)
    · exact .inr ⟨u, before, after ++ [t], by rw [List.append_assoc, List.cons_append], htaken, hbefore⟩

/-- The keys of new tasks are distinct. -/
theorem Fresh.nodup (h : r.Fresh batch) : (batch.map Task.key).Nodup := by
  induction batch using List.reverseRecOn with
  | nil => exact List.nodup_nil
  | append_singleton earlier t ih =>
    have ht : ¬r.Taken earlier t := h earlier t [] rfl
    rw [List.map_append]
    refine List.nodup_append.2 ⟨ih h.of_append, List.nodup_singleton _, ?_⟩
    rintro key hkey other hother rfl
    obtain ⟨u, hu, hkey⟩ := List.mem_map.1 hkey
    exact ht (.inr ⟨u, hu, hkey.trans (List.mem_singleton.1 hother)⟩)

/-- No new task has the key of a task of the table. -/
theorem Fresh.not_mem_keys (h : r.Fresh batch) {key : String} (hkey : key ∈ batch.map Task.key) : key ∉ r.table.keys := by
  obtain ⟨t, ht, rfl⟩ := List.mem_map.1 hkey
  obtain ⟨earlier, later, rfl⟩ := List.append_of_mem ht
  exact fun hmem => h earlier t later rfl (.inl hmem)

/-- The tasks of a batch are new if no two of them have the same key and none has the key of a task of the table. -/
theorem fresh_iff (r : Registry) (batch : List Task) :
    r.Fresh batch ↔ (batch.map Task.key).Nodup ∧ ∀ key ∈ batch.map Task.key, key ∉ r.table.keys := by
  refine ⟨fun h => ⟨h.nodup, fun _ => h.not_mem_keys⟩, ?_⟩
  rintro ⟨hnodup, hnew⟩ earlier t later rfl (htable | ⟨u, hu, hkey⟩)
  · exact hnew t.key (List.mem_map_of_mem (List.mem_append_right _ List.mem_cons_self)) htable
  · rw [List.map_append, List.map_cons] at hnodup
    exact (List.nodup_append.1 hnodup).2.2 u.key (List.mem_map_of_mem hu) t.key List.mem_cons_self hkey

theorem keys_entriesOf (batch : List Task) : (entriesOf batch).map Prod.fst = batch.map Task.key := List.map_map

/-! ## Collecting -/

theorem taken_iff (r : Registry) (earlier : List Task) (t : Task) :
    (r.table.contains t.key = true ∨ (⟨entriesOf earlier⟩ : Assoc String Task).contains t.key = true) ↔ r.Taken earlier t := by
  have hkeys : (⟨entriesOf earlier⟩ : Assoc String Task).keys = earlier.map Task.key := keys_entriesOf earlier
  rw [Assoc.contains_iff_mem_keys, Assoc.contains_iff_mem_keys, hkeys, List.mem_map]
  rfl

/-- A task whose key is taken is refused. -/
theorem collect_taken (ht : r.Taken earlier t) (later : List Task) :
    r.collect ⟨entriesOf earlier⟩ (t :: later) = .error (.duplicateTask t.name) := by
  rw [collect, if_pos ((taken_iff r earlier t).2 ht)]

/-- A task whose key is not taken joins those before it. -/
theorem collect_new (ht : ¬r.Taken earlier t) (later : List Task) :
    r.collect ⟨entriesOf earlier⟩ (t :: later) = r.collect ⟨entriesOf (earlier ++ [t])⟩ later := by
  have hkey : t.key ∉ (⟨entriesOf earlier⟩ : Assoc String Task).keys := by
    rw [← Assoc.contains_iff_mem_keys]
    exact fun h => ht ((taken_iff r earlier t).1 (.inr h))
  have hinsert : (⟨entriesOf earlier⟩ : Assoc String Task).insert t.key t = ⟨entriesOf (earlier ++ [t])⟩ := by
    have h := Assoc.toList_insert_of_not_mem _ t hkey
    have happend : entriesOf (earlier ++ [t]) = entriesOf earlier ++ [(t.key, t)] := List.map_append
    rw [happend]
    exact congrArg Assoc.mk h
  rw [collect, if_neg fun h => ht ((taken_iff r earlier t).1 h), hinsert]

/-- New tasks at the beginning of a batch are collected. -/
theorem collect_fresh (h : r.Fresh earlier) (later : List Task) :
    r.collect Assoc.empty (earlier ++ later) = r.collect ⟨entriesOf earlier⟩ later := by
  induction earlier using List.reverseRecOn generalizing later with
  | nil => rfl
  | append_singleton before t ih =>
    rw [List.append_assoc, ih h.of_append]
    exact collect_new (h before t [] rfl) later

/-! ## Merging -/

/-- A batch of new tasks comes after the tasks of the table, in its order. -/
theorem merge_of_fresh (h : r.Fresh batch) :
    r.merge batch = .ok (⟨⟨r.table.toList ++ entriesOf batch⟩⟩, batch.length) := by
  have hcollect : r.collect Assoc.empty batch = .ok ⟨entriesOf batch⟩ := by
    have h' := collect_fresh h []
    rw [List.append_nil] at h'
    exact h'
  have hinsert : r.table.insertAll (entriesOf batch) = ⟨r.table.toList ++ entriesOf batch⟩ := by
    refine congrArg Assoc.mk (Assoc.toList_insertAll ?_ fun key hkey => ?_)
    · rw [keys_entriesOf]
      exact h.nodup
    · rw [keys_entriesOf] at hkey
      exact h.not_mem_keys hkey
  have hsize : (⟨entriesOf batch⟩ : Assoc String Task).size = batch.length := List.length_map _
  rw [merge, hcollect]
  show Except.ok (Registry.mk (r.table.insertAll (entriesOf batch)), _) = _
  rw [hinsert, hsize]

/-- A batch with a task whose key is taken is refused, in the name of the first one. -/
theorem merge_of_firstTaken (h : r.FirstTaken batch t) : r.merge batch = .error (.duplicateTask t.name) := by
  obtain ⟨earlier, later, rfl, ht, hearlier⟩ := h
  rw [merge, collect_fresh hearlier, collect_taken ht]
  rfl

theorem merge_eq_ok (h : r.merge batch = .ok (r', n)) :
    r.Fresh batch ∧ r'.table.toList = r.table.toList ++ entriesOf batch ∧ n = batch.length := by
  rcases fresh_or_firstTaken r batch with hfresh | ⟨t, ht⟩
  · rw [merge_of_fresh hfresh] at h
    cases h
    exact ⟨hfresh, rfl, rfl⟩
  · rw [merge_of_firstTaken ht] at h
    cases h

theorem merge_eq_error_iff : r.merge batch = .error f ↔ ∃ t, r.FirstTaken batch t ∧ f = .duplicateTask t.name := by
  constructor
  · intro h
    rcases fresh_or_firstTaken r batch with hfresh | ⟨t, ht⟩
    · rw [merge_of_fresh hfresh] at h
      cases h
    · rw [merge_of_firstTaken ht] at h
      cases h
      exact ⟨t, ht, rfl⟩
  · rintro ⟨t, ht, rfl⟩
    exact merge_of_firstTaken ht

/-- A task of the merged table is of the batch, or was there before. -/
theorem mem_of_merge (h : r.merge batch = .ok (r', n)) {entry : String × Task} (he : entry ∈ r'.table.toList) :
    entry ∈ r.table.toList ∨ entry.2 ∈ batch := by
  rw [(merge_eq_ok h).2.1, List.mem_append] at he
  refine he.imp_right fun he => ?_
  obtain ⟨t, ht, rfl⟩ := List.mem_map.1 he
  exact ht

end Registry
end TaskRunner
