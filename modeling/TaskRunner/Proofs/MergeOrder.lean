import TaskRunner.Proofs.HelpListing

/-!
# Merging in parts

Two mappings that have no key in common may be merged one after the other, in either order, or in one call: all three succeed or
none does (`merge_in_any_order`), since each asks whether the tasks of both are new to the table and to one another. The table comes
out the same in the first way and in the last; the order of the calls shows in the order of the tasks alone.
-/

namespace TaskRunner
namespace Manager

open Registry

variable {m : Manager} {mapping first second : Assoc String Task} {n : Nat} {w : World} {state : Manager × World}

/-- A manager with a batch after the tasks of its table. -/
def extended (m : Manager) (batch : List Task) : Manager :=
  { m with registry := ⟨⟨m.registry.table.toList ++ entriesOf batch⟩⟩ }

/-- Merges two mappings, one after the other; gives how many tasks have come. -/
def mergeInTurn (first second : Assoc String Task) : Held Nat := do
  let n ← (Call.merge first).perform
  let k ← (Call.merge second).perform
  return n + k

theorem keys_extended (m : Manager) (batch : List Task) :
    (m.extended batch).registry.table.keys = m.registry.table.keys ++ batch.map Task.key := by
  show (m.registry.table.toList ++ entriesOf batch).map Prod.fst = _
  rw [List.map_append, keys_entriesOf]
  rfl

theorem tasks_extended (m : Manager) (batch : List Task) : (m.extended batch).registry.tasks = m.registry.tasks ++ batch := by
  show (m.registry.table.toList ++ entriesOf batch).map Prod.snd = _
  have hbatch : (entriesOf batch).map Prod.snd = batch := by
    rw [entriesOf, List.map_map]
    exact List.map_id batch
  rw [List.map_append, hbatch]
  rfl

theorem extended_append (m : Manager) (a b : List Task) : m.extended (a ++ b) = (m.extended a).extended b := by
  simp only [extended, entriesOf, List.map_append, List.append_assoc]

/-- The tasks of two batches are new together if those of the first are, and then those of the second. -/
theorem fresh_append_iff (m : Manager) (a b : List Task) :
    m.registry.Fresh (a ++ b) ↔ m.registry.Fresh a ∧ (m.extended a).registry.Fresh b := by
  rw [fresh_iff, fresh_iff, fresh_iff, keys_extended, List.map_append, List.nodup_append]
  constructor
  · rintro ⟨⟨ha, hb, hapart⟩, hnew⟩
    refine ⟨⟨ha, fun key hkey => hnew key (List.mem_append_left _ hkey)⟩, hb, fun key hkey hmem => ?_⟩
    rcases List.mem_append.1 hmem with htable | hfirst
    · exact hnew key (List.mem_append_right _ hkey) htable
    · exact hapart key hfirst key hkey rfl
  · rintro ⟨⟨ha, hnewa⟩, hb, hnewb⟩
    refine ⟨⟨ha, hb, ?_⟩, fun key hkey => ?_⟩
    · rintro key hkey other hother rfl
      exact hnewb key hother (List.mem_append_right _ hkey)
    · rcases List.mem_append.1 hkey with hkey | hkey
      · exact hnewa key hkey
      · exact fun htable => hnewb key hkey (List.mem_append_left _ htable)

/-- It does not matter to what is new in which order two batches come. -/
theorem fresh_append_comm (r : Registry) (a b : List Task) : r.Fresh (a ++ b) ↔ r.Fresh (b ++ a) := by
  have hperm : ((a ++ b).map Task.key).Perm ((b ++ a).map Task.key) := List.perm_append_comm.map _
  rw [fresh_iff, fresh_iff, hperm.nodup_iff]
  exact and_congr_right fun _ => forall_congr' fun key => by rw [hperm.mem_iff]

/-! ## One call and two -/

/-- A call that merges a mapping ends if and only if its tasks are new, and then they come after the others. -/
theorem perform_merge_eq_ok_iff : (Call.merge mapping).perform (m, w) = .ok n state ↔
    m.registry.Fresh mapping.values ∧ n = mapping.values.length ∧ state = (m.extended mapping.values, w) := by
  rw [perform_apply, call, merge]
  rcases fresh_or_firstTaken m.registry mapping.values with hfresh | ⟨t, ht⟩
  · rw [merge_of_fresh hfresh]
    constructor
    · intro h
      cases h
      exact ⟨hfresh, rfl, rfl⟩
    · rintro ⟨-, rfl, rfl⟩
      rfl
  · have hstale : ¬m.registry.Fresh mapping.values := by
      obtain ⟨earlier, later, heq, htaken, -⟩ := ht
      exact fun hfresh => hfresh earlier t later heq htaken
    rw [merge_of_firstTaken ht]
    constructor
    · intro h
      cases h
    · exact fun h => absurd h.1 hstale

theorem mergeInTurn_apply (first second : Assoc String Task) (state : Manager × World) :
    mergeInTurn first second state =
      match (Call.merge first).perform state with
      | .ok n state' =>
        match (Call.merge second).perform state' with
        | .ok k state'' => .ok (n + k) state''
        | .error stop state'' => .error stop state''
      | .error stop state' => .error stop state' := by
  rw [mergeInTurn, Held.bind_apply]
  cases (Call.merge first).perform state with
  | error stop state' => rfl
  | ok n state' =>
    dsimp only
    rw [Held.bind_apply]
    cases (Call.merge second).perform state' <;> rfl

/-- Two calls that merge mappings both end if and only if the tasks of both are new together. -/
theorem mergeInTurn_eq_ok_iff : mergeInTurn first second (m, w) = .ok n state ↔
    m.registry.Fresh (first.values ++ second.values) ∧ n = first.values.length + second.values.length ∧
      state = (m.extended (first.values ++ second.values), w) := by
  rw [fresh_append_iff, extended_append, mergeInTurn_apply]
  cases hfirst : (Call.merge first).perform (m, w) with
  | error stop state' =>
    constructor
    · intro h
      cases h
    · rintro ⟨⟨hfresh, -⟩, -, -⟩
      rw [perform_merge_eq_ok_iff.2 ⟨hfresh, rfl, rfl⟩] at hfirst
      cases hfirst
  | ok n₁ state₁ =>
    obtain ⟨hfresh, rfl, rfl⟩ := perform_merge_eq_ok_iff.1 hfirst
    dsimp only
    cases hsecond : (Call.merge second).perform (m.extended first.values, w) with
    | error stop state' =>
      constructor
      · intro h
        cases h
      · rintro ⟨⟨-, hfresh'⟩, -, -⟩
        rw [perform_merge_eq_ok_iff.2 ⟨hfresh', rfl, rfl⟩] at hsecond
        cases hsecond
    | ok n₂ state₂ =>
      obtain ⟨hfresh', rfl, rfl⟩ := perform_merge_eq_ok_iff.1 hsecond
      constructor
      · intro h
        cases h
        exact ⟨⟨hfresh, hfresh'⟩, rfl, rfl⟩
      · rintro ⟨-, rfl, rfl⟩
        rfl

/-! ## The order of two batches -/

/-- Two managers have the same tasks, in whatever order: every name finds the same one, there are as many, and the help has the same
lines. -/
structure SameTasks (m m' : Manager) : Prop where
  find? : ∀ name, m.registry.find? name = m'.registry.find? name
  size : m.registry.size = m'.registry.size
  help : m.registry.help.Perm m'.registry.help

/-- Tasks that are new come to the same in whatever order they come. -/
theorem sameTasks_extended {batch batch' : List Task} (hfresh : m.registry.Fresh batch) (hperm : batch.Perm batch') :
    (m.extended batch).SameTasks (m.extended batch') where
  find? name := by
    have hsingle : (⟨entriesOf batch⟩ : Assoc String Task).Single := by
      show ((entriesOf batch).map Prod.fst).Nodup
      rw [keys_entriesOf]
      exact hfresh.nodup
    have hentries : (entriesOf batch).Perm (⟨entriesOf batch'⟩ : Assoc String Task).toList := hperm.map _
    have hsame := Assoc.find?_of_perm hsingle hentries (keyOf name)
    show Assoc.find? ⟨_ ++ entriesOf batch⟩ _ = Assoc.find? ⟨_ ++ entriesOf batch'⟩ _
    rw [Assoc.find?_append, Assoc.find?_append, hsame]
  size := by
    have hlength : (entriesOf batch).length = (entriesOf batch').length := (hperm.map _).length_eq
    show (_ ++ entriesOf batch).length = (_ ++ entriesOf batch').length
    rw [List.length_append, List.length_append, hlength]
  help := by
    refine help_perm ?_
    rw [tasks_extended, tasks_extended]
    exact hperm.append_left _

/-- Entries under keys that a mapping does not have come after its values. -/
theorem values_insertAll {a b : Assoc String Task} (hb : b.Single) (hapart : ∀ key ∈ b.keys, key ∉ a.keys) :
    (a.insertAll b.toList).values = a.values ++ b.values := by
  rw [Assoc.values, Assoc.toList_insertAll hb hapart, List.map_append]
  rfl

/-- Two mappings that have no key in common, merged into any manager. The two calls, one after the other, end as one call with both
does: with the same table, and the two counts add up to the one. If the two calls end in one order, they end in the other, with the
same count and the same tasks. A call with both that is stopped changes nothing. -/
theorem merge_in_any_order (m : Manager) (w : World) (a b : Assoc String Task) (hb : b.Single)
    (hapart : ∀ key ∈ b.keys, key ∉ a.keys) :
    (∀ n state, mergeInTurn a b (m, w) = .ok n state ↔ (Call.merge (a.insertAll b.toList)).perform (m, w) = .ok n state) ∧
    ((∃ n state, mergeInTurn a b (m, w) = .ok n state) ↔ ∃ n state, mergeInTurn b a (m, w) = .ok n state) ∧
    (∀ n state n' state', mergeInTurn a b (m, w) = .ok n state → mergeInTurn b a (m, w) = .ok n' state' →
      n = a.size + b.size ∧ n' = n ∧ state.1.SameTasks state'.1) ∧
    ∀ stop state, (Call.merge (a.insertAll b.toList)).perform (m, w) = .error stop state → state = (m, w) := by
  have hlength (t : Assoc String Task) : t.values.length = t.size := List.length_map _
  refine ⟨fun n state => ?_, ⟨?_, ?_⟩, ?_, fun stop state h => ?_⟩
  · rw [mergeInTurn_eq_ok_iff, perform_merge_eq_ok_iff, values_insertAll hb hapart, List.length_append]
  · rintro ⟨n, state, h⟩
    have hfresh := (fresh_append_comm _ _ _).1 (mergeInTurn_eq_ok_iff.1 h).1
    exact ⟨_, _, mergeInTurn_eq_ok_iff.2 ⟨hfresh, rfl, rfl⟩⟩
  · rintro ⟨n, state, h⟩
    have hfresh := (fresh_append_comm _ _ _).1 (mergeInTurn_eq_ok_iff.1 h).1
    exact ⟨_, _, mergeInTurn_eq_ok_iff.2 ⟨hfresh, rfl, rfl⟩⟩
  · intro n state n' state' h h'
    obtain ⟨hfresh, rfl, rfl⟩ := mergeInTurn_eq_ok_iff.1 h
    obtain ⟨-, rfl, rfl⟩ := mergeInTurn_eq_ok_iff.1 h'
    refine ⟨?_, Nat.add_comm _ _, sameTasks_extended hfresh List.perm_append_comm⟩
    rw [hlength, hlength]
  · rw [perform_apply, call] at h
    cases hmerge : m.merge (a.insertAll b.toList).values with
    | error f =>
      rw [hmerge] at h
      cases h
      rfl
    | ok merged =>
      rw [hmerge] at h
      cases h

namespace Refused

/-- Each mapping has its task under the key of the task of the other. -/
def tested : Assoc String Task := ⟨[("lint", task "Test")]⟩

def linted : Assoc String Task := ⟨[("test", task "lint")]⟩

theorem fresh_both : manager.registry.Fresh (tested.values ++ linted.values) := by
  rw [fresh_iff, keys_manager]
  decide +kernel

end Refused

open Refused in
/-- Tasks that are under the keys of one another in their mappings are merged in both orders. -/
theorem merge_in_any_order_crossed : linted.Single ∧ (∀ key ∈ linted.keys, key ∉ tested.keys) ∧
    (∃ n state, mergeInTurn linted tested (manager, world) = .ok n state) ∧
    ∃ state, (Call.merge (tested.insertAll linted.toList)).perform (manager, world) = .ok 2 state := by
  have hsingle : linted.Single := List.nodup_singleton _
  have hapart : ∀ key ∈ linted.keys, key ∉ tested.keys := by decide
  have h := merge_in_any_order manager world tested linted hsingle hapart
  have hturn : mergeInTurn tested linted (manager, world) = .ok 2 _ := mergeInTurn_eq_ok_iff.2 ⟨fresh_both, rfl, rfl⟩
  exact ⟨hsingle, hapart, h.2.1.1 ⟨2, _, hturn⟩, _, (h.1 2 _).1 hturn⟩

end Manager
end TaskRunner
