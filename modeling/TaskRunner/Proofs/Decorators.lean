import Mathlib.Data.List.Perm.Subperm
import TaskRunner.Proofs.Lemmas.Histories

/-!
# Decorators that were never applied

A name that is declared alone waits for its body, and a Runfile in which one still waits at the end is ill formed. A decorator can
get lost all the same: an application takes the name off the waiting ones before it looks at the body, so that an application that
is refused and caught leaves nothing to wait for (`forfeited`). `evaluate_applies_all_decorators_iff` says when all decorators have
been applied.
-/

namespace TaskRunner

namespace Declarations

variable {d d' : Declarations}

/-! ## What becomes of reservations -/

/-- The reservation that a request gives its body. -/
def fills (d : Declarations) (q : Request) : List Reservation :=
  match q, (d.answer q).1 with
  | .apply r _, .task _ => [r]
  | _, _ => []

/-- The reservation that a request loses: its key waits, and the body is none that can be run. -/
def forfeits (d : Declarations) : Request → List Reservation
  | .apply r body => if d.reserved.contains r.key ∧ body.isCallable = false then [r] else []
  | _ => []

/-- The reservation that a request gives its body although its key no longer waits. -/
def regains (d : Declarations) (q : Request) : List Reservation :=
  (d.fills q).filter fun r => !d.reserved.contains r.key

/-- The reservations that get their bodies along a history. -/
def applied : Declarations → List Request → List Reservation := along fills

/-- The reservations that are lost along a history. -/
def forfeited : Declarations → List Request → List Reservation := along forfeits

/-- The reservations that get their bodies along a history when their keys no longer wait. -/
def regained : Declarations → List Request → List Reservation := along regains

/-- A request leaves as many reservations waiting as there were, with the one that it hands out or that comes back, and without the
one that it gives its body or loses. -/
theorem balance_step (hd : d.WellFormed) (hopen : d.closed = false) {q : Request} (hq : Genuine q) :
    (d.handsOut q).length + (d.regains q).length + d.reserved.size =
      (d.fills q).length + (d.forfeits q).length + (d.perform q).reserved.size := by
  have hstep := step d q
  unfold regains handsOut fills
  generalize (d.answer q).1 = a at hstep ⊢
  generalize d.perform q = d' at hstep ⊢
  cases hstep with
  | closed _ hclosed =>
    rw [hopen] at hclosed
    cases hclosed
  | held => rfl
  | taken => rfl
  | illFormed => rfl
  | declared => rfl
  | reserved name _ hfree =>
    have hsize := d.reserved.size_insert_of_not_mem name (not_mem_reserved_of_free hfree)
    simp only [List.filter_nil, List.length_nil, List.length_singleton, forfeits, withReservation, hsize]
    omega
  | lost r body f hrefused =>
    by_cases hk : r.key ∈ d.reserved.keys
    -- a key that waits has no task yet, so that only the body can have been refused
    · have hbody : body.isCallable = false := by
        rcases hrefused with h | h | h
        · rw [hopen] at h
          cases h
        · exact h
        · have hq' : r.key = keyOf r.name := hq
          rw [← hq', Assoc.contains_iff_mem_keys] at h
          exact absurd h (hd.apart r.key hk)
      have hsize := Assoc.size_erase_of_mem hd.waiting hk
      have hc := (Assoc.contains_iff_mem_keys _ _).2 hk
      simp only [List.filter_nil, List.length_nil, forfeits, hc, hbody, and_self, if_true, List.length_singleton, released]
      omega
    · have hc := (Assoc.not_mem_keys_iff _ _).1 hk
      simp only [List.filter_nil, List.length_nil, forfeits, hc, Bool.false_eq_true, false_and, if_false, released,
        Assoc.erase_of_not_mem _ hk]
  | applied r body _ hbody hfree =>
    by_cases hk : r.key ∈ d.reserved.keys
    · have hsize := Assoc.size_erase_of_mem hd.waiting hk
      have hc := (Assoc.contains_iff_mem_keys _ _).2 hk
      simp only [List.length_nil, forfeits, hc, hbody, Bool.true_eq_false, and_false, if_false, List.length_singleton,
        released, withTask, Bool.not_true, Bool.false_eq_true, not_false_eq_true, List.filter_cons_of_neg, List.filter_nil]
      omega
    · have hc := (Assoc.not_mem_keys_iff _ _).1 hk
      simp only [List.length_nil, forfeits, hc, Bool.false_eq_true, false_and, if_false, List.length_singleton, released,
        withTask, Bool.not_false, List.filter_cons_of_pos, List.filter_nil, Assoc.erase_of_not_mem _ hk]

/-- A history leaves as many reservations waiting as it has handed out or brought back, less those that it has given their bodies
or lost. -/
theorem balance {history : List Request} (hq : ∀ q ∈ history, Genuine q) (hd : d.WellFormed) (hopen : d.closed = false) :
    (d.returned history).length + (d.regained history).length + d.reserved.size =
      (d.applied history).length + (d.forfeited history).length + (d.performAll history).reserved.size := by
  induction history generalizing d with
  | nil => simp [returned, regained, applied, forfeited, along]
  | cons q rest ih =>
    have hgenuine := hq q List.mem_cons_self
    have hstep := balance_step hd hopen hgenuine
    have hrest := ih (fun q' hq' => hq q' (List.mem_cons_of_mem _ hq')) ((step d q).wellFormed hgenuine hd)
      ((step d q).frame.1.trans hopen)
    simp only [returned, regained, applied, forfeited, along, List.length_append, performAll_cons] at hrest ⊢
    omega

/-! ## What has got its body -/

theorem mem_fills {q : Request} {r : Reservation} (h : r ∈ d.fills q) : ∃ body, q = .apply r body ∧
    d.committed.contains (keyOf r.name) = false ∧
      (d.perform q).committed.find? (keyOf r.name) = some (d.taskOf r.name r.doc body) := by
  have hstep := step d q
  unfold fills at h
  generalize (d.answer q).1 = a at hstep h
  generalize d.perform q = d' at hstep ⊢
  cases hstep with
  | applied r' body _ _ hfree =>
    rw [List.mem_singleton.1 h]
    exact ⟨body, rfl, hfree, Assoc.find?_insert_self _ _ _⟩
  | closed | held | taken | illFormed | declared | reserved | lost => simp at h

/-- A reservation that has got its body is a task of its name, and its key had none before. -/
theorem mem_applied {history : List Request} {r : Reservation} (h : r ∈ d.applied history) :
    (∃ body, .apply r body ∈ history) ∧ d.committed.find? (keyOf r.name) = none ∧
      ∃ t, (d.performAll history).committed.find? (keyOf r.name) = some t ∧ t.name = r.name := by
  induction history generalizing d with
  | nil => cases h
  | cons q rest ih =>
    rcases List.mem_append.1 h with h | h
    · obtain ⟨body, rfl, hfree, hfind⟩ := mem_fills h
      refine ⟨⟨body, List.mem_cons_self⟩, Option.not_isSome_iff_eq_none.1 fun hs => ?_, _, find?_performAll rest hfind, rfl⟩
      rw [Assoc.contains, hs] at hfree
      cases hfree
    · obtain ⟨⟨body, hmem⟩, hnone, ht⟩ := ih h
      refine ⟨⟨body, List.mem_cons_of_mem _ hmem⟩, Option.eq_none_iff_forall_ne_some.2 fun t hfind => ?_, ht⟩
      rw [(step d q).find?_committed hfind] at hnone
      cases hnone

/-- No two reservations of one key get their bodies. -/
theorem nodup_applied (d : Declarations) (history : List Request) :
    ((d.applied history).map fun r => keyOf r.name).Nodup := by
  induction history generalizing d with
  | nil => exact List.nodup_nil
  | cons q rest ih =>
    rw [applied, along, List.map_append]
    refine List.nodup_append.2 ⟨?_, ih (d.perform q), ?_⟩
    · unfold fills
      split
      · exact List.nodup_singleton _
      · exact List.nodup_nil
    · intro key hkey other hother
      obtain ⟨r, hr, rfl⟩ := List.mem_map.1 hkey
      obtain ⟨r', hr', rfl⟩ := List.mem_map.1 hother
      obtain ⟨body, -, -, hfind⟩ := mem_fills hr
      intro he
      rw [he, (mem_applied hr').2.1] at hfind
      cases hfind

/-- Where every application is of a reservation that the history hands out, and nothing waits in the end, every reservation has
got its body if and only if as many have come back as were lost. -/
theorem returned_perm_applied_iff {history : List Request} (hd : d.WellFormed) (hopen : d.closed = false)
    (hnone : d.reserved.size = 0) (happlies : ∀ r body, .apply r body ∈ history → r ∈ d.returned history)
    (hsettled : (d.performAll history).reserved.size = 0) :
    (d.returned history).Perm (d.applied history) ↔ (d.forfeited history).length = (d.regained history).length := by
  have hgenuine := genuine_of_applies happlies
  have hbalance := balance hgenuine hd hopen
  constructor
  · intro hperm
    have := hperm.length_eq
    omega
  · intro heq
    have hsub : d.applied history ⊆ d.returned history := fun r hr => by
      obtain ⟨body, hmem⟩ := (mem_applied hr).1
      exact happlies r body hmem
    have hsubperm := List.subperm_of_subset (List.Nodup.of_map _ (nodup_applied d history)) hsub
    exact (hsubperm.perm_of_length_le (by omega)).symm

end Declarations

namespace Runfile

open Run Declarations

/-- What becomes of the decorators of a Runfile. -/
structure Ledger where
  /-- The decorators that calls of `run` have returned. -/
  returned : List Reservation
  /-- Those that have been applied with success. -/
  applied : List Reservation
  /-- Those that were waiting and have been applied to what is no body. -/
  forfeited : List Reservation
  /-- Those that have been applied with success when they no longer waited. -/
  regained : List Reservation

/-- What becomes of the decorators when the Runfile at a path is evaluated in a scope. -/
def ledgerOf (scope : ScopeId) (path : Path) (w : World) : Ledger where
  returned := (w.declarationsOf scope).returned (historyOf scope path w)
  applied := (w.declarationsOf scope).applied (historyOf scope path w)
  forfeited := (w.declarationsOf scope).forfeited (historyOf scope path w)
  regained := (w.declarationsOf scope).regained (historyOf scope path w)

/-- The decorators of a Runfile that is evaluated to tasks. No two decorators of one key can both be applied with success, so that
the returned ones are the applied ones, in some order, exactly if every one of them has been applied. That is so if and only if as
many were regained as were forfeited; and whatever has been applied is the one task of its name. -/
theorem evaluate_applies_all_decorators_iff {directory path : Path} {scope : ScopeId} {w w₀ w' : World} {tasks : List Task}
    (hscope : openScope directory w = .ok scope w₀) (h : evaluate scope path w₀ = .ok tasks w') :
    ((ledgerOf scope path w₀).returned.Perm (ledgerOf scope path w₀).applied ↔
      (ledgerOf scope path w₀).forfeited.length = (ledgerOf scope path w₀).regained.length) ∧
    ∀ r ∈ (ledgerOf scope path w₀).applied, ∃ t, t.name = r.name ∧ tasks.filter (·.name = r.name) = [t] := by
  obtain ⟨l, -, hfirst, happlies, hsettle⟩ := settle_of_evaluate hscope h
  obtain ⟨hnone, rfl⟩ := settle_eq_ok hsettle
  have hwell := wellFormed_initial (Location.path l) scope
  unfold ledgerOf
  rw [hfirst]
  refine ⟨returned_perm_applied_iff hwell rfl rfl happlies hnone, fun r hr => ?_⟩
  obtain ⟨-, -, t, ht, hname⟩ := mem_applied hr
  exact ⟨t, hname, (wellFormed_performAll (genuine_of_applies happlies) hwell).filter_tasks ht hname⟩

namespace LostDecorator

open AtRoot

/-- A name is declared, and what is no body is given to it. -/
def lost : List Statement := [.declare (.text "Build") "build", .attempt [.apply "build" (.data (.int 5))]]

/-- The decorator is applied once more, to a body. -/
def recovered : List Statement := lost ++ [.apply "build" (.steps [])]

/-- What the evaluation of given statements comes to. -/
theorem evaluate_world {statements : List Statement} {tasks : List Task}
    (hall : (outcome (executeAll 0 statements) (starting 0 path (opened (world statements) []))).toOption = some ())
    (hsettle : ((after (executeAll 0 statements) (starting 0 path (opened (world statements) []))).declarationsOf 0).settle =
      .ok tasks) : ∃ w', evaluate 0 path (opened (world statements) []) = .ok tasks w' := by
  have hopen : ((opened (world statements) []).declarationsOf 0).closed = false := by
    rw [declarationsOf_world]
    rfl
  exact ⟨_, evaluate_of_statements hopen (readStatements_world statements) (eq_ok_of_outcome hall) hsettle⟩

theorem ledgerOf_world (statements : List Statement) :
    ledgerOf 0 path (opened (world statements) []) =
      let history := requestsAll 0 statements (starting 0 path (opened (world statements) []))
      let first := initial (Location.path []) 0
      ⟨first.returned history, first.applied history, first.forfeited history, first.regained history⟩ := by
  rw [ledgerOf, historyOf_eq (readStatements_world statements), declarationsOf_world]

end LostDecorator

open AtRoot LostDecorator in
/-- An evaluation may give tasks although a decorator that it has returned was never applied with success. -/
theorem evaluate_applies_all_decorators_false :
    ∃ w', openScope directory (world lost) = .ok 0 (opened (world lost) []) ∧
      evaluate 0 path (opened (world lost) []) = .ok [] w' ∧
      (ledgerOf 0 path (opened (world lost) [])).returned = [⟨"build", "Build", none⟩] ∧
      (ledgerOf 0 path (opened (world lost) [])).applied = [] := by
  have hsettle : ((after (executeAll 0 lost) (starting 0 path (opened (world lost) []))).declarationsOf 0).settle = .ok [] := by
    have hnone : ((after (executeAll 0 lost) (starting 0 path (opened (world lost) []))).declarationsOf 0).reserved.values = [] := by
      decide +kernel
    have htasks : ((after (executeAll 0 lost) (starting 0 path (opened (world lost) []))).declarationsOf 0).tasks.length = 0 := by
      decide +kernel
    rw [settle, hnone, List.length_eq_zero_iff.1 htasks]
  obtain ⟨w', h⟩ := evaluate_world (by decide +kernel) hsettle
  rw [ledgerOf_world]
  exact ⟨w', openScope_world lost, h, by decide +kernel, by decide +kernel⟩

open AtRoot LostDecorator in
/-- A decorator that was forfeited and regained has been applied after all. -/
theorem evaluate_applies_all_decorators_recovered :
    ∃ tasks w', evaluate 0 path (opened (world recovered) []) = .ok tasks w' ∧
      (ledgerOf 0 path (opened (world recovered) [])).forfeited = [⟨"build", "Build", none⟩] ∧
      (ledgerOf 0 path (opened (world recovered) [])).returned.Perm
        (ledgerOf 0 path (opened (world recovered) [])).applied ∧
      ∃ t, t.name = "Build" ∧ tasks.filter (·.name = "Build") = [t] := by
  have hsettle : ((after (executeAll 0 recovered) (starting 0 path (opened (world recovered) []))).declarationsOf 0).settle =
      .ok ((after (executeAll 0 recovered) (starting 0 path (opened (world recovered) []))).declarationsOf 0).tasks := by
    have hnone : ((after (executeAll 0 recovered) (starting 0 path (opened (world recovered) []))).declarationsOf 0).reserved.values =
        [] := by decide +kernel
    rw [settle, hnone]
  obtain ⟨w', h⟩ := evaluate_world (by decide +kernel) hsettle
  have hall := evaluate_applies_all_decorators_iff (openScope_world recovered) h
  have hledger := ledgerOf_world recovered
  have happlied : (ledgerOf 0 path (opened (world recovered) [])).applied = [⟨"build", "Build", none⟩] := by
    rw [hledger]
    decide +kernel
  have hforfeited : (ledgerOf 0 path (opened (world recovered) [])).forfeited = [⟨"build", "Build", none⟩] := by
    rw [hledger]
    decide +kernel
  have hregained : (ledgerOf 0 path (opened (world recovered) [])).regained = [⟨"build", "Build", none⟩] := by
    rw [hledger]
    decide +kernel
  refine ⟨_, w', h, hforfeited, hall.1.2 (by rw [hforfeited, hregained]), hall.2 ⟨"build", "Build", none⟩ ?_⟩
  rw [happlied]
  exact List.mem_singleton_self _

end Runfile
end TaskRunner
