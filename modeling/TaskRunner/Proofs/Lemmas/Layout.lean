import TaskRunner.Proofs.Lemmas.Requests

/-!
# Declarations laid out beforehand

The declarations of a Runfile, told by the tasks that they are to become: each has its place, and is there or has its key reserved
until its body comes (`Laid`). One lemma for each request that is accepted, and what declarations settle to of which nothing waits.
-/

namespace TaskRunner
namespace Declarations

/-- The declarations of a Runfile that has promised some tasks: all have their places, and those whose keys wait are reserved, the
others are there. -/
structure Laid (directory : Path) (scope : ScopeId) (tasks : List Task) (waiting : List String) (doc : Option String)
    (d : Declarations) : Prop where
  isOpen : d.closed = false
  directory : d.directory = directory
  scope : d.scope = scope
  doc : d.pending = doc
  order : d.order = tasks.map Task.key
  apart : (tasks.map Task.key).Nodup
  there : ∀ t ∈ tasks, d.committed.find? t.key = if t.key ∈ waiting then none else some t
  others : ∀ key, key ∉ tasks.map Task.key → key ∉ d.committed.keys
  reserved : ∀ key, key ∈ d.reserved.keys ↔ key ∈ waiting
  placed : ∀ key ∈ waiting, key ∈ tasks.map Task.key

section

variable {directory : Path} {scope : ScopeId} {tasks : List Task} {waiting : List String} {doc : Option String} {d : Declarations}

theorem laid_initial (directory : Path) (scope : ScopeId) : Laid directory scope [] [] none (initial directory scope) where
  isOpen := rfl
  directory := rfl
  scope := rfl
  doc := rfl
  order := rfl
  apart := List.nodup_nil
  there := nofun
  others := nofun
  reserved := fun _ => Iff.rfl
  placed := nofun

/-- A key that is not promised is free. -/
theorem Laid.free (h : Laid directory scope tasks waiting doc d) {key : String} (hkey : key ∉ tasks.map Task.key) :
    d.isTaken key = false := by
  rw [isTaken, Bool.or_eq_false_iff, ← Assoc.not_mem_keys_iff, ← Assoc.not_mem_keys_iff]
  exact ⟨h.others key hkey, fun hr => hkey (h.placed key ((h.reserved key).1 hr))⟩

theorem nodup_concat {keys : List String} {key : String} (h : keys.Nodup) (hkey : key ∉ keys) : (keys ++ [key]).Nodup := by
  rw [← List.concat_eq_append]
  exact h.concat hkey

/-- What a task is described with is kept for it. -/
theorem Laid.described (h : Laid directory scope tasks waiting doc d) (text : String) :
    Laid directory scope tasks waiting (some text) { d with pending := some text } :=
  ⟨h.isOpen, h.directory, h.scope, rfl, h.order, h.apart, h.there, h.others, h.reserved, h.placed⟩

/-- A declaration with a body is promised and kept at once. -/
theorem Laid.declared (h : Laid directory scope tasks waiting doc d) {name : String} (body : Body)
    (hkey : keyOf name ∉ tasks.map Task.key) :
    Laid directory scope (tasks ++ [⟨name, doc, body, directory, scope⟩]) waiting none
      (d.undescribed.withTask name d.pending body) where
  isOpen := h.isOpen
  directory := h.directory
  scope := h.scope
  doc := rfl
  order := by
    show placeKey d.order (keyOf name) = _
    rw [h.order, placeKey, if_neg hkey, List.map_append]
    rfl
  apart := by
    rw [List.map_append]
    exact nodup_concat h.apart hkey
  there := by
    intro t ht
    show (d.committed.insert (keyOf name) _).find? t.key = _
    rcases List.mem_append.1 ht with ht | ht
    · have hne : t.key ≠ keyOf name := fun he => hkey (he ▸ List.mem_map_of_mem ht)
      rw [Assoc.find?_insert_ne _ _ hne]
      exact h.there t ht
    · have hnot : keyOf name ∉ waiting := fun hw => hkey (h.placed _ hw)
      rw [List.mem_singleton.1 ht, h.doc, ← h.directory, ← h.scope]
      exact (Assoc.find?_insert_self _ _ _).trans (if_neg hnot).symm
  others := by
    intro key hk hc
    rw [List.map_append, List.mem_append, not_or] at hk
    rcases (Assoc.mem_keys_insert _ _ _ _).1 hc with rfl | hc
    · exact hk.2 (List.mem_singleton_self _)
    · exact h.others key hk.1 hc
  reserved := h.reserved
  placed := by
    intro key hw
    rw [List.map_append]
    exact List.mem_append_left _ (h.placed key hw)

/-- A declaration by name promises a task of any body that is to come. -/
theorem Laid.awaited (h : Laid directory scope tasks waiting doc d) {name : String} (body : Body)
    (hkey : keyOf name ∉ tasks.map Task.key) :
    Laid directory scope (tasks ++ [⟨name, doc, body, directory, scope⟩]) (keyOf name :: waiting) none
      (d.withReservation name) where
  isOpen := h.isOpen
  directory := h.directory
  scope := h.scope
  doc := rfl
  order := by
    show d.order ++ [keyOf name] = _
    rw [h.order, List.map_append]
    rfl
  apart := by
    rw [List.map_append]
    exact nodup_concat h.apart hkey
  there := by
    intro t ht
    show d.committed.find? t.key = _
    rcases List.mem_append.1 ht with ht | ht
    · have hne : t.key ≠ keyOf name := fun he => hkey (he ▸ List.mem_map_of_mem ht)
      rw [h.there t ht]
      exact if_congr (by rw [List.mem_cons, or_iff_right hne]) rfl rfl
    · have hfree : d.committed.contains (keyOf name) = false := (Assoc.not_mem_keys_iff _ _).1 (h.others _ hkey)
      rw [List.mem_singleton.1 ht]
      exact (Option.isNone_iff_eq_none.1 (Option.isSome_eq_false_iff.1 hfree)).trans (if_pos List.mem_cons_self).symm
  others := by
    intro key hk
    rw [List.map_append, List.mem_append, not_or] at hk
    exact h.others key hk.1
  reserved := by
    intro key
    rw [List.mem_cons, ← h.reserved]
    exact Assoc.mem_keys_insert _ _ _ _
  placed := by
    intro key hw
    rw [List.map_append, List.mem_append]
    exact (List.mem_cons.1 hw).elim (fun he => .inr (List.mem_singleton.2 he)) fun hw => .inl (h.placed key hw)

/-- A promise is kept when the body comes. -/
theorem Laid.applied (h : Laid directory scope tasks waiting doc d) {r : Reservation} {body : Body}
    (hr : r.key = keyOf r.name) (hw : r.key ∈ waiting) (ht : ⟨r.name, r.doc, body, directory, scope⟩ ∈ tasks) :
    Laid directory scope tasks (waiting.filter (· ≠ r.key)) doc ((d.released r.key).withTask r.name r.doc body) where
  isOpen := h.isOpen
  directory := h.directory
  scope := h.scope
  doc := h.doc
  order := by
    show placeKey d.order (keyOf r.name) = _
    have hplaced : keyOf r.name ∈ d.order := by
      rw [h.order, ← hr]
      exact h.placed _ hw
    rw [placeKey, if_pos hplaced, h.order]
  apart := h.apart
  there := by
    intro t ht'
    show (d.committed.insert (keyOf r.name) _).find? t.key = _
    rw [← hr]
    by_cases he : t.key = r.key
    · have hsame : t = ⟨r.name, r.doc, body, directory, scope⟩ :=
        List.inj_on_of_nodup_map h.apart ht' ht (he.trans hr)
      have hnot : r.key ∉ waiting.filter (· ≠ r.key) := fun hm => by simpa using (List.mem_filter.1 hm).2
      rw [he, Assoc.find?_insert_self, if_neg hnot, hsame, ← h.directory, ← h.scope]
      rfl
    · rw [Assoc.find?_insert_ne _ _ he]
      refine (h.there t ht').trans (if_congr ?_ rfl rfl)
      rw [List.mem_filter, decide_eq_true_eq, and_iff_left he]
  others := by
    intro key hk hc
    rcases (Assoc.mem_keys_insert _ _ _ _).1 hc with rfl | hc
    · exact hk (hr ▸ h.placed _ hw)
    · exact h.others key hk hc
  reserved := by
    intro key
    rw [List.mem_filter, decide_eq_true_eq, ← h.reserved]
    exact Assoc.mem_keys_erase _ _ _
  placed := fun key hk => h.placed key (List.mem_filter.1 hk).1

/-- Declarations of which nothing waits settle to the tasks that were promised. -/
theorem Laid.settle (h : Laid directory scope tasks [] doc d) : d.settle = .ok tasks := by
  have hnone : d.reserved.keys = [] := List.eq_nil_iff_forall_not_mem.2 fun key hk => List.not_mem_nil ((h.reserved key).1 hk)
  have hvalues : d.reserved.values = [] := by
    rw [Assoc.keys, List.map_eq_nil_iff] at hnone
    rw [Assoc.values, hnone]
    rfl
  have htasks : d.tasks = tasks := by
    rw [Declarations.tasks, h.order, eraseDups_of_nodup h.apart, List.filterMap_map]
    refine (List.filterMap_congr fun t ht => ?_).trans List.filterMap_some
    exact (h.there t ht).trans (if_neg List.not_mem_nil)
  rw [Declarations.settle, hvalues, htasks]

end

end Declarations
end TaskRunner
