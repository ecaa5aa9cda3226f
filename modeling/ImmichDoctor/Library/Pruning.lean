import ImmichDoctor.Library.Relational
/-!
# Pruned databases

A database is pruned to another one when entries are gone and nothing else has changed. A
delete of entries that nothing references prunes a database by the condition of the delete, so
a sequence of such deletes prunes it by all of their conditions, in whichever order they run.
-/

namespace ImmichDoctor.Library

namespace Database

variable {ν : Type*} {before middle after : Database ν} {gone more : Entry ν → Bool}

/-! ## Pruning -/

/-- The second database is the first one without the entries that are gone. -/
structure Pruned (before after : Database ν) (gone : Entry ν → Bool) : Prop where
  tables : after.tables = before.tables
  foreignKeys : after.foreignKeys = before.foreignKeys
  entries : after.entries = before.entries.filter fun entry => !gone entry

theorem Pruned.none (db : Database ν) : Pruned db db fun _ => false where
  tables := rfl
  foreignKeys := rfl
  entries := (List.filter_eq_self.mpr fun _ _ => rfl).symm

theorem Pruned.trans (h : Pruned before middle gone) (hmore : Pruned middle after more) :
    Pruned before after fun entry => gone entry || more entry where
  tables := hmore.tables.trans h.tables
  foreignKeys := hmore.foreignKeys.trans h.foreignKeys
  entries := by
    rw [hmore.entries, h.entries, List.filter_filter]
    apply List.filter_congr
    intro entry _
    rw [Bool.not_or, Bool.and_comm]

theorem Pruned.congr (h : Pruned before after gone)
    (hgone : ∀ entry ∈ before.entries, gone entry = more entry) : Pruned before after more where
  tables := h.tables
  foreignKeys := h.foreignKeys
  entries := by
    rw [h.entries]
    apply List.filter_congr
    intro entry hentry
    rw [hgone entry hentry]

theorem Pruned.subset (h : Pruned before after gone) : after.entries ⊆ before.entries := by
  rw [h.entries]
  exact List.filter_subset_self _

/-- A query of a table that has lost nothing. -/
theorem Pruned.select (h : Pruned before after gone) {table : TableName}
    (hother : ∀ entry, gone entry = true → entry.table ≠ table) (p : Row ν → Bool) :
    after.select table p = before.select table p := by
  rw [Database.select, Database.select, h.entries, List.filter_filter]
  apply List.filter_congr
  intro entry _
  by_cases htable : entry.table = table
  · have hkept : gone entry = false := by
      by_contra hgone
      exact hother entry (Bool.not_eq_false _ ▸ hgone) htable
    rw [hkept, Bool.not_false, Bool.and_true]
  · rw [decide_eq_false htable, Bool.false_and, Bool.false_and]

/-! ## Deletes of what nothing references -/

section

variable [DecidableEq ν] {db : Database ν}

/-- Whether no entry references one of these. -/
def Unreferenced (db : Database ν) (selected : List (Entry ν)) : Prop :=
  ∀ key ∈ db.foreignKeys, ∀ entry ∈ db.entries, key.pointsInto selected entry = false

theorem Unreferenced.detached {selected : List (Entry ν)} (h : db.Unreferenced selected) :
    db.Detached selected :=
  fun key hkey entry hentry _ => h key hkey entry hentry

theorem Unreferenced.mono {selected others : List (Entry ν)} (h : db.Unreferenced selected)
    (hsub : others ⊆ selected) : db.Unreferenced others := by
  intro key hkey entry hentry
  have hfree := h key hkey entry hentry
  by_contra hpoints
  rw [Bool.not_eq_false, ForeignKey.pointsInto, Bool.and_eq_true, List.any_eq_true] at hpoints
  obtain ⟨hsource, other, hother, hreferences⟩ := hpoints
  have htrue : key.pointsInto selected entry = true := by
    rw [ForeignKey.pointsInto, Bool.and_eq_true, List.any_eq_true]
    exact ⟨hsource, other, hsub hother, hreferences⟩
  exact Bool.false_ne_true (hfree.symm.trans htrue)

/-- What nothing referenced is not referenced after entries are gone. -/
theorem Pruned.unreferenced (h : Pruned before after gone) {selected : List (Entry ν)}
    (hselected : before.Unreferenced selected) : after.Unreferenced selected := by
  intro key hkey entry hentry
  rw [h.foreignKeys] at hkey
  exact hselected key hkey entry (h.subset hentry)

/-- A delete of entries that nothing references prunes the database by its condition. -/
theorem deleteWhere_pruned {table : TableName} {p : Row ν → Bool}
    (h : db.Unreferenced (db.select table p)) :
    ∃ rows after, db.deleteWhere table p = some (rows, after) ∧
      Pruned db after fun entry => decide (entry.table = table) && p entry.row := by
  refine ⟨_, _, deleteWhere_of_detached h.detached, rfl, rfl, ?_⟩
  rw [entries_without_of_detached h.detached]
  apply List.filter_congr
  intro entry hentry
  have hselected : entry ∈ db.select table p ↔
      (decide (entry.table = table) && p entry.row) = true := by
    rw [mem_select, Bool.and_eq_true, decide_eq_true_eq]
    exact and_iff_right hentry
  cases hgone : decide (entry.table = table) && p entry.row with
  | true => exact decide_eq_false (not_not_intro (hselected.mpr hgone))
  | false =>
      exact decide_eq_true fun hmem => Bool.false_ne_true (hgone.symm.trans (hselected.mp hmem))

end

end Database

end ImmichDoctor.Library
