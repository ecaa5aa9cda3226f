import ImmichDoctor.Library.Relational
/-!
# What a delete removes

Over the statements of a transaction rows go or lose references, and nothing else becomes of
them. `Descends` says that of two states of a database; a row that is gone was selected or
references one that is gone, through a key that cascades.
-/

namespace ImmichDoctor.Library

/-! ## Nulls -/

section Rows

variable {ν : Type*} {row old : Row ν} {column : PyStr} {value : ν}

theorem lookup_setNull (columns : List PyStr) (row : Row ν) (column : PyStr) :
    (row.setNull columns).lookup column =
      (row.lookup column).map fun found => if column ∈ columns then none else found := by
  induction row with
  | nil => rfl
  | cons field row ih =>
      obtain ⟨name, found⟩ := field
      have hhead : Row.setNull columns ((name, found) :: row) =
          (name, if name ∈ columns then none else found) :: Row.setNull columns row := by
        unfold Row.setNull
        rw [List.map_cons]
        split <;> rfl
      rw [hhead, List.lookup_cons, List.lookup_cons, ih]
      by_cases hname : column = name
      · rw [hname, beq_self_eq_true, Option.map_some]
      · rw [beq_false_of_ne hname]

/-- A row after columns of it were set to null. -/
def Nulled (old row : Row ν) : Prop :=
  ∀ column value, row.value column = some value → old.value column = some value

theorem Nulled.refl (row : Row ν) : Nulled row row :=
  fun _ _ h => h

theorem Nulled.setNull (h : Nulled old row) (columns : List PyStr) :
    Nulled old (row.setNull columns) := by
  intro column value hvalue
  apply h column value
  unfold Row.value at hvalue ⊢
  rw [lookup_setNull] at hvalue
  cases hlookup : row.lookup column with
  | none =>
      rw [hlookup] at hvalue
      cases hvalue
  | some found =>
      rw [hlookup, Option.map_some] at hvalue
      by_cases hmem : column ∈ columns
      · rw [if_pos hmem] at hvalue
        cases hvalue
      · rw [if_neg hmem] at hvalue
        exact hvalue

variable [DecidableEq ν]

/-- A reference that is there after columns were set to null was there before. -/
theorem Nulled.references {key : ForeignKey} {target oldTarget : Row ν} (h : Nulled old row)
    (htarget : Nulled oldTarget target) (hrefs : key.references row target = true) :
    key.references old oldTarget = true := by
  unfold ForeignKey.references at hrefs ⊢
  rw [Bool.and_eq_true, beq_iff_eq, List.all_eq_true] at hrefs ⊢
  obtain ⟨hsame, hvalues⟩ := hrefs
  have hsource : ∀ column ∈ key.sourceColumns, old.value column = row.value column := by
    intro column hcolumn
    obtain ⟨value, hvalue⟩ := Option.isSome_iff_exists.mp (hvalues column hcolumn)
    rw [hvalue, h column value hvalue]
  have htargets : ∀ column ∈ key.targetColumns, oldTarget.value column = target.value column := by
    intro column hcolumn
    have hmem : target.value column ∈ key.sourceColumns.map row.value :=
      hsame ▸ List.mem_map_of_mem hcolumn
    obtain ⟨other, hother, heq⟩ := List.mem_map.mp hmem
    obtain ⟨value, hvalue⟩ := Option.isSome_iff_exists.mp (hvalues other hother)
    rw [← heq, hvalue]
    exact htarget column value (heq ▸ hvalue)
  refine ⟨?_, fun column hcolumn => ?_⟩
  · rw [List.map_congr_left hsource, hsame, List.map_congr_left htargets]
  · rw [hsource column hcolumn]
    exact hvalues column hcolumn

end Rows

namespace Database

variable {ν : Type*} [DecidableEq ν] {before db : Database ν} {entry : Entry ν}

/-! ## Cascades -/

/-- The induction rule of cascades. -/
theorem cascade_induction {P : Entry ν → Prop} {selected : List (Entry ν)}
    (hselected : ∀ entry ∈ selected, P entry)
    (hstep : ∀ entry ∈ db.entries, ∀ key ∈ db.foreignKeys, key.deleteAction = .cascade →
      ∀ other, P other → key.source = entry.table → key.target = other.table →
        key.references entry.row other.row = true → P entry) :
    ∀ entry ∈ db.cascade selected, P entry := by
  unfold cascade
  induction db.entries.length generalizing selected with
  | zero => exact hselected
  | succ rounds ih =>
      rw [Function.iterate_succ_apply]
      apply ih
      intro entry hentry
      obtain ⟨hmem, hgoes⟩ := List.mem_filter.mp hentry
      rw [Bool.or_eq_true, decide_eq_true_eq] at hgoes
      rcases hgoes with hgone | hfollows
      · exact hselected entry hgone
      · obtain ⟨key, hkey, hpoints⟩ := List.any_eq_true.mp hfollows
        rw [Bool.and_eq_true, decide_eq_true_eq] at hpoints
        obtain ⟨hcascade, hpoints⟩ := hpoints
        unfold ForeignKey.pointsInto at hpoints
        rw [Bool.and_eq_true, decide_eq_true_eq, List.any_eq_true] at hpoints
        obtain ⟨hsource, other, hother, htarget⟩ := hpoints
        rw [Bool.and_eq_true, decide_eq_true_eq] at htarget
        exact hstep entry hmem key hkey hcascade other (hselected other hother) hsource htarget.1
          htarget.2

/-! ## Descent -/

/-- The entry with the identity and the table of another one, some columns of which it has. -/
structure DescendsFrom (old entry : Entry ν) : Prop where
  rowId : entry.rowId = old.rowId
  table : entry.table = old.table
  row : Nulled old.row entry.row

/-- Every row comes from one that was there before. -/
structure Descends (before db : Database ν) : Prop where
  foreignKeys : db.foreignKeys = before.foreignKeys
  entries : ∀ entry ∈ db.entries, ∃ old ∈ before.entries, DescendsFrom old entry

omit [DecidableEq ν] in
theorem Descends.refl (db : Database ν) : Descends db db :=
  ⟨rfl, fun entry hentry => ⟨entry, hentry, rfl, rfl, .refl _⟩⟩

theorem DescendsFrom.unlink {old : Entry ν} (h : DescendsFrom old entry) (gone : List (Entry ν))
    (key : ForeignKey) : DescendsFrom old (key.unlink gone entry) := by
  unfold ForeignKey.unlink
  split
  · exact ⟨h.rowId, h.table, h.row.setNull _⟩
  · exact h

theorem DescendsFrom.unlinked {old : Entry ν} (h : DescendsFrom old entry) (db : Database ν)
    (gone : List (Entry ν)) : DescendsFrom old (db.unlinked gone entry) := by
  unfold Database.unlinked
  induction db.foreignKeys generalizing entry with
  | nil => exact h
  | cons key keys ih => exact ih (h.unlink gone key)

theorem Descends.without (h : Descends before db) (gone : List (Entry ν)) :
    Descends before (db.without gone) := by
  refine ⟨h.foreignKeys, fun entry hentry => ?_⟩
  obtain ⟨kept, hkept, rfl⟩ := List.mem_map.mp hentry
  obtain ⟨old, hold, hdescends⟩ := h.entries kept (List.mem_filter.mp hkept).1
  exact ⟨old, hold, hdescends.unlinked db gone⟩

omit [DecidableEq ν] in
theorem eq_of_rowId {other : Entry ν} (hentry : entry ∈ db.entries) (hother : other ∈ db.entries)
    (h : entry.rowId = other.rowId) : entry = other :=
  List.inj_on_of_nodup_map db.identified hentry hother h

/-- Whether the entry is still there, as it is identified. -/
def remains (db : Database ν) (entry : Entry ν) : Prop :=
  entry.rowId ∈ db.entries.map (·.rowId)

/-- A delete that selects among the rows with a property, when no other row references one of
these through a key that cascades, removes no other row. -/
theorem remains_deleteWhere {P : Entry ν → Prop} {table : TableName} {p : Row ν → Bool}
    {rows : List (Row ν)} {after : Database ν} (hdescends : Descends before db)
    (hclosed : ∀ entry ∈ before.entries, ∀ key ∈ before.foreignKeys, key.deleteAction = .cascade →
      ∀ other ∈ before.entries, P other → key.source = entry.table → key.target = other.table →
        key.references entry.row other.row = true → P entry)
    (hselects : ∀ entry ∈ before.entries, ∀ row, Nulled entry.row row → entry.table = table →
      p row = true → P entry)
    (h : db.deleteWhere table p = some (rows, after)) :
    Descends before after ∧
      ∀ entry ∈ before.entries, ¬ P entry → db.remains entry → after.remains entry := by
  simp only [deleteWhere] at h
  split at h
  · cases h
  cases h
  refine ⟨hdescends.without _, fun entry hentry hnot hthere => ?_⟩
  have hgone : ∀ other ∈ db.cascade (db.select table p),
      ∃ old ∈ before.entries, DescendsFrom old other ∧ P old := by
    apply cascade_induction
    · intro other hother
      obtain ⟨hmem, htable, hrow⟩ := mem_select.mp hother
      obtain ⟨old, hold, hfrom⟩ := hdescends.entries other hmem
      exact ⟨old, hold, hfrom,
        hselects old hold other.row hfrom.row (hfrom.table.symm.trans htable) hrow⟩
    · rintro other hmem key hkey hcascade target ⟨oldTarget, holdTarget, hfromTarget, hP⟩ hsource
        htarget hrefs
      obtain ⟨old, hold, hfrom⟩ := hdescends.entries other hmem
      refine ⟨old, hold, hfrom, hclosed old hold key (hdescends.foreignKeys ▸ hkey) hcascade
        oldTarget holdTarget hP (hsource.trans hfrom.table) (htarget.trans hfromTarget.table) ?_⟩
      exact hfrom.row.references hfromTarget.row hrefs
  obtain ⟨kept, hkept, hid⟩ := List.mem_map.mp hthere
  have hstays : kept ∉ db.cascade (db.select table p) := by
    intro hmem
    obtain ⟨old, hold, hfrom, hP⟩ := hgone kept hmem
    have hsame : old = entry := eq_of_rowId hold hentry (hfrom.rowId.symm.trans hid)
    exact hnot (hsame ▸ hP)
  refine List.mem_map.mpr ⟨db.unlinked _ kept, List.mem_map_of_mem (List.mem_filter.mpr
    ⟨hkept, decide_eq_true hstays⟩), ?_⟩
  rw [rowId_unlinked, hid]

end Database

end ImmichDoctor.Library
