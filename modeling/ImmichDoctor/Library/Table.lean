import Mathlib.Algebra.GroupWithZero.Nat
import Mathlib.Algebra.Order.BigOperators.Group.List
import Mathlib.Algebra.Order.Group.Nat
import Mathlib.Data.List.Sort
/-!
# Tables with a unique key

A `Table` is the list of its rows together with the proof that no two rows share
the key, so a state that breaks a `UNIQUE` constraint cannot be built. The
operations are the SQL statements a small store is written with: `UPDATE … WHERE`,
a plain `INSERT`, `ON CONFLICT DO NOTHING` and `ON CONFLICT DO UPDATE`.
-/

namespace ImmichDoctor.Library

variable {ρ κ : Type*}

/-- Rows in insertion order, no two of them with the same key. -/
structure Table (ρ : Type*) {κ : Type*} (key : ρ → κ) where
  rows : List ρ
  unique : (rows.map key).Nodup

namespace Table

variable {key : ρ → κ}

def empty : Table ρ key where
  rows := []
  unique := List.nodup_nil

@[simp] theorem rows_empty : (empty : Table ρ key).rows = [] := rfl

theorem eq_of_key_eq (t : Table ρ key) {a b : ρ} (ha : a ∈ t.rows) (hb : b ∈ t.rows)
    (hkey : key a = key b) : a = b :=
  List.inj_on_of_nodup_map t.unique ha hb hkey

/-- Rewrite every row that satisfies `p`; the key column is not assigned. -/
def updateWhere (t : Table ρ key) (p : ρ → Bool) (f : ρ → ρ)
    (hkey : ∀ r, key (f r) = key r) : Table ρ key where
  rows := t.rows.map fun r => if p r then f r else r
  unique := by
    have hmap : (t.rows.map fun r => if p r then f r else r).map key = t.rows.map key := by
      rw [List.map_map]
      refine List.map_congr_left fun r _ => ?_
      by_cases hp : p r <;> simp [hp, hkey]
    rw [hmap]
    exact t.unique

theorem rows_updateWhere (t : Table ρ key) (p : ρ → Bool) (f : ρ → ρ)
    (hkey : ∀ r, key (f r) = key r) :
    (t.updateWhere p f hkey).rows = t.rows.map fun r => if p r then f r else r := rfl

theorem mem_updateWhere {t : Table ρ key} {p : ρ → Bool} {f : ρ → ρ}
    {hkey : ∀ r, key (f r) = key r} {r : ρ} :
    r ∈ (t.updateWhere p f hkey).rows ↔
      ∃ old ∈ t.rows, (if p old then f old else old) = r := by
  simp [updateWhere]

theorem mem_updateWhere_of_mem {t : Table ρ key} (p : ρ → Bool) (f : ρ → ρ)
    (hkey : ∀ r, key (f r) = key r) {r : ρ} (hr : r ∈ t.rows) :
    (if p r then f r else r) ∈ (t.updateWhere p f hkey).rows :=
  mem_updateWhere.mpr ⟨r, hr, rfl⟩

/-- An update neither removes a key nor adds one. -/
theorem exists_mem_updateWhere {t : Table ρ key} {p : ρ → Bool} {f : ρ → ρ}
    (hkey : ∀ r, key (f r) = key r) {r : ρ} (hr : r ∈ t.rows) :
    ∃ new ∈ (t.updateWhere p f hkey).rows, key new = key r := by
  refine ⟨_, mem_updateWhere_of_mem p f hkey hr, ?_⟩
  split
  · exact hkey r
  · rfl

theorem exists_of_mem_updateWhere {t : Table ρ key} {p : ρ → Bool} {f : ρ → ρ}
    (hkey : ∀ r, key (f r) = key r) {r : ρ} (hr : r ∈ (t.updateWhere p f hkey).rows) :
    ∃ old ∈ t.rows, key old = key r := by
  obtain ⟨old, hold, rfl⟩ := mem_updateWhere.mp hr
  refine ⟨old, hold, ?_⟩
  split
  · exact (hkey old).symm
  · rfl

/-! ## Inserts -/

/-- Add a row whose key is not in the table yet. -/
def push (t : Table ρ key) (r : ρ) (hfresh : ∀ old ∈ t.rows, key old ≠ key r) :
    Table ρ key where
  rows := t.rows ++ [r]
  unique := by
    rw [List.map_append, List.nodup_append]
    refine ⟨t.unique, by simp, ?_⟩
    simpa [List.mem_map] using hfresh

@[simp] theorem rows_push (t : Table ρ key) (r : ρ)
    (hfresh : ∀ old ∈ t.rows, key old ≠ key r) : (t.push r hfresh).rows = t.rows ++ [r] := rfl

section Insert

variable [DecidableEq κ]

/-- The row with the given key. -/
def find? (t : Table ρ key) (k : κ) : Option ρ :=
  t.rows.find? fun r => key r = k

theorem find?_eq_some_iff {t : Table ρ key} {k : κ} {r : ρ} :
    t.find? k = some r ↔ r ∈ t.rows ∧ key r = k := by
  constructor
  · intro h
    exact ⟨List.mem_of_find?_eq_some h, by simpa using List.find?_some h⟩
  · rintro ⟨hmem, hk⟩
    cases hfind : t.find? k with
    | none =>
        have := List.find?_eq_none.mp hfind r hmem
        simp [hk] at this
    | some s =>
        have hs : s ∈ t.rows := List.mem_of_find?_eq_some hfind
        have hsk : key s = k := by simpa using List.find?_some hfind
        rw [t.eq_of_key_eq hs hmem (hsk.trans hk.symm)]

theorem find?_eq_none_iff {t : Table ρ key} {k : κ} :
    t.find? k = none ↔ ∀ r ∈ t.rows, key r ≠ k := by
  simp [find?]

/-- A plain `INSERT`, refused when the key is taken. -/
def insert? (t : Table ρ key) (r : ρ) : Option (Table ρ key) :=
  if hfresh : ∀ old ∈ t.rows, key old ≠ key r then some (t.push r hfresh) else none

theorem rows_of_insert? {t u : Table ρ key} {r : ρ} (h : t.insert? r = some u) :
    u.rows = t.rows ++ [r] ∧ ∀ old ∈ t.rows, key old ≠ key r := by
  unfold insert? at h
  split at h
  · next hfresh =>
      cases h
      exact ⟨rfl, hfresh⟩
  · cases h

theorem insert?_eq_push {t : Table ρ key} {r : ρ} (hfresh : ∀ old ∈ t.rows, key old ≠ key r) :
    t.insert? r = some (t.push r hfresh) :=
  dif_pos hfresh

theorem mem_of_insert? {t u : Table ρ key} {r : ρ} (h : t.insert? r = some u) : r ∈ u.rows := by
  rw [(rows_of_insert? h).1]
  exact List.mem_append_right _ (List.mem_singleton.mpr rfl)

/-- `INSERT … ON CONFLICT DO NOTHING`. -/
def insertOrIgnore (t : Table ρ key) (r : ρ) : Table ρ key :=
  if hfresh : ∀ old ∈ t.rows, key old ≠ key r then t.push r hfresh else t

theorem rows_insertOrIgnore (t : Table ρ key) (r : ρ) :
    (t.insertOrIgnore r).rows =
      if ∀ old ∈ t.rows, key old ≠ key r then t.rows ++ [r] else t.rows := by
  unfold insertOrIgnore
  split <;> simp

theorem mem_insertOrIgnore {t : Table ρ key} {r s : ρ} :
    s ∈ (t.insertOrIgnore r).rows ↔
      s ∈ t.rows ∨ ((∀ old ∈ t.rows, key old ≠ key r) ∧ s = r) := by
  rw [rows_insertOrIgnore]
  split
  · next hfresh =>
      rw [List.mem_append, List.mem_singleton, and_iff_right hfresh]
  · next hfresh => simp [hfresh]

/-- `INSERT … ON CONFLICT DO UPDATE SET`: `merge` rewrites the row already there. -/
def upsert (t : Table ρ key) (r : ρ) (merge : ρ → ρ) (hkey : ∀ old, key (merge old) = key old) :
    Table ρ key :=
  if hfresh : ∀ old ∈ t.rows, key old ≠ key r then t.push r hfresh
  else t.updateWhere (fun old => key old = key r) merge hkey

theorem mem_upsert {t : Table ρ key} {r s : ρ} {merge : ρ → ρ}
    {hkey : ∀ old, key (merge old) = key old} :
    s ∈ (t.upsert r merge hkey).rows ↔
      (s ∈ t.rows ∧ key s ≠ key r) ∨
      (∃ old ∈ t.rows, key old = key r ∧ s = merge old) ∨
      ((∀ old ∈ t.rows, key old ≠ key r) ∧ s = r) := by
  unfold upsert
  split
  · next hfresh =>
      simp only [rows_push, List.mem_append, List.mem_singleton]
      constructor
      · rintro (hs | rfl)
        · exact Or.inl ⟨hs, hfresh s hs⟩
        · exact Or.inr (Or.inr ⟨hfresh, rfl⟩)
      · rintro (⟨hs, _⟩ | ⟨old, hold, hk, _⟩ | ⟨_, rfl⟩)
        · exact Or.inl hs
        · exact absurd hk (hfresh old hold)
        · exact Or.inr rfl
  · next hfresh =>
      rw [mem_updateWhere]
      constructor
      · rintro ⟨old, hold, rfl⟩
        by_cases hk : key old = key r
        · exact Or.inr (Or.inl ⟨old, hold, hk, by simp [hk]⟩)
        · exact Or.inl ⟨by simpa [hk] using hold, by simp [hk]⟩
      · rintro (⟨hs, hk⟩ | ⟨old, hold, hk, rfl⟩ | ⟨hall, _⟩)
        · exact ⟨s, hs, by simp [hk]⟩
        · exact ⟨old, hold, by simp [hk]⟩
        · exact absurd hall hfresh

/-- `d[key(r)] = r` on a dictionary: the row replaces the one with its key, or comes last. -/
def put (t : Table ρ key) (r : ρ) : Table ρ key :=
  if hfresh : ∀ old ∈ t.rows, key old ≠ key r then t.push r hfresh
  else t.updateWhere (fun old => key old = key r) (fun old => if key old = key r then r else old)
    fun old => by
      split
      · next hsame => exact hsame.symm
      · rfl

theorem mem_put {t : Table ρ key} {r s : ρ} :
    s ∈ (t.put r).rows ↔ s = r ∨ s ∈ t.rows ∧ key s ≠ key r := by
  unfold put
  split
  · next hfresh =>
      rw [rows_push, List.mem_append, List.mem_singleton]
      constructor
      · rintro (hs | rfl)
        · exact .inr ⟨hs, hfresh s hs⟩
        · exact .inl rfl
      · rintro (rfl | ⟨hs, -⟩)
        · exact .inr rfl
        · exact .inl hs
  · next htaken =>
      rw [mem_updateWhere]
      constructor
      · rintro ⟨old, hold, rfl⟩
        by_cases hsame : key old = key r
        · exact .inl (by simp [hsame])
        · exact .inr ⟨by simpa [hsame] using hold, by simp [hsame]⟩
      · rintro (rfl | ⟨hs, hne⟩)
        · simp only [not_forall, not_not] at htaken
          obtain ⟨old, hold, hsame⟩ := htaken
          exact ⟨old, hold, by simp [hsame]⟩
        · exact ⟨s, hs, by simp [hne]⟩

end Insert

/-! ## Sums over the rows -/

/-- What the rows add up to. -/
def total (t : Table ρ key) (weight : ρ → Nat) : Nat :=
  (t.rows.map weight).sum

theorem total_eq_countP {t : Table ρ key} {p : ρ → Bool} :
    t.total (fun r => if p r then 1 else 0) = t.rows.countP p := by
  unfold total
  induction t.rows with
  | nil => rfl
  | cons r rest ih =>
      rw [List.map_cons, List.sum_cons, ih, List.countP_cons, Nat.add_comm]

theorem total_eq_sum_filter {t : Table ρ key} {p : ρ → Bool} {weight : ρ → Nat} :
    t.total (fun r => if p r then weight r else 0) = ((t.rows.filter p).map weight).sum := by
  unfold total
  induction t.rows with
  | nil => rfl
  | cons r rest ih =>
      by_cases hp : p r = true
      · rw [List.filter_cons_of_pos hp, List.map_cons, List.map_cons, List.sum_cons, List.sum_cons,
          ih, if_pos hp]
      · rw [List.filter_cons_of_neg hp, List.map_cons, List.sum_cons, ih, if_neg hp, Nat.zero_add]

theorem total_eq_zero {t : Table ρ key} {weight : ρ → Nat} (h : ∀ r ∈ t.rows, weight r = 0) :
    t.total weight = 0 := by
  apply List.sum_eq_zero_iff_forall_eq_nat.mpr
  intro value hvalue
  obtain ⟨r, hr, rfl⟩ := List.mem_map.mp hvalue
  exact h r hr

theorem total_updateWhere {t : Table ρ key} {p : ρ → Bool} {f : ρ → ρ}
    {hkey : ∀ r, key (f r) = key r} {weight : ρ → Nat}
    (h : ∀ r ∈ t.rows, p r = true → weight (f r) = weight r) :
    (t.updateWhere p f hkey).total weight = t.total weight := by
  rw [total, rows_updateWhere, List.map_map]
  refine congrArg List.sum (List.map_congr_left fun r hr => ?_)
  by_cases hp : p r = true
  · simp only [Function.comp_apply, if_pos hp, h r hr hp]
  · simp only [Function.comp_apply, if_neg hp]

theorem total_updateWhere_le {t : Table ρ key} {p : ρ → Bool} {f : ρ → ρ}
    {weight : ρ → Nat} (hkey : ∀ r, key (f r) = key r)
    (h : ∀ r ∈ t.rows, weight (f r) ≤ weight r) :
    (t.updateWhere p f hkey).total weight ≤ t.total weight := by
  rw [total, rows_updateWhere, List.map_map]
  refine List.sum_le_sum fun r hr => ?_
  by_cases hp : p r = true
  · simp only [Function.comp_apply, if_pos hp, h r hr]
  · simp only [Function.comp_apply, if_neg hp, le_refl]

theorem total_push {t : Table ρ key} {r : ρ} {hfresh : ∀ old ∈ t.rows, key old ≠ key r}
    {weight : ρ → Nat} : (t.push r hfresh).total weight = t.total weight + weight r := by
  rw [total, rows_push, List.map_append, List.sum_append, List.map_singleton, List.sum_singleton,
    total]

section Keyed

variable [DecidableEq κ]

/-- An update of one row changes the sum by the change of this row. -/
theorem total_updateWhere_key {t : Table ρ key} {f : ρ → ρ}
    {hkey : ∀ r, key (f r) = key r} {weight : ρ → Nat} {old : ρ} (hold : old ∈ t.rows) :
    (t.updateWhere (fun r => key r = key old) f hkey).total weight + weight old =
      t.total weight + weight (f old) := by
  rw [total, total, rows_updateWhere, List.map_map]
  simp only [Function.comp_def, decide_eq_true_eq]
  have hunique := t.unique
  revert hold hunique
  induction t.rows with
  | nil => exact fun hold => absurd hold List.not_mem_nil
  | cons r rest ih =>
      intro hold hunique
      obtain ⟨hfresh, hrest⟩ := List.nodup_cons.mp hunique
      rw [List.map_cons, List.map_cons, List.sum_cons, List.sum_cons]
      rcases List.mem_cons.mp hold with rfl | holdRest
      · have hsame : ∀ other ∈ rest,
            weight (if key other = key old then f other else other) = weight other := by
          intro other hother
          have hmem : key other ∈ rest.map key := List.mem_map_of_mem hother
          rw [if_neg fun heq : key other = key old => hfresh (heq ▸ hmem)]
        rw [if_pos rfl, List.map_congr_left hsame]
        omega
      · have hmem : key old ∈ rest.map key := List.mem_map_of_mem holdRest
        have hsum := ih holdRest hrest
        rw [if_neg fun heq : key r = key old => hfresh (heq ▸ hmem)]
        omega

theorem total_insertOrIgnore {t : Table ρ key} {r : ρ} {weight : ρ → Nat} (h : weight r = 0) :
    (t.insertOrIgnore r).total weight = t.total weight := by
  rw [total, rows_insertOrIgnore]
  split
  · rw [List.map_append, List.sum_append, List.map_singleton, List.sum_singleton, h, Nat.add_zero,
      total]
  · rfl

/-- An upsert adds the weight of its row when the row it overwrites has none. -/
theorem total_upsert {t : Table ρ key} {r : ρ} {merge : ρ → ρ}
    {hkey : ∀ old, key (merge old) = key old} {weight : ρ → Nat}
    (hmerge : ∀ old, weight (merge old) = weight r)
    (hnone : ∀ old ∈ t.rows, key old = key r → weight old = 0) :
    (t.upsert r merge hkey).total weight = t.total weight + weight r := by
  unfold upsert
  split
  · exact total_push
  · next htaken =>
      simp only [not_forall, not_not] at htaken
      obtain ⟨old, hold, hsame⟩ := htaken
      have hsum : (t.updateWhere (fun other => key other = key old) merge hkey).total weight
          + weight old = t.total weight + weight (merge old) := total_updateWhere_key hold
      rw [hnone old hold hsame, hmerge, Nat.add_zero, hsame] at hsum
      exact hsum

end Keyed

end Table

/-! ## `ORDER BY … LIMIT 1` and `MAX` -/

/-- The first row in the order `le`. -/
def firstBy (le : ρ → ρ → Prop) [DecidableRel le] (rows : List ρ) : Option ρ :=
  (rows.insertionSort le).head?

section FirstBy

variable {le : ρ → ρ → Prop} [DecidableRel le]

theorem firstBy_mem {rows : List ρ} {r : ρ} (h : firstBy le rows = some r) : r ∈ rows :=
  (List.perm_insertionSort le rows).subset (List.mem_of_mem_head? h)

theorem firstBy_eq_none_iff {rows : List ρ} : firstBy le rows = none ↔ rows = [] := by
  rw [firstBy, List.head?_eq_none_iff]
  constructor
  · intro h
    have hperm := List.perm_insertionSort le rows
    rw [h] at hperm
    exact hperm.nil_eq.symm
  · rintro rfl
    rfl

theorem exists_firstBy {rows : List ρ} {r : ρ} (h : r ∈ rows) :
    ∃ first, firstBy le rows = some first := by
  cases hfirst : firstBy le rows with
  | some first => exact ⟨first, rfl⟩
  | none =>
      rw [firstBy_eq_none_iff.mp hfirst] at h
      cases h

theorem firstBy_le (htotal : ∀ a b, le a b ∨ le b a) (htrans : ∀ a b c, le a b → le b c → le a c)
    {rows : List ρ} {r s : ρ} (h : firstBy le rows = some r) (hs : s ∈ rows) :
    le r s := by
  have : Std.Total le := ⟨htotal⟩
  have : IsTrans ρ le := ⟨htrans⟩
  have hsorted := List.pairwise_insertionSort le rows
  have hmem : s ∈ rows.insertionSort le := (List.perm_insertionSort le rows).mem_iff.mpr hs
  cases hlist : rows.insertionSort le with
  | nil => simp [hlist] at hmem
  | cons a rest =>
      have ha : a = r := by simpa [firstBy, hlist] using h
      subst ha
      rw [hlist] at hsorted hmem
      rcases List.mem_cons.mp hmem with rfl | hrest
      · rcases htotal s s with h | h <;> exact h
      · exact (List.pairwise_cons.mp hsorted).1 s hrest

end FirstBy

/-- `COALESCE(MAX(column), 0)`. -/
def maxColumn (column : ρ → Nat) (rows : List ρ) : Nat :=
  (rows.map column).foldr max 0

theorem le_maxColumn {column : ρ → Nat} {rows : List ρ} {r : ρ} (hr : r ∈ rows) :
    column r ≤ maxColumn column rows := by
  induction rows with
  | nil => cases hr
  | cons a rest ih =>
      simp only [maxColumn, List.map_cons, List.foldr_cons]
      rcases List.mem_cons.mp hr with rfl | hrest
      · exact Nat.le_max_left _ _
      · exact (ih hrest).trans (Nat.le_max_right _ _)

end ImmichDoctor.Library
