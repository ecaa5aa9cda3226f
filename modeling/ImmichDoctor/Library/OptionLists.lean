import Mathlib.Data.List.Basic
/-!
# Lists of results, each of which may be missing

`mapM` gives a list when every element has a result.
-/

namespace ImmichDoctor.Library

variable {α β : Type*} {f : α → Option β} {as : List α} {bs : List β}

theorem mapM_eq_some_iff : as.mapM f = some bs ↔ as.map f = bs.map some := by
  induction as generalizing bs with
  | nil =>
      rw [List.mapM_nil, List.map_nil, eq_comm (a := []), List.map_eq_nil_iff]
      exact ⟨fun h => (Option.some.inj h).symm, fun h => h ▸ rfl⟩
  | cons a as ih =>
      rw [List.mapM_cons, List.map_cons]
      cases bs with
      | nil =>
          refine iff_of_false (fun h => ?_) (List.cons_ne_nil _ _)
          simp only [Option.bind_eq_bind, Option.bind_eq_some_iff] at h
          obtain ⟨b, -, rest, -, hnil⟩ := h
          cases hnil
      | cons b bs =>
          rw [List.map_cons, List.cons.injEq, ← ih]
          simp only [Option.bind_eq_bind, Option.bind_eq_some_iff]
          constructor
          · rintro ⟨first, hfirst, rest, hrest, heq⟩
            cases heq
            exact ⟨hfirst, hrest⟩
          · rintro ⟨hfirst, hrest⟩
            exact ⟨b, hfirst, bs, hrest, rfl⟩

/-- Every result comes from an element. -/
theorem exists_of_mem_mapM (h : as.mapM f = some bs) {b : β} (hb : b ∈ bs) :
    ∃ a ∈ as, f a = some b := by
  have hmem : some b ∈ as.map f := by
    rw [mapM_eq_some_iff.mp h]
    exact List.mem_map_of_mem hb
  exact List.mem_map.mp hmem

/-- Every element has a result. -/
theorem exists_mem_of_mapM (h : as.mapM f = some bs) {a : α} (ha : a ∈ as) :
    ∃ b ∈ bs, f a = some b := by
  have hmem : f a ∈ bs.map some := by
    rw [← mapM_eq_some_iff.mp h]
    exact List.mem_map_of_mem ha
  obtain ⟨b, hb, hsome⟩ := List.mem_map.mp hmem
  exact ⟨b, hb, hsome.symm⟩

/-- What every result keeps of its element. -/
theorem map_eq_of_mapM {g : β → α} (hg : ∀ a b, f a = some b → g b = a)
    (h : as.mapM f = some bs) : bs.map g = as := by
  have hmap := mapM_eq_some_iff.mp h
  clear h
  induction as generalizing bs with
  | nil => rw [List.map_eq_nil_iff.mp hmap.symm, List.map_nil]
  | cons a as ih =>
      cases bs with
      | nil => cases hmap
      | cons b bs =>
          rw [List.map_cons, List.map_cons, List.cons.injEq] at hmap
          rw [List.map_cons, hg a b hmap.1, ih hmap.2]

theorem isSome_mapM_iff : (as.mapM f).isSome = true ↔ ∀ a ∈ as, (f a).isSome = true := by
  constructor
  · intro h a ha
    obtain ⟨bs, hbs⟩ := Option.isSome_iff_exists.mp h
    obtain ⟨b, -, hb⟩ := exists_mem_of_mapM hbs ha
    rw [hb]
    rfl
  · intro h
    induction as with
    | nil => rfl
    | cons a as ih =>
        obtain ⟨b, hb⟩ := Option.isSome_iff_exists.mp (h a List.mem_cons_self)
        obtain ⟨bs, hbs⟩ := Option.isSome_iff_exists.mp
          (ih fun other hother => h other (List.mem_cons_of_mem a hother))
        rw [List.mapM_cons, hb, hbs]
        rfl

end ImmichDoctor.Library
