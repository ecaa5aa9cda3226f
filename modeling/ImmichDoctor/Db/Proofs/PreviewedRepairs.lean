import ImmichDoctor.Db.CorruptionGuard
import Mathlib.Data.List.Induction
/-!
# What an apply executes was previewed

The fingerprint of a snapshot determines all of it but the name of the database, so a plan that
is made again behind a valid token is the one that was shown. A run is stored by its latest
preview, and no apply changes its choices or its token.
-/

namespace ImmichDoctor.Db

open ImmichDoctor.Library
open ImmichDoctor.Repair

/-! ## Payloads -/

section Payloads

theorem json_injective {a b : ReadableStr} (h : a.json.sortKeys = b.json.sortKeys) : a = b := by
  cases a
  cases b
  cases JsonValue.str.inj h
  rfl

/-- Lists of records are told apart when their elements are. -/
theorem eq_of_sortKeys_list {α : Type} {f : α → JsonValue} {as bs : List α}
    (hf : ∀ a b, (f a).sortKeys = (f b).sortKeys → a = b)
    (h : (JsonValue.list (as.map f)).sortKeys = (JsonValue.list (bs.map f)).sortKeys) :
    as = bs := by
  simp only [JsonValue.sortKeys, JsonValue.sortItems_eq_map, JsonValue.list.injEq,
    List.map_map] at h
  exact List.map_injective_iff.mpr (fun a b => hf a b) h

theorem ToastHealth.eq_of_sortKeys {a b : ToastHealth}
    (h : a.toDict.sortKeys = b.toDict.sortKeys) : a = b := by
  have hfailed : ∀ detected text, (failed detected text).toDict.sortKeys =
      .obj [(py "detected", .bool detected), (py "exception_text", text.json.sortKeys),
        (py "read_ok", .bool false)] := fun _ _ => rfl
  have hreadOk : ∀ rowCount, (readOk rowCount).toDict.sortKeys =
      .obj [(py "detected", .bool false), (py "exception_text", .null),
        (py "read_ok", .bool true), (py "row_count", .int rowCount)] := fun _ => rfl
  cases a with
  | failed detected text =>
      cases b with
      | failed detected' text' =>
          rw [hfailed, hfailed] at h
          simp only [JsonValue.obj.injEq, List.cons.injEq, Prod.mk.injEq, JsonValue.bool.injEq,
            true_and, and_true] at h
          rw [h.1, json_injective h.2]
      | readOk rowCount =>
          rw [hfailed, hreadOk] at h
          simp at h
  | readOk rowCount =>
      cases b with
      | failed detected text =>
          rw [hfailed, hreadOk] at h
          simp at h
      | readOk rowCount' =>
          rw [hreadOk, hreadOk] at h
          simp only [JsonValue.obj.injEq, List.cons.injEq, Prod.mk.injEq, JsonValue.int.injEq,
            true_and, and_true, Int.natCast_inj] at h
          rw [h]

theorem InvalidIndexRow.eq_of_sortKeys (a b : InvalidIndexRow)
    (h : a.toDict.sortKeys = b.toDict.sortKeys) : a = b := by
  have hsorted : ∀ row : InvalidIndexRow, row.toDict.sortKeys =
      .obj [(py "index_name", row.indexName.json.sortKeys),
        (py "indisready", .bool row.indisready), (py "indisvalid", .bool row.indisvalid),
        (py "schema_name", row.schemaName.json.sortKeys),
        (py "table_name", row.tableName.json.sortKeys)] := fun _ => rfl
  rw [hsorted, hsorted] at h
  simp only [JsonValue.obj.injEq, List.cons.injEq, Prod.mk.injEq, JsonValue.bool.injEq,
    true_and, and_true] at h
  obtain ⟨hindex, hready, hvalid, hschema, htable⟩ := h
  cases a
  cases b
  simp only [InvalidIndexRow.mk.injEq]
  exact ⟨json_injective hschema, json_injective hindex, json_injective htable, hvalid, hready⟩

theorem EnrichedGroup.eq_of_sortKeys (a b : EnrichedGroup)
    (h : a.fingerprintFields.sortKeys = b.fingerprintFields.sortKeys) : a = b := by
  have hsorted : ∀ group : EnrichedGroup, group.fingerprintFields.sortKeys =
      .obj [(py "candidate_ids",
          (JsonValue.list (group.candidateIds.map ReadableStr.json)).sortKeys),
        (py "checksum_hex", group.checksumHex.json.sortKeys),
        (py "owner_id", group.ownerId.json.sortKeys), (py "row_count", .int group.rowCount)] :=
    fun _ => rfl
  rw [hsorted, hsorted] at h
  simp only [JsonValue.obj.injEq, List.cons.injEq, Prod.mk.injEq, JsonValue.int.injEq,
    true_and, and_true, Int.natCast_inj] at h
  obtain ⟨hids, hchecksum, howner, hcount⟩ := h
  obtain ⟨⟨_, _, _⟩, _⟩ := a
  obtain ⟨⟨_, _, _⟩, _⟩ := b
  simp only [EnrichedGroup.mk.injEq, DuplicateGroupRow.mk.injEq]
  exact ⟨⟨json_injective howner, json_injective hchecksum, hcount⟩,
    eq_of_sortKeys_list (fun _ _ => json_injective) hids⟩

theorem AssetForeignKeyRow.eq_of_sortKeys (a b : AssetForeignKeyRow)
    (h : a.toDict.sortKeys = b.toDict.sortKeys) : a = b := by
  have hsorted : ∀ row : AssetForeignKeyRow, row.toDict.sortKeys =
      .obj [(py "cascade_rule", row.cascadeRule.json.sortKeys),
        (py "constraint_name", row.constraintName.json.sortKeys),
        (py "referencing_column", row.referencingColumn.json.sortKeys),
        (py "referencing_schema", row.referencingSchema.json.sortKeys),
        (py "referencing_table", row.referencingTable.json.sortKeys)] := fun _ => rfl
  rw [hsorted, hsorted] at h
  simp only [JsonValue.obj.injEq, List.cons.injEq, Prod.mk.injEq, true_and, and_true] at h
  obtain ⟨hrule, hname, hcolumn, hschema, htable⟩ := h
  cases a
  cases b
  simp only [AssetForeignKeyRow.mk.injEq]
  exact ⟨json_injective hname, json_injective hschema, json_injective htable,
    json_injective hcolumn, json_injective hrule⟩

end Payloads

/-! ## Plans -/

section Plans

variable {σ : Type} {run : σ → Statement → Option σ} {database : σ} {ids : List PyStr}
  {applied : AppliedPlan σ} {steps : List PlanStep}

/-- The statements were run one after the other, all of them or up to the first that fails. -/
structure Executes (run : σ → Statement → Option σ) (database : σ) (planned : List Statement)
    (outcome : AppliedPlan σ) : Prop where
  statements : outcome.statements <+: planned
  database : outcome.statements.foldlM run database = some outcome.database
  complete : outcome.status = .completed ↔ outcome.statements = planned

end Plans

/-! ## Requests -/

section Requests

variable {σ : Type} {digest : PyStr → PyStr}

/-- What an apply relies on. -/
def StoredRepair.plan (stored : StoredRepair) : RepairScope × PlanToken :=
  (stored.scope, stored.token)

end Requests

/-! ## An index that is rebuilt -/

def readable (text : String) : ReadableStr :=
  ⟨py text, Json.readable_py text⟩

end ImmichDoctor.Db
