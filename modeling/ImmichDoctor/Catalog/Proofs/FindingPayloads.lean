import ImmichDoctor.Catalog.RemediationFindings
import ImmichDoctor.Consistency.Proofs.PreviewedDeletes
/-!
# What the payload of a finding determines

`to_dict` shows every field of a finding, so findings with the same payload up to the order
of its keys are the same finding.
-/

namespace ImmichDoctor.Catalog

open ImmichDoctor.Library
open ImmichDoctor.Library.JsonValue
open ImmichDoctor.Consistency (textItems sortKeys_textItems textItems_injective readable_textItems)

/-! ## Values -/

open BrokenDbOriginalFinding (textValue sizeValue)

theorem sortKeys_textValue (value : Option PyStr) :
    (textValue value).sortKeys = textValue value := by
  cases value <;> rfl

theorem sortKeys_sizeValue (value : Option Nat) : (sizeValue value).sortKeys = sizeValue value := by
  cases value <;> rfl

theorem sortKeys_boolValue (value : Option Bool) :
    (value.elim JsonValue.null JsonValue.bool).sortKeys = value.elim .null .bool := by
  cases value <;> rfl

theorem textValue_injective : Function.Injective textValue := by
  intro a b h
  cases a <;> cases b <;> simp_all [textValue]

theorem sizeValue_injective : Function.Injective sizeValue := by
  intro a b h
  cases a <;> cases b <;> simp_all [sizeValue]

theorem boolValue_injective :
    Function.Injective fun value : Option Bool => value.elim JsonValue.null .bool := by
  intro a b h
  cases a <;> cases b <;> simp_all

theorem readable_textValue {value : Option PyStr} (h : ∀ text ∈ value, Json.Readable text) :
    (textValue value).Readable := by
  cases value with
  | none => trivial
  | some text => exact h text rfl

theorem readable_sizeValue (value : Option Nat) : (sizeValue value).Readable := by
  cases value <;> trivial

theorem readable_boolValue (value : Option Bool) :
    (value.elim JsonValue.null JsonValue.bool).Readable := by
  cases value <;> trivial

theorem kind_value_injective : Function.Injective CatalogRemediationFindingKind.value := by
  intro a b h
  cases a <;> cases b <;> first | rfl | exact absurd h (by decide)

theorem action_value_injective : Function.Injective CatalogRemediationActionKind.value := by
  intro a b h
  cases a <;> cases b <;> first | rfl | exact absurd h (by decide)

theorem actionValues_eq (actions : List CatalogRemediationActionKind) :
    (JsonValue.list (actions.map fun action => .str action.value)) =
      textItems (actions.map (·.value)) := by
  rw [textItems, List.map_map]
  rfl

theorem actionValues_injective {actions others : List CatalogRemediationActionKind}
    (h : (JsonValue.list (actions.map fun action => .str action.value)).sortKeys =
      (JsonValue.list (others.map fun action => .str action.value)).sortKeys) :
    actions = others := by
  rw [actionValues_eq, actionValues_eq, sortKeys_textItems, sortKeys_textItems] at h
  exact List.map_injective_iff.mpr action_value_injective (textItems_injective h)

theorem readable_actionValues (actions : List CatalogRemediationActionKind) :
    (JsonValue.list (actions.map fun action => .str action.value)).Readable := by
  rw [actionValues_eq]
  apply readable_textItems
  intro text htext
  obtain ⟨action, -, rfl⟩ := List.mem_map.mp htext
  cases action <;> exact Json.readable_py _

/-- The fields of objects with the same distinct keys agree one by one. -/
theorem fields_agree {fields others : List (PyStr × JsonValue)} (keys : List PyStr)
    (hkeys : fields.map (·.1) = keys) (hothers : others.map (·.1) = keys) (hnodup : keys.Nodup)
    (h : (JsonValue.obj fields).sortKeys = (JsonValue.obj others).sortKeys) :
    fields.map (fun field => (field.1, field.2.sortKeys)) =
      others.map fun field => (field.1, field.2.sortKeys) := by
  rw [← sortFields_eq_map, ← sortFields_eq_map]
  exact sortFields_eq_of_sortKeys (hkeys.trans hothers.symm) (hkeys ▸ hnodup) h

/-! ## Broken originals -/

namespace BrokenDbOriginalFinding

/-- The keys of `to_dict`. -/
def keys : List PyStr :=
  [py "finding_id", py "kind", py "asset_id", py "asset_name", py "asset_type",
    py "classification", py "expected_database_path", py "expected_relative_path",
    py "expected_absolute_path", py "found_root_slug", py "found_relative_path",
    py "found_absolute_path", py "found_size_bytes", py "expected_size_bytes",
    py "checksum_value", py "checksum_algorithm", py "checksum_match", py "owner_id",
    py "owner_label", py "eligible_actions", py "action_eligible", py "action_reason",
    py "search_error", py "message"]

/-- The texts of the finding are readable. -/
structure Readable (finding : BrokenDbOriginalFinding) : Prop where
  findingId : Json.Readable finding.findingId
  assetId : Json.Readable finding.assetId
  assetName : ∀ text ∈ finding.assetName, Json.Readable text
  assetType : ∀ text ∈ finding.assetType, Json.Readable text
  expectedDatabasePath : Json.Readable finding.expectedDatabasePath
  expectedRelativePath : Json.Readable finding.expectedRelativePath
  expectedAbsolutePath : ∀ text ∈ finding.expectedAbsolutePath, Json.Readable text
  foundRootSlug : ∀ text ∈ finding.foundRootSlug, Json.Readable text
  foundRelativePath : ∀ text ∈ finding.foundRelativePath, Json.Readable text
  foundAbsolutePath : ∀ text ∈ finding.foundAbsolutePath, Json.Readable text
  checksumValue : ∀ text ∈ finding.checksumValue, Json.Readable text
  checksumAlgorithm : ∀ text ∈ finding.checksumAlgorithm, Json.Readable text
  ownerId : ∀ text ∈ finding.ownerId, Json.Readable text
  ownerLabel : ∀ text ∈ finding.ownerLabel, Json.Readable text
  actionReason : Json.Readable finding.actionReason
  searchError : ∀ text ∈ finding.searchError, Json.Readable text
  message : Json.Readable finding.message

theorem classification_value_injective :
    Function.Injective BrokenDbOriginalClassification.value := by
  intro a b h
  cases a <;> cases b <;> first | rfl | exact absurd h (by decide)

theorem Readable.toDict {finding : BrokenDbOriginalFinding} (h : finding.Readable) :
    finding.toDict.Readable := by
  have hkind : Json.Readable finding.kind.value := by
    cases finding.kind <;> exact Json.readable_py _
  have hclassification : Json.Readable finding.classification.value := by
    cases finding.classification <;> exact Json.readable_py _
  simp only [BrokenDbOriginalFinding.toDict, JsonValue.Readable, FieldsReadable, Json.readable_py,
    true_and, and_true]
  exact ⟨h.findingId, hkind, h.assetId, readable_textValue h.assetName,
    readable_textValue h.assetType, hclassification, h.expectedDatabasePath,
    h.expectedRelativePath, readable_textValue h.expectedAbsolutePath,
    readable_textValue h.foundRootSlug, readable_textValue h.foundRelativePath,
    readable_textValue h.foundAbsolutePath, readable_sizeValue _, readable_sizeValue _,
    readable_textValue h.checksumValue, readable_textValue h.checksumAlgorithm,
    readable_boolValue _, readable_textValue h.ownerId, readable_textValue h.ownerLabel,
    readable_actionValues _, h.actionReason, readable_textValue h.searchError, h.message⟩

theorem eq_of_sortKeys {a b : BrokenDbOriginalFinding}
    (h : a.toDict.sortKeys = b.toDict.sortKeys) : a = b := by
  have hfields := fields_agree keys rfl rfl (by decide) h
  simp only [List.map_cons, List.map_nil, sortKeys_textValue, sortKeys_sizeValue,
    sortKeys_boolValue, List.cons.injEq, Prod.mk.injEq, true_and, and_true] at hfields
  obtain ⟨hid, hkind, hasset, hname, htype, hclass, hdb, hrel, habs, hslug, hfrel, hfabs, hsize,
    hesize, hsum, halg, hmatch, howner, hlabel, hactions, -, hreason, herror, hmessage⟩ := hfields
  cases a
  cases b
  simp only [mk.injEq]
  exact ⟨str.inj hid, kind_value_injective (str.inj hkind), str.inj hasset,
    textValue_injective hname, textValue_injective htype,
    classification_value_injective (str.inj hclass), str.inj hdb, str.inj hrel,
    textValue_injective habs, textValue_injective hslug, textValue_injective hfrel,
    textValue_injective hfabs, sizeValue_injective hsize, sizeValue_injective hesize,
    textValue_injective hsum, textValue_injective halg, boolValue_injective hmatch,
    textValue_injective howner, textValue_injective hlabel, actionValues_injective hactions,
    str.inj hreason, textValue_injective herror, str.inj hmessage⟩

end BrokenDbOriginalFinding

/-! ## Files without content -/

namespace ZeroByteFinding

/-- The keys of `to_dict`. -/
def keys : List PyStr :=
  [py "finding_id", py "kind", py "root_slug", py "relative_path", py "absolute_path",
    py "file_name", py "size_bytes", py "classification", py "asset_id", py "asset_name",
    py "owner_id", py "owner_label", py "db_reference_kind", py "original_relative_path",
    py "eligible_actions", py "action_eligible", py "action_reason", py "message"]

/-- The texts of the finding are readable. -/
structure Readable (finding : ZeroByteFinding) : Prop where
  findingId : Json.Readable finding.findingId
  rootSlug : Json.Readable finding.rootSlug
  relativePath : Json.Readable finding.relativePath
  absolutePath : Json.Readable finding.absolutePath
  fileName : Json.Readable finding.fileName
  assetId : ∀ text ∈ finding.assetId, Json.Readable text
  assetName : ∀ text ∈ finding.assetName, Json.Readable text
  ownerId : ∀ text ∈ finding.ownerId, Json.Readable text
  ownerLabel : ∀ text ∈ finding.ownerLabel, Json.Readable text
  dbReferenceKind : ∀ text ∈ finding.dbReferenceKind, Json.Readable text
  originalRelativePath : ∀ text ∈ finding.originalRelativePath, Json.Readable text
  actionReason : Json.Readable finding.actionReason
  message : Json.Readable finding.message

theorem classification_value_injective : Function.Injective ZeroByteClassification.value := by
  intro a b h
  cases a <;> cases b <;> first | rfl | exact absurd h (by decide)

theorem Readable.toDict {finding : ZeroByteFinding} (h : finding.Readable) :
    finding.toDict.Readable := by
  have hkind : Json.Readable finding.kind.value := by
    cases finding.kind <;> exact Json.readable_py _
  have hclassification : Json.Readable finding.classification.value := by
    cases finding.classification <;> exact Json.readable_py _
  simp only [ZeroByteFinding.toDict, JsonValue.Readable, FieldsReadable, Json.readable_py,
    true_and, and_true]
  exact ⟨h.findingId, hkind, h.rootSlug, h.relativePath, h.absolutePath, h.fileName,
    hclassification, readable_textValue h.assetId, readable_textValue h.assetName,
    readable_textValue h.ownerId, readable_textValue h.ownerLabel,
    readable_textValue h.dbReferenceKind, readable_textValue h.originalRelativePath,
    readable_actionValues _, h.actionReason, h.message⟩

theorem eq_of_sortKeys {a b : ZeroByteFinding} (h : a.toDict.sortKeys = b.toDict.sortKeys) :
    a = b := by
  have hfields := fields_agree keys rfl rfl (by decide) h
  simp only [List.map_cons, List.map_nil, sortKeys_textValue, List.cons.injEq, Prod.mk.injEq,
    true_and, and_true] at hfields
  obtain ⟨hid, hkind, hslug, hrel, habs, hfile, hsize, hclass, hasset, hname, howner, hlabel,
    hreference, horiginal, hactions, -, hreason, hmessage⟩ := hfields
  cases a
  cases b
  simp only [mk.injEq]
  exact ⟨str.inj hid, kind_value_injective (str.inj hkind), str.inj hslug, str.inj hrel,
    str.inj habs, str.inj hfile, Int.ofNat.inj (int.inj hsize),
    classification_value_injective (str.inj hclass), textValue_injective hasset,
    textValue_injective hname, textValue_injective howner, textValue_injective hlabel,
    textValue_injective hreference, textValue_injective horiginal,
    actionValues_injective hactions, str.inj hreason, str.inj hmessage⟩

end ZeroByteFinding

/-! ## Hidden files of a FUSE mount -/

namespace FuseHiddenOrphanFinding

/-- The keys of `to_dict`. -/
def keys : List PyStr :=
  [py "finding_id", py "kind", py "root_slug", py "relative_path", py "absolute_path",
    py "file_name", py "size_bytes", py "classification", py "owner_id", py "owner_label",
    py "eligible_actions", py "action_eligible", py "action_reason", py "in_use_check_tool",
    py "in_use_check_reason", py "message"]

/-- The texts of the finding are readable. -/
structure Readable (finding : FuseHiddenOrphanFinding) : Prop where
  findingId : Json.Readable finding.findingId
  rootSlug : Json.Readable finding.rootSlug
  relativePath : Json.Readable finding.relativePath
  absolutePath : Json.Readable finding.absolutePath
  fileName : Json.Readable finding.fileName
  ownerId : ∀ text ∈ finding.ownerId, Json.Readable text
  ownerLabel : ∀ text ∈ finding.ownerLabel, Json.Readable text
  actionReason : Json.Readable finding.actionReason
  inUseCheckTool : ∀ text ∈ finding.inUseCheckTool, Json.Readable text
  inUseCheckReason : ∀ text ∈ finding.inUseCheckReason, Json.Readable text
  message : Json.Readable finding.message

theorem classification_value_injective :
    Function.Injective FuseHiddenOrphanClassification.value := by
  intro a b h
  cases a <;> cases b <;> first | rfl | exact absurd h (by decide)

theorem Readable.toDict {finding : FuseHiddenOrphanFinding} (h : finding.Readable) :
    finding.toDict.Readable := by
  have hkind : Json.Readable finding.kind.value := by
    cases finding.kind <;> exact Json.readable_py _
  have hclassification : Json.Readable finding.classification.value := by
    cases finding.classification <;> exact Json.readable_py _
  simp only [FuseHiddenOrphanFinding.toDict, JsonValue.Readable, FieldsReadable, Json.readable_py,
    true_and, and_true]
  exact ⟨h.findingId, hkind, h.rootSlug, h.relativePath, h.absolutePath, h.fileName,
    hclassification, readable_textValue h.ownerId, readable_textValue h.ownerLabel,
    readable_actionValues _, h.actionReason, readable_textValue h.inUseCheckTool,
    readable_textValue h.inUseCheckReason, h.message⟩

theorem eq_of_sortKeys {a b : FuseHiddenOrphanFinding}
    (h : a.toDict.sortKeys = b.toDict.sortKeys) : a = b := by
  have hfields := fields_agree keys rfl rfl (by decide) h
  simp only [List.map_cons, List.map_nil, sortKeys_textValue, List.cons.injEq, Prod.mk.injEq,
    true_and, and_true] at hfields
  obtain ⟨hid, hkind, hslug, hrel, habs, hfile, hsize, hclass, howner, hlabel, hactions, -,
    hreason, htool, hcheck, hmessage⟩ := hfields
  cases a
  cases b
  simp only [mk.injEq]
  exact ⟨str.inj hid, kind_value_injective (str.inj hkind), str.inj hslug, str.inj hrel,
    str.inj habs, str.inj hfile, Int.ofNat.inj (int.inj hsize),
    classification_value_injective (str.inj hclass), textValue_injective howner,
    textValue_injective hlabel, actionValues_injective hactions, str.inj hreason,
    textValue_injective htool, textValue_injective hcheck, str.inj hmessage⟩

end FuseHiddenOrphanFinding

/-! ## Lists of findings -/

/-- Lists with the same payloads up to the order of keys are the same. -/
theorem eq_of_sortItems {α : Type} {toDict : α → JsonValue}
    (hinjective : ∀ a b, (toDict a).sortKeys = (toDict b).sortKeys → a = b) {xs ys : List α}
    (h : sortItems (xs.map toDict) = sortItems (ys.map toDict)) : xs = ys := by
  rw [sortItems_eq_map, sortItems_eq_map, List.map_map, List.map_map] at h
  exact List.map_injective_iff.mpr (fun a b hab => hinjective a b hab) h

end ImmichDoctor.Catalog
