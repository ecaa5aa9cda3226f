import ImmichDoctor.Library.JsonText
import ImmichDoctor.Library.PathText
import Mathlib.Data.List.Chain
/-!
# Strings as JSON gives them back

What `json.loads` makes of a string that `json.dumps` wrote: a high surrogate and the low one
behind it become one code point. A string that was itself read from JSON has no such pair in it,
and stays the same however often it is written and read.
-/

namespace ImmichDoctor.Library.Json

/-! ## Writing and reading a string -/

/-- The code point that two surrogates stand for. -/
@[irreducible] def paired (high low : Nat) : Nat :=
  0x10000 + (high - 0xD800) * 1024 + (low - 0xDC00)

theorem le_paired (high low : Nat) : 0x10000 ≤ paired high low := by
  unfold paired
  omega

/-- `json.loads(json.dumps(text))`. -/
def reread : PyStr → PyStr
  | [] => []
  | [c] => [c]
  | c :: d :: text =>
      if isHigh c = true ∧ isLow d = true then paired c d :: reread text
      else c :: reread (d :: text)

/-- Without a high surrogate right before a low one. -/
def Settled (text : PyStr) : Prop :=
  text.IsChain fun c d => ¬ (isHigh c = true ∧ isLow d = true)

instance : DecidablePred Settled :=
  fun text => inferInstanceAs (Decidable (text.IsChain _))

theorem high_of_isHigh {c : Nat} (h : isHigh c = true) : 0xD800 ≤ c ∧ c ≤ 0xDBFF := by
  simpa only [isHigh, Bool.and_eq_true, decide_eq_true_eq] using h

theorem low_of_isLow {c : Nat} (h : isLow c = true) : 0xDC00 ≤ c ∧ c ≤ 0xDFFF := by
  simpa only [isLow, Bool.and_eq_true, decide_eq_true_eq] using h

theorem reread_of_settled {text : PyStr} (h : Settled text) : reread text = text := by
  fun_induction reread text with
  | case1 => rfl
  | case2 c => rfl
  | case3 c d text hpair ih => exact absurd hpair (List.isChain_cons_cons.mp h).1
  | case4 c d text hpair ih => rw [ih (List.isChain_cons_cons.mp h).2]

/-- What is read starts with the first code point, or with one beyond the basic plane. -/
theorem head_reread {c d : Nat} {text : PyStr} (h : d ∈ (reread (c :: text)).head?) :
    d = c ∨ 0x10000 ≤ d := by
  cases text with
  | nil =>
      rw [reread, List.head?_cons, Option.mem_some_iff] at h
      exact .inl h.symm
  | cons e text =>
      rw [reread] at h
      split at h
      · rw [List.head?_cons, Option.mem_some_iff] at h
        exact .inr (h ▸ le_paired c e)
      · rw [List.head?_cons, Option.mem_some_iff] at h
        exact .inl h.symm

theorem settled_reread (text : PyStr) : Settled (reread text) := by
  unfold Settled
  fun_induction reread text with
  | case1 => exact .nil
  | case2 c => exact .singleton c
  | case3 c d text hpair ih =>
      refine List.isChain_cons.mpr ⟨fun e _ hhigh => ?_, ih⟩
      have hlow := le_paired c d
      have hbound := (high_of_isHigh hhigh.1).2
      omega
  | case4 c d text hpair ih =>
      refine List.isChain_cons.mpr ⟨fun e he hlow => ?_, ih⟩
      rcases head_reread he with rfl | hbig
      · exact hpair hlow
      · have hbound := (low_of_isLow hlow.2).2
        omega

theorem reread_eq_self_iff {text : PyStr} : reread text = text ↔ Settled text :=
  ⟨fun h => h ▸ settled_reread text, reread_of_settled⟩

/-- A part of a settled text. -/
theorem Settled.of_infix {part text : PyStr} (h : Settled text) (hpart : part <:+: text) :
    Settled part :=
  h.infix hpart

theorem settled_of_readable {text : PyStr} (h : Readable text) : Settled text := by
  induction text with
  | nil => exact .nil
  | cons c text ih =>
      obtain ⟨-, hhigh⟩ := h c List.mem_cons_self
      refine List.isChain_cons.mpr ⟨fun d _ hpair => ?_,
        ih fun d hd => h d (List.mem_cons_of_mem c hd)⟩
      rw [hhigh] at hpair
      cases hpair.1

/-- A literal is read back. -/
theorem reread_py (text : String) : reread (py text) = py text :=
  reread_of_settled (settled_of_readable (readable_py text))

/-! ## The reader -/

namespace Reader

theorem isLow_of_isHigh {c : Nat} (h : isHigh c = true) : isLow c = false := by
  have hbound := (high_of_isHigh h).2
  rw [isLow, Bool.and_eq_false_iff, decide_eq_false_iff_not]
  omega

/-- A surrogate is written as one escape. -/
theorem escapeChar_surrogate {c : Nat} (hlow : 0xD800 ≤ c) (hhigh : c ≤ 0xDFFF) :
    escapeChar c = unicodeEscape c := by
  unfold escapeChar
  rw [if_neg (by omega), if_neg (by omega), if_neg (by omega), if_neg (by omega),
    if_neg (by omega), if_neg (by omega), if_neg (by omega), if_neg (by omega),
    if_pos (by omega)]

/-- Where the reader is when a high surrogate waits. -/
theorem read_escapeChar_high (items : List PyStr) (chars : PyStr) {c : Nat}
    (h : isHigh c = true) :
    read ⟨items, .text chars⟩ (escapeChar c) = some ⟨items, .pair chars c⟩ := by
  have hbound := high_of_isHigh h
  rw [escapeChar_surrogate (by omega) (by omega), read_unicodeEscape items chars (by omega), unit,
    if_pos h]

theorem read_pair_low (items : List PyStr) (chars : PyStr) (high : Nat) {c : Nat}
    (h : isLow c = true) : read ⟨items, .pair chars high⟩ (escapeChar c) =
      some ⟨items, .text (chars ++ [paired high c])⟩ := by
  have hbound := low_of_isLow h
  unfold paired
  rw [escapeChar_surrogate (by omega) (by omega)]
  exact read_lowEscape items chars h

/-- After another escape the high surrogate stands for itself. -/
theorem read_pair_unicodeEscape (items : List PyStr) (chars : PyStr) (high : Nat) {n : Nat}
    (hn : n < 0x10000) (h : isLow n = false) :
    read ⟨items, .pair chars high⟩ (unicodeEscape n) =
      read ⟨items, .text (chars ++ [high])⟩ (unicodeEscape n) := by
  have hstart : read ⟨items, .pair chars high⟩ [92, 117] =
      some ⟨items, .digits chars (some high) 0 0⟩ := rfl
  have happend : unicodeEscape n = [92, 117] ++ [hexDigit (n / 4096 % 16),
    hexDigit (n / 256 % 16), hexDigit (n / 16 % 16), hexDigit (n % 16)] := rfl
  rw [read_unicodeEscape items _ hn, happend, read_append, hstart, Option.bind_some,
    read_digits items chars (some high) hn, unitAfter, if_neg (by rw [h]; exact Bool.false_ne_true)]

theorem read_pair_other (items : List PyStr) (chars : PyStr) (high : Nat) {c : Nat}
    (hc : c ≤ 0x10FFFF) (h : isLow c = false) :
    read ⟨items, .pair chars high⟩ (escapeChar c) =
      read ⟨items, .text (chars ++ [high])⟩ (escapeChar c) := by
  unfold escapeChar
  split_ifs with hquote hbackslash hb ht hn hf hr hprintable hplane
  · rfl
  · rfl
  · rfl
  · rfl
  · rfl
  · rfl
  · rfl
  · simp only [read_cons, read_nil, step, if_neg hbackslash]
  · exact read_pair_unicodeEscape items chars high hplane h
  · -- the first of the two escapes is a high surrogate
    have hsurrogate : isHigh (0xD800 + (c - 0x10000) / 1024) = true := by
      simp only [isHigh, Bool.and_eq_true, decide_eq_true_eq]
      omega
    rw [read_append, read_append,
      read_pair_unicodeEscape items chars high (by omega) (isLow_of_isHigh hsurrogate)]

/-- The rest of a string, up to the quote: behind a code point, or behind a high surrogate. -/
theorem read_closed (items : List PyStr) (chars : PyStr) {text : PyStr}
    (htext : ∀ c ∈ text, c ≤ 0x10FFFF) :
    read ⟨items, .text chars⟩ (text.flatMap escapeChar ++ [34]) =
        some ⟨items ++ [chars ++ reread text], .closed⟩ ∧
      ∀ high, isHigh high = true →
        read ⟨items, .pair chars high⟩ (text.flatMap escapeChar ++ [34]) =
          some ⟨items ++ [chars ++ reread (high :: text)], .closed⟩ := by
  induction text generalizing chars with
  | nil =>
      refine ⟨?_, fun high _ => ?_⟩
      · rw [reread, List.append_nil]
        rfl
      · rw [reread]
        rfl
  | cons c text ih =>
      have hc := htext c List.mem_cons_self
      have hrest := fun d hd => htext d (List.mem_cons_of_mem c hd)
      have hplain : ∀ chars, read ⟨items, .text chars⟩ ((c :: text).flatMap escapeChar ++ [34]) =
          some ⟨items ++ [chars ++ reread (c :: text)], .closed⟩ := by
        intro chars
        rw [List.flatMap_cons, List.append_assoc, read_append]
        by_cases hhigh : isHigh c = true
        · rw [read_escapeChar_high items chars hhigh, Option.bind_some]
          exact (ih chars hrest).2 c hhigh
        · rw [Bool.not_eq_true] at hhigh
          rw [read_escapeChar items chars hc hhigh, Option.bind_some, (ih _ hrest).1]
          have hreread : reread (c :: text) = c :: reread text := by
            cases text with
            | nil => rfl
            | cons d text => rw [reread, if_neg (by simp [hhigh])]
          rw [hreread, List.append_assoc]
          rfl
      refine ⟨hplain chars, fun high hhigh => ?_⟩
      by_cases hlow : isLow c = true
      · rw [List.flatMap_cons, List.append_assoc, read_append, read_pair_low items chars high hlow,
          Option.bind_some, (ih _ hrest).1, reread, if_pos ⟨hhigh, hlow⟩, List.append_assoc]
        rfl
      · rw [Bool.not_eq_true] at hlow
        have hother := read_pair_other items chars high hc hlow
        rw [List.flatMap_cons, List.append_assoc, read_append, hother, ← read_append,
          ← List.append_assoc, ← List.flatMap_cons, hplain, reread, if_neg (by simp [hlow]),
          List.append_assoc]
        rfl

end Reader

end ImmichDoctor.Library.Json

namespace ImmichDoctor.Library

/-- A string that was read from JSON. -/
structure JsonStr where
  text : PyStr
  settled : Json.Settled text
  deriving DecidableEq

namespace JsonStr

/-- What is read where a text was written. -/
def read (text : PyStr) : JsonStr :=
  ⟨Json.reread text, Json.settled_reread text⟩

@[ext] theorem ext {a b : JsonStr} (h : a.text = b.text) : a = b := by
  cases a
  cases b
  cases h
  rfl

@[simp] theorem read_text (text : JsonStr) : read text.text = text :=
  ext (Json.reread_of_settled text.settled)

/-- A literal of the source. -/
def literal (text : String) : JsonStr :=
  ⟨py text, Json.settled_of_readable (Json.readable_py text)⟩

/-- `text.strip()`. -/
def strip (text : JsonStr) : JsonStr :=
  ⟨text.text.strip, text.settled.of_infix (PyStr.strip_infix text.text)⟩

end JsonStr

end ImmichDoctor.Library
