import ImmichDoctor.Library.JsonDocuments
import Mathlib.Data.List.TakeWhile
/-!
# How far a document has come

A scan of a text keeps the number of open brackets and whether it is in a string. What `loads`
reads as an object is scanned to its end, so the beginning of a document is none, and stays none
whatever beginnings of other documents follow it.
-/

namespace ImmichDoctor.Library.JsonValue

/-- A depth is the number of brackets that are open around the innermost one. -/
inductive ScanState
  | start
  | within (depth : Nat)
  | text (depth : Nat)
  /-- After a backslash. -/
  | escape (depth : Nat)
  /-- After the quote that closes a string. -/
  | behind (depth : Nat)
  | done
  deriving DecidableEq

namespace ScanState

/-- After a closing bracket. -/
def closed : Nat → ScanState
  | 0 => done
  | depth + 1 => within depth

def step (s : ScanState) (c : Nat) : Option ScanState :=
  match s with
  | start => if c = 91 ∨ c = 123 then some (within 0) else none
  | within depth =>
      if c = 34 then some (text depth)
      else if c = 91 ∨ c = 123 then some (within (depth + 1))
      else if c = 93 ∨ c = 125 then some (closed depth)
      else some (within depth)
  | text depth =>
      if c = 34 then some (behind depth)
      else if c = 92 then some (escape depth)
      else some (text depth)
  | escape depth => some (text depth)
  | behind depth =>
      if Json.isBlank c = true ∨ c = 44 ∨ c = 58 then some (within depth)
      else if c = 93 ∨ c = 125 then some (closed depth)
      else none
  | done => if Json.isBlank c = true then some done else none

def scan (s : ScanState) (chars : PyStr) : Option ScanState :=
  chars.foldlM step s

@[simp] theorem scan_nil (s : ScanState) : s.scan [] = some s := rfl

@[simp] theorem scan_cons (s : ScanState) (c : Nat) (chars : PyStr) :
    s.scan (c :: chars) = (s.step c).bind fun next => next.scan chars := rfl

theorem scan_append (s : ScanState) (first second : PyStr) :
    s.scan (first ++ second) = (s.scan first).bind fun next => next.scan second :=
  List.foldlM_append

/-- Something was read, and brackets are open. -/
def Open : ScanState → Prop
  | start | done => False
  | _ => True

/-! ## Deeper in a document -/

/-- The state behind some open brackets, one more than `outer`. -/
def lift (outer : Nat) : ScanState → ScanState
  | start | done => within outer
  | within depth => within (depth + outer + 1)
  | text depth => text (depth + outer + 1)
  | escape depth => escape (depth + outer + 1)
  | behind depth => behind (depth + outer + 1)

theorem open_lift (outer : Nat) (s : ScanState) : (lift outer s).Open := by
  cases s <;> trivial

theorem lift_closed (outer depth : Nat) :
    lift outer (closed depth) = closed (depth + outer + 1) := by
  cases depth with
  | zero => rw [closed, lift, Nat.zero_add, closed]
  | succ depth =>
      rw [closed, lift, closed]
      congr 1
      omega

theorem not_structural_of_blank {c : Nat} (h : Json.isBlank c = true) :
    c ≠ 34 ∧ ¬ (c = 91 ∨ c = 123) ∧ ¬ (c = 93 ∨ c = 125) := by
  simp only [Json.isBlank, Bool.or_eq_true, beq_iff_eq] at h
  omega

theorem step_within_of_blank {c : Nat} (h : Json.isBlank c = true) (depth : Nat) :
    (within depth).step c = some (within depth) := by
  obtain ⟨hquote, hopening, hclosing⟩ := not_structural_of_blank h
  rw [step, if_neg hquote, if_neg hopening, if_neg hclosing]

/-- A step is the same behind other open brackets. -/
theorem step_lift {outer : Nat} {s next : ScanState} {c : Nat} (h : s.step c = some next) :
    (lift outer s).step c = some (lift outer next) := by
  cases s with
  | start =>
      rw [step] at h
      split at h
      · next hopening =>
          rw [← Option.some.inj h]
          have hquote : c ≠ 34 := by omega
          rw [lift, step, if_neg hquote, if_pos hopening, lift, Nat.zero_add]
      · cases h
  | within depth =>
      rw [lift]
      unfold step at h ⊢
      simp only at h ⊢
      split_ifs at h ⊢
      all_goals rw [← Option.some.inj h]
      · rfl
      · rw [lift]
        congr 2
        omega
      · rw [lift_closed]
      · rfl
  | text depth =>
      rw [lift]
      unfold step at h ⊢
      simp only at h ⊢
      split_ifs at h ⊢
      all_goals rw [← Option.some.inj h]; rfl
  | escape depth =>
      rw [← Option.some.inj h]
      rfl
  | behind depth =>
      rw [lift]
      unfold step at h ⊢
      simp only at h ⊢
      split_ifs at h ⊢
      all_goals rw [← Option.some.inj h]
      · rfl
      · rw [lift_closed]
  | done =>
      rw [step] at h
      split at h
      · next hblank =>
          rw [← Option.some.inj h]
          exact step_within_of_blank hblank outer
      · cases h

theorem scan_lift {outer : Nat} {s next : ScanState} {chars : PyStr}
    (h : s.scan chars = some next) : (lift outer s).scan chars = some (lift outer next) := by
  induction chars generalizing s with
  | nil => rw [← Option.some.inj h]; rfl
  | cons c chars ih =>
      obtain ⟨between, hstep, hrest⟩ := Option.bind_eq_some_iff.mp h
      rw [scan_cons, step_lift hstep]
      exact ih hrest

/-! ## Blanks and neutral parts -/

theorem scan_within_of_neutral {chars : PyStr}
    (h : ∀ c ∈ chars, c ≠ 34 ∧ ¬ (c = 91 ∨ c = 123) ∧ ¬ (c = 93 ∨ c = 125)) (depth : Nat) :
    (within depth).scan chars = some (within depth) := by
  induction chars with
  | nil => rfl
  | cons c chars ih =>
      obtain ⟨⟨hquote, hopening, hclosing⟩, hrest⟩ := List.forall_mem_cons.mp h
      rw [scan_cons, step, if_neg hquote, if_neg hopening, if_neg hclosing]
      exact ih hrest

theorem scan_within_of_blanks {blanks : PyStr} (h : ∀ c ∈ blanks, Json.isBlank c = true)
    (depth : Nat) : (within depth).scan blanks = some (within depth) :=
  scan_within_of_neutral (fun c hc => not_structural_of_blank (h c hc)) depth

theorem scan_done_iff {chars : PyStr} {next : ScanState} :
    done.scan chars = some next ↔ next = done ∧ ∀ c ∈ chars, Json.isBlank c = true := by
  induction chars with
  | nil =>
      rw [scan_nil, Option.some.injEq]
      exact ⟨fun h => ⟨h.symm, by simp⟩, fun h => h.1.symm⟩
  | cons c chars ih =>
      rw [scan_cons, step, List.forall_mem_cons]
      split
      · next hblank =>
          rw [Option.bind_some, ih]
          exact ⟨fun h => ⟨h.1, hblank, h.2⟩, fun h => ⟨h.1, h.2.2⟩⟩
      · next hblank => exact iff_of_false (by simp) fun h => hblank h.2.1

/-- The state behind a value at a depth. -/
def AfterValue (depth : Nat) (s : ScanState) : Prop :=
  s = within depth ∨ s = behind depth

theorem AfterValue.scan_blanks {depth : Nat} {s : ScanState} (h : AfterValue depth s)
    {blanks : PyStr} (hblanks : ∀ c ∈ blanks, Json.isBlank c = true) :
    ∃ next, s.scan blanks = some next ∧ AfterValue depth next := by
  rcases h with rfl | rfl
  · exact ⟨_, scan_within_of_blanks hblanks depth, .inl rfl⟩
  · cases blanks with
    | nil => exact ⟨_, rfl, .inr rfl⟩
    | cons c blanks =>
        obtain ⟨hblank, hrest⟩ := List.forall_mem_cons.mp hblanks
        refine ⟨within depth, ?_, .inl rfl⟩
        rw [scan_cons, step, if_pos (.inl hblank)]
        exact scan_within_of_blanks hrest depth

/-- A separator behind a value. -/
theorem AfterValue.step_separator {depth c : Nat} {s : ScanState} (h : AfterValue depth s)
    (hc : c = 44 ∨ c = 58) : s.step c = some (within depth) := by
  rcases h with rfl | rfl
  · rw [step, if_neg (by omega), if_neg (by omega), if_neg (by omega)]
  · rw [step, if_pos (.inr hc)]

theorem AfterValue.step_closing {depth c : Nat} {s : ScanState} (h : AfterValue depth s)
    (hc : c = 93 ∨ c = 125) : s.step c = some (closed depth) := by
  rcases h with rfl | rfl
  · rw [step, if_neg (by omega), if_neg (by omega), if_pos hc]
  · have hneither : ¬ (Json.isBlank c = true ∨ c = 44 ∨ c = 58) := by
      rcases hc with rfl | rfl <;> decide
    rw [step, if_neg hneither, if_pos hc]

end ScanState

/-! ## What is parsed is scanned -/

section Parsing

open ScanState

variable {t rest : PyStr}

theorem exists_skipBlanks (t : PyStr) :
    ∃ blanks, t = blanks ++ skipBlanks t ∧ ∀ c ∈ blanks, Json.isBlank c = true := by
  refine ⟨t.takeWhile Json.isBlank, (List.takeWhile_append_dropWhile ..).symm, fun c hc => ?_⟩
  exact List.mem_takeWhile_imp hc

/-- A text that goes on with a character behind its blanks. -/
theorem exists_of_head_skipBlanks {c : Nat} (h : (skipBlanks t).head? = some c) :
    ∃ blanks, t = blanks ++ c :: (skipBlanks t).tail ∧ ∀ d ∈ blanks, Json.isBlank d = true := by
  obtain ⟨blanks, hsplit, hblanks⟩ := exists_skipBlanks t
  refine ⟨blanks, ?_, hblanks⟩
  cases hskip : skipBlanks t with
  | nil => rw [hskip] at h; cases h
  | cons d tail =>
      rw [hskip, List.head?_cons, Option.some.injEq] at h
      rw [hskip, h] at hsplit
      exact hsplit

theorem scan_closingQuote {body : PyStr} (h : Json.closingQuote t = some (body, rest)) :
    t = body ++ 34 :: rest ∧ ∀ depth, (text depth).scan body = some (text depth) := by
  fun_induction Json.closingQuote t generalizing body rest with
  | case1 => cases h
  | case2 tail =>
      cases Option.some.inj h
      exact ⟨rfl, fun depth => rfl⟩
  | case3 c tail ih =>
      obtain ⟨⟨inner, behind⟩, hinner, heq⟩ := Option.map_eq_some_iff.mp h
      obtain ⟨rfl, rfl⟩ := Prod.mk.injEq _ _ _ _ ▸ heq
      obtain ⟨hsplit, hscan⟩ := ih hinner
      exact ⟨by rw [hsplit]; rfl, fun depth => hscan depth⟩
  | case4 c tail hquote hbackslash ih =>
      obtain ⟨⟨inner, behind⟩, hinner, heq⟩ := Option.map_eq_some_iff.mp h
      obtain ⟨rfl, rfl⟩ := Prod.mk.injEq _ _ _ _ ▸ heq
      obtain ⟨hsplit, hscan⟩ := ih hinner
      refine ⟨by rw [hsplit]; rfl, fun depth => ?_⟩
      have hescape : c ≠ 92 := by
        intro heq
        cases tail with
        | nil => cases hinner
        | cons d tail => exact hbackslash d tail heq rfl
      rw [scan_cons, step, if_neg hquote, if_neg hescape]
      exact hscan depth

/-- A string is scanned to its closing quote. -/
theorem scan_parseString {content : PyStr} (h : parseString t = some (content, rest)) :
    ∃ used, t = used ++ rest ∧ ∀ depth, (text depth).scan used = some (behind depth) := by
  obtain ⟨⟨body, other⟩, hcut, hread⟩ := Option.bind_eq_some_iff.mp h
  obtain ⟨reader, -, hitem⟩ := Option.bind_eq_some_iff.mp hread
  obtain ⟨item, -, hresult⟩ := Option.bind_eq_some_iff.mp hitem
  obtain ⟨rfl, rfl⟩ := Prod.mk.injEq _ _ _ _ ▸ Option.some.inj hresult
  obtain ⟨hsplit, hscan⟩ := scan_closingQuote hcut
  refine ⟨body ++ [34], by rw [hsplit, List.append_assoc]; rfl, fun depth => ?_⟩
  rw [scan_append, hscan]
  rfl

/-- The rest of a text behind what the scan takes from inside of brackets to such a state. -/
def Scanned (t rest : PyStr) (after : Nat → ScanState → Prop) : Prop :=
  ∃ used, t = used ++ rest ∧ ∀ depth, ∃ next, (within depth).scan used = some next ∧
    after depth next

/-- The scan of what ends with the bracket of its depth. -/
def AfterClosing (depth : Nat) (s : ScanState) : Prop :=
  s = closed depth

theorem Scanned.of_neutral {used : PyStr} (hsplit : t = used ++ rest)
    (h : ∀ c ∈ used, c ≠ 34 ∧ ¬ (c = 91 ∨ c = 123) ∧ ¬ (c = 93 ∨ c = 125)) :
    Scanned t rest AfterValue :=
  ⟨used, hsplit, fun depth => ⟨_, scan_within_of_neutral h depth, .inl rfl⟩⟩

theorem scanned_parseInt {value : JsonValue} (h : parseInt t = some (value, rest)) :
    Scanned t rest AfterValue := by
  have hdigit : ∀ c, PyStr.IsDigit c → c ≠ 34 ∧ ¬ (c = 91 ∨ c = 123) ∧ ¬ (c = 93 ∨ c = 125) := by
    intro c hc
    have hbounds : 48 ≤ c ∧ c ≤ 57 := hc
    omega
  have hdigits : ∀ u : PyStr, leadingDigits u <+: u ∧ ∀ c ∈ leadingDigits u, PyStr.IsDigit c := by
    intro u
    unfold leadingDigits
    split
    · next hzero =>
        cases u with
        | nil => cases hzero
        | cons c u =>
            rw [List.head?_cons, Option.some.injEq] at hzero
            rw [hzero]
            refine ⟨⟨u, rfl⟩, fun d hd => ?_⟩
            rw [List.mem_singleton.mp hd]
            exact ⟨by omega, by omega⟩
    · refine ⟨List.takeWhile_prefix _, fun c hc => ?_⟩
      have hdigit := List.mem_takeWhile_imp hc
      exact of_decide_eq_true hdigit
  have hsplit : ∀ u : PyStr, u = leadingDigits u ++ u.drop (leadingDigits u).length := fun u =>
    (List.prefix_iff_eq_append.mp (hdigits u).1).symm
  unfold parseInt at h
  by_cases hminus : t.head? = some 45
  · simp only [hminus, if_true] at h
    split at h
    · cases h
    · obtain ⟨-, rfl⟩ := Prod.mk.injEq _ _ _ _ ▸ Option.some.inj h
      have hcons : 45 :: t.tail = t := List.cons_head?_tail hminus
      have hused : t = (45 :: leadingDigits t.tail) ++ t.tail.drop
          (leadingDigits t.tail).length := by
        rw [List.cons_append, ← hsplit, hcons]
      refine .of_neutral hused (List.forall_mem_cons.mpr ⟨by omega, fun d hd => ?_⟩)
      exact hdigit d ((hdigits t.tail).2 d hd)
  · simp only [hminus, if_false] at h
    split at h
    · cases h
    · obtain ⟨-, rfl⟩ := Prod.mk.injEq _ _ _ _ ▸ Option.some.inj h
      exact .of_neutral (hsplit t) fun d hd => hdigit d ((hdigits t).2 d hd)

theorem scanned_literal {word : PyStr} {size : Nat} (hword : t.take size = word)
    (h : ∀ c ∈ word, c ≠ 34 ∧ ¬ (c = 91 ∨ c = 123) ∧ ¬ (c = 93 ∨ c = 125)) :
    Scanned t (t.drop size) AfterValue := by
  refine .of_neutral (List.take_append_drop size t).symm ?_
  rw [hword]
  exact h

/-- What closes at the depth inside of a bracket is a value at the depth around it. -/
theorem Scanned.bracketed {c : Nat} {tail behind : PyStr} (hc : c = 91 ∨ c = 123)
    (htail : skipBlanks tail = behind) (h : Scanned behind rest AfterClosing) :
    Scanned (c :: tail) rest AfterValue := by
  obtain ⟨blanks, hsplit, hblanks⟩ := exists_skipBlanks tail
  obtain ⟨used, hused, hscan⟩ := h
  refine ⟨c :: (blanks ++ used), ?_, fun depth => ?_⟩
  · rw [List.cons_append, List.append_assoc, ← hused, ← htail, ← hsplit]
  · obtain ⟨next, hnext, hclosed⟩ := hscan (depth + 1)
    have hstep : (within depth).step c = some (within (depth + 1)) := by
      rw [step, if_neg (by omega), if_pos hc]
    refine ⟨next, ?_, .inl hclosed⟩
    rw [scan_cons, hstep, Option.bind_some, scan_append, scan_within_of_blanks hblanks,
      Option.bind_some, hnext]

/-- A bracket that closes behind a value. -/
theorem Scanned.closing {c : Nat} {between : PyStr} (h : Scanned t between AfterValue)
    (hc : c = 93 ∨ c = 125) (hhead : (skipBlanks between).head? = some c) :
    Scanned t (skipBlanks between).tail AfterClosing := by
  obtain ⟨used, hused, hscan⟩ := h
  obtain ⟨blanks, hsplit, hblanks⟩ := exists_of_head_skipBlanks hhead
  refine ⟨used ++ (blanks ++ [c]), ?_, fun depth => ⟨_, ?_, rfl⟩⟩
  · rw [hused, List.append_assoc, List.append_assoc, List.singleton_append, ← hsplit]
  · obtain ⟨value, hvalue, hafter⟩ := hscan depth
    obtain ⟨next, hnext, hnextAfter⟩ := hafter.scan_blanks hblanks
    rw [scan_append, hvalue, Option.bind_some, scan_append, hnext, Option.bind_some, scan_cons,
      hnextAfter.step_closing hc, Option.bind_some, scan_nil]

/-- A separator behind a value, and what is behind it. -/
theorem Scanned.separated {c : Nat} {between : PyStr} {after : Nat → ScanState → Prop}
    (h : Scanned t between AfterValue) (hc : c = 44 ∨ c = 58)
    (hhead : (skipBlanks between).head? = some c)
    (hrest : Scanned (skipBlanks (skipBlanks between).tail) rest after) : Scanned t rest after := by
  obtain ⟨used, hused, hscan⟩ := h
  obtain ⟨blanks, hsplit, hblanks⟩ := exists_of_head_skipBlanks hhead
  obtain ⟨more, hmore, hmoreBlanks⟩ := exists_skipBlanks (skipBlanks between).tail
  obtain ⟨last, hlast, hlastScan⟩ := hrest
  refine ⟨used ++ (blanks ++ c :: (more ++ last)), ?_, fun depth => ?_⟩
  · rw [hused, List.append_assoc, List.append_assoc, List.cons_append, List.append_assoc, ← hlast,
      ← hmore, ← hsplit]
  · obtain ⟨value, hvalue, hafter⟩ := hscan depth
    obtain ⟨next, hnext, hnextAfter⟩ := hafter.scan_blanks hblanks
    obtain ⟨final, hfinal, hfinalAfter⟩ := hlastScan depth
    refine ⟨final, ?_, hfinalAfter⟩
    rw [scan_append, hvalue, Option.bind_some, scan_append, hnext, Option.bind_some, scan_cons,
      hnextAfter.step_separator hc, Option.bind_some, scan_append,
      scan_within_of_blanks hmoreBlanks, Option.bind_some, hfinal]

theorem scanned_string {content tail : PyStr} (h : parseString tail = some (content, rest)) :
    Scanned (34 :: tail) rest AfterValue := by
  obtain ⟨used, hused, hscan⟩ := scan_parseString h
  refine ⟨34 :: used, by rw [hused]; rfl, fun depth => ⟨behind depth, ?_, .inr rfl⟩⟩
  rw [scan_cons, step, if_pos rfl, Option.bind_some, hscan]

/-- With this fuel what is parsed is scanned. -/
def ScansValues (fuel : Nat) : Prop :=
  ∀ {t rest : PyStr} {value : JsonValue}, parseValue fuel t = some (value, rest) →
    Scanned t rest AfterValue

def ScansItems (fuel : Nat) : Prop :=
  ∀ {t rest : PyStr} {items : List JsonValue}, parseItems fuel t = some (items, rest) →
    Scanned t rest AfterClosing

def ScansFields (fuel : Nat) : Prop :=
  ∀ {t rest : PyStr} {fields : List (PyStr × JsonValue)},
    parseFields fuel t = some (fields, rest) → Scanned t rest AfterClosing

/-- Nothing between two brackets. -/
theorem scanned_empty {c : Nat} (hc : c = 93 ∨ c = 125) (hhead : t.head? = some c) :
    Scanned t t.tail AfterClosing := by
  cases t with
  | nil => cases hhead
  | cons d tail =>
      rw [List.head?_cons, Option.some.injEq] at hhead
      refine ⟨[d], rfl, fun depth => ⟨closed depth, ?_, rfl⟩⟩
      rw [scan_cons, step, if_neg (by omega), if_neg (by omega), if_pos (by omega)]
      rfl

variable {fuel : Nat}

theorem scansValues_succ (hitems : ScansItems fuel) (hfields : ScansFields fuel) :
    ScansValues (fuel + 1) := by
  intro t rest value h
  have hcons : ∀ {c : Nat}, t.head? = some c → c :: t.tail = t := fun hhead =>
    List.cons_head?_tail hhead
  rw [parseValue] at h
  split_ifs at h with hquote hbracket hnothing hbrace hnothing hnull htrue hfalse
  · obtain ⟨⟨content, other⟩, hparse, heq⟩ := Option.map_eq_some_iff.mp h
    obtain ⟨-, rfl⟩ := Prod.mk.injEq _ _ _ _ ▸ heq
    rw [← hcons hquote]
    exact scanned_string hparse
  · obtain ⟨-, rfl⟩ := Prod.mk.injEq _ _ _ _ ▸ Option.some.inj h
    rw [← hcons hbracket]
    exact .bracketed (.inl rfl) rfl (scanned_empty (.inl rfl) hnothing)
  · obtain ⟨⟨items, other⟩, hparse, heq⟩ := Option.map_eq_some_iff.mp h
    obtain ⟨-, rfl⟩ := Prod.mk.injEq _ _ _ _ ▸ heq
    rw [← hcons hbracket]
    exact .bracketed (.inl rfl) rfl (hitems hparse)
  · obtain ⟨-, rfl⟩ := Prod.mk.injEq _ _ _ _ ▸ Option.some.inj h
    rw [← hcons hbrace]
    exact .bracketed (.inr rfl) rfl (scanned_empty (.inr rfl) hnothing)
  · obtain ⟨⟨fields, other⟩, hparse, heq⟩ := Option.map_eq_some_iff.mp h
    obtain ⟨-, rfl⟩ := Prod.mk.injEq _ _ _ _ ▸ heq
    rw [← hcons hbrace]
    exact .bracketed (.inr rfl) rfl (hfields hparse)
  · obtain ⟨-, rfl⟩ := Prod.mk.injEq _ _ _ _ ▸ Option.some.inj h
    exact scanned_literal hnull (by decide)
  · obtain ⟨-, rfl⟩ := Prod.mk.injEq _ _ _ _ ▸ Option.some.inj h
    exact scanned_literal htrue (by decide)
  · obtain ⟨-, rfl⟩ := Prod.mk.injEq _ _ _ _ ▸ Option.some.inj h
    exact scanned_literal hfalse (by decide)
  · exact scanned_parseInt h

theorem scansItems_succ (hvalues : ScansValues fuel) (hrest : ScansItems fuel) :
    ScansItems (fuel + 1) := by
  intro t rest items h
  obtain ⟨⟨item, between⟩, hitem, hbehind⟩ := Option.bind_eq_some_iff.mp h
  have hscanned := hvalues hitem
  simp only at hbehind
  split_ifs at hbehind with hclosing hcomma
  · obtain ⟨-, rfl⟩ := Prod.mk.injEq _ _ _ _ ▸ Option.some.inj hbehind
    exact hscanned.closing (.inl rfl) hclosing
  · obtain ⟨⟨more, other⟩, hparse, heq⟩ := Option.map_eq_some_iff.mp hbehind
    obtain ⟨-, rfl⟩ := Prod.mk.injEq _ _ _ _ ▸ heq
    exact hscanned.separated (.inl rfl) hcomma (hrest hparse)

theorem scansFields_succ (hvalues : ScansValues fuel) (hrest : ScansFields fuel) :
    ScansFields (fuel + 1) := by
  intro t rest fields h
  rw [parseFields] at h
  split_ifs at h with hquote
  rw [not_not] at hquote
  obtain ⟨⟨key, behindKey⟩, hkey, hcolon⟩ := Option.bind_eq_some_iff.mp h
  have hscanned : Scanned t behindKey AfterValue := by
    rw [← List.cons_head?_tail hquote]
    exact scanned_string hkey
  simp only at hcolon
  split_ifs at hcolon with hhead
  rw [not_not] at hhead
  obtain ⟨⟨value, between⟩, hvalue, hbehind⟩ := Option.bind_eq_some_iff.mp hcolon
  have hpair : Scanned t between AfterValue :=
    hscanned.separated (.inr rfl) hhead (hvalues hvalue)
  simp only at hbehind
  split_ifs at hbehind with hclosing hcomma
  · obtain ⟨-, rfl⟩ := Prod.mk.injEq _ _ _ _ ▸ Option.some.inj hbehind
    exact hpair.closing (.inr rfl) hclosing
  · obtain ⟨⟨more, other⟩, hparse, heq⟩ := Option.map_eq_some_iff.mp hbehind
    obtain ⟨-, rfl⟩ := Prod.mk.injEq _ _ _ _ ▸ heq
    exact hpair.separated (.inl rfl) hcomma (hrest hparse)

theorem scans (fuel : Nat) : ScansValues fuel ∧ ScansItems fuel ∧ ScansFields fuel := by
  induction fuel with
  | zero =>
      refine ⟨?_, ?_, ?_⟩
      · intro t rest value h
        cases h
      · intro t rest items h
        cases h
      · intro t rest fields h
        cases h
  | succ fuel ih =>
      obtain ⟨hvalues, hitems, hfields⟩ := ih
      exact ⟨scansValues_succ hitems hfields, scansItems_succ hvalues hitems,
        scansFields_succ hvalues hfields⟩

/-- An object that is loaded is scanned to its end. -/
theorem scan_of_loads {tail : PyStr} {value : JsonValue} (h : loads (123 :: tail) = some value) :
    start.scan (123 :: tail) = some done := by
  obtain ⟨⟨found, rest⟩, hparse, hrest⟩ := Option.bind_eq_some_iff.mp h
  simp only at hrest
  split_ifs at hrest with hnil
  rw [skipBlanks_cons (by rfl)] at hparse
  have hinside : Scanned (skipBlanks tail) rest AfterClosing := by
    rw [parseValue, List.head?_cons, if_neg (by simp), if_neg (by simp), if_pos rfl,
      List.tail_cons] at hparse
    by_cases hnothing : (skipBlanks tail).head? = some 125
    · rw [if_pos hnothing] at hparse
      obtain ⟨-, rfl⟩ := Prod.mk.injEq _ _ _ _ ▸ Option.some.inj hparse
      exact scanned_empty (.inr rfl) hnothing
    · rw [if_neg hnothing] at hparse
      obtain ⟨⟨fields, other⟩, hfields, heq⟩ := Option.map_eq_some_iff.mp hparse
      obtain ⟨-, rfl⟩ := Prod.mk.injEq _ _ _ _ ▸ heq
      exact (scans _).2.2 hfields
  obtain ⟨blanks, hsplit, hblanks⟩ := exists_skipBlanks tail
  obtain ⟨last, hlast, hlastBlanks⟩ := exists_skipBlanks rest
  obtain ⟨used, hused, hscan⟩ := hinside
  obtain ⟨next, hnext, hclosed⟩ := hscan 0
  have htail : tail = blanks ++ (used ++ last) := by
    rw [hnil, List.append_nil] at hlast
    rw [← hlast, ← hused, ← hsplit]
  rw [scan_cons, step, if_pos (.inr rfl), Option.bind_some, htail, scan_append,
    scan_within_of_blanks hblanks, Option.bind_some, scan_append, hnext, Option.bind_some, hclosed]
  exact scan_done_iff.mpr ⟨rfl, hlastBlanks⟩

/-! ## Beginnings -/

/-- A text with something in it that a document does not end with. -/
def Unfinished (t : PyStr) : Prop :=
  ∀ s, start.scan t = some s → s.Open

theorem loads_of_unfinished {tail : PyStr} (h : Unfinished (123 :: tail)) :
    loads (123 :: tail) = none := by
  cases hloads : loads (123 :: tail) with
  | none => rfl
  | some value => exact absurd (h done (scan_of_loads hloads)) id

theorem step_ne_start {s next : ScanState} {c : Nat} (h : s.step c = some next) :
    next ≠ start := by
  have hclosed : ∀ depth, closed depth ≠ start := by
    intro depth
    cases depth <;> simp [closed]
  rintro rfl
  cases s with
  | start => rw [step] at h; split_ifs at h; cases h
  | within depth =>
      rw [step] at h
      split_ifs at h
      all_goals first | exact hclosed depth (Option.some.inj h) | cases h
  | text depth => rw [step] at h; split_ifs at h <;> cases h
  | escape depth => cases h
  | behind depth =>
      rw [step] at h
      split_ifs at h
      all_goals first | exact hclosed depth (Option.some.inj h) | cases h
  | done => rw [step] at h; split_ifs at h; cases h

theorem scan_ne_start {s next : ScanState} {chars : PyStr} (h : s.scan chars = some next)
    (hne : chars ≠ []) : next ≠ start := by
  obtain ⟨front, last, rfl⟩ := List.eq_nil_or_concat chars |>.resolve_left hne
  rw [List.concat_eq_append, scan_append] at h
  obtain ⟨between, -, hstep⟩ := Option.bind_eq_some_iff.mp h
  rw [scan_cons] at hstep
  obtain ⟨final, hfinal, heq⟩ := Option.bind_eq_some_iff.mp hstep
  rw [← Option.some.inj heq]
  exact step_ne_start hfinal

/-- A proper beginning of a document is unfinished. -/
theorem unfinished_of_prefix {t p q : PyStr} {value : JsonValue} (hloads : loads t = some value)
    (hobject : t.head? = some 123) (ht : t = p ++ q) (hp : p ≠ []) {c : Nat}
    (hlast : c ∈ q.getLast?) (hblank : Json.isBlank c = false) : Unfinished p := by
  intro s hs
  have hdone : start.scan t = some done := by
    rw [← List.cons_head?_tail hobject] at hloads ⊢
    exact scan_of_loads hloads
  rw [ht, scan_append, hs, Option.bind_some] at hdone
  cases s with
  | start => exact absurd rfl (scan_ne_start hs hp)
  | done =>
      have hall := (scan_done_iff.mp hdone).2 c (List.mem_of_getLast? hlast)
      rw [hblank] at hall
      cases hall
  | within depth => trivial
  | text depth => trivial
  | escape depth => trivial
  | behind depth => trivial

/-- A document that is an object whose first key starts with a letter. -/
structure NamedObject (doc : PyStr) : Prop where
  named : ∃ c tail, doc = 123 :: 34 :: c :: tail ∧ 97 ≤ c ∧ c ≤ 122
  loads : (loads doc).isSome = true

/-- No document follows where a comma, a colon or a bracket has to. -/
theorem NamedObject.open_of_behind {doc p : PyStr} {depth : Nat} {s : ScanState}
    (hdoc : NamedObject doc) (hp : p <+: doc) (h : (behind depth).scan p = some s) : s.Open := by
  obtain ⟨c, tail, rfl, -, -⟩ := hdoc.named
  obtain ⟨behindPart, hprefix⟩ := hp
  cases p with
  | nil =>
      rw [← Option.some.inj h]
      trivial
  | cons first p =>
      obtain ⟨rfl, -⟩ := List.cons.inj hprefix
      cases h

/-- In a string, the first quote of a document ends the string, and its first key follows. -/
theorem NamedObject.open_of_text {doc p : PyStr} {depth : Nat} {s : ScanState}
    (hdoc : NamedObject doc) (hp : p <+: doc) (h : (text depth).scan p = some s) : s.Open := by
  obtain ⟨c, tail, rfl, hlower, hupper⟩ := hdoc.named
  obtain ⟨behindPart, hprefix⟩ := hp
  have hletter : ¬ (Json.isBlank c = true ∨ c = 44 ∨ c = 58) ∧ ¬ (c = 93 ∨ c = 125) := by
    simp only [Json.isBlank, Bool.or_eq_true, beq_iff_eq]
    omega
  rcases p with _ | ⟨first, _ | ⟨second, _ | ⟨third, p⟩⟩⟩
  · rw [← Option.some.inj h]
    trivial
  · obtain ⟨rfl, -⟩ := List.cons.inj hprefix
    rw [← Option.some.inj h]
    trivial
  · obtain ⟨rfl, hsecond⟩ := List.cons.inj hprefix
    obtain ⟨rfl, -⟩ := List.cons.inj hsecond
    rw [← Option.some.inj h]
    trivial
  · obtain ⟨rfl, hsecond⟩ := List.cons.inj hprefix
    obtain ⟨rfl, hthird⟩ := List.cons.inj hsecond
    obtain ⟨rfl, -⟩ := List.cons.inj hthird
    have hstep : (behind depth).step third = none := by
      rw [step, if_neg hletter.1, if_neg hletter.2]
    have hnone : (text depth).scan (123 :: 34 :: third :: p) = none := by
      show ((behind depth).step third).bind _ = none
      rw [hstep]
      rfl
    rw [hnone] at h
    cases h

/-- Behind what is unfinished, the beginning of another document does not finish it: it is in the
brackets, or its first quote closes a string that its first key cannot follow. -/
theorem Unfinished.append {doc p : PyStr} (h : Unfinished t) (hdoc : NamedObject doc)
    (hp : p <+: doc) : Unfinished (t ++ p) := by
  intro s hs
  rw [scan_append] at hs
  obtain ⟨between, hbetween, hrest⟩ := Option.bind_eq_some_iff.mp hs
  have hopen := h between hbetween
  cases between with
  | start => exact absurd hopen id
  | done => exact absurd hopen id
  | within depth =>
      obtain ⟨value, hloads⟩ := Option.isSome_iff_exists.mp hdoc.loads
      obtain ⟨c, tail, rfl, -, -⟩ := hdoc.named
      obtain ⟨behindPart, hprefix⟩ := hp
      have hdone := scan_of_loads hloads
      rw [← hprefix, scan_append] at hdone
      obtain ⟨inner, hinner, -⟩ := Option.bind_eq_some_iff.mp hdone
      have hlifted : (within depth).scan p = some (lift depth inner) := scan_lift hinner
      rw [hlifted, Option.some.injEq] at hrest
      rw [← hrest]
      exact open_lift depth inner
  | text depth => exact hdoc.open_of_text hp hrest
  | escape depth =>
      obtain ⟨c, tail, rfl, -, -⟩ := hdoc.named
      rcases p with _ | ⟨first, p⟩
      · rw [← Option.some.inj hrest]
        trivial
      · obtain ⟨behindPart, hprefix⟩ := hp
        obtain ⟨rfl, -⟩ := List.cons.inj hprefix
        exact hdoc.open_of_text ⟨behindPart, hprefix⟩ hrest
  | behind depth => exact hdoc.open_of_behind hp hrest

/-- A whole document with the beginning of another one behind it is not one document. -/
theorem unfinished_append_doc {doc other p : PyStr} (hdoc : NamedObject doc)
    (hother : NamedObject other) (hp : p <+: other) (hne : p ≠ []) : Unfinished (doc ++ p) := by
  intro s hs
  obtain ⟨value, hloads⟩ := Option.isSome_iff_exists.mp hdoc.loads
  obtain ⟨c, tail, rfl, -, -⟩ := hdoc.named
  obtain ⟨d, behindTail, rfl, -, -⟩ := hother.named
  rw [scan_append, scan_of_loads hloads, Option.bind_some, scan_done_iff] at hs
  obtain ⟨behindPart, hprefix⟩ := hp
  cases p with
  | nil => exact absurd rfl hne
  | cons first p =>
      obtain ⟨rfl, -⟩ := List.cons.inj hprefix
      exact absurd (hs.2 123 List.mem_cons_self) (by decide)

end Parsing

end ImmichDoctor.Library.JsonValue
