import ImmichDoctor.Library.Text
/-!
# JSON arrays of strings

`json.dumps(items, separators=(",", ":"))` of a list of `str`, and `json.loads` of
the texts that are such arrays; `loads` is `none` on every other text. `dumps` escapes
whatever is not printable ASCII, so a lone surrogate is written as an escape. A high
surrogate is not read back when a low one follows, since the two escapes of a pair
are read as one code point.
-/

namespace ImmichDoctor.Library.Json

/-! ## Writing -/

/-- A lower case hexadecimal digit. -/
def hexDigit (d : Nat) : Nat :=
  if d < 10 then 48 + d else 87 + d

/-- `'\\u{0:04x}'.format(n)`. -/
def unicodeEscape (n : Nat) : PyStr :=
  [92, 117, hexDigit (n / 4096 % 16), hexDigit (n / 256 % 16), hexDigit (n / 16 % 16),
    hexDigit (n % 16)]

def escapeChar (c : Nat) : PyStr :=
  if c = 34 then [92, 34]
  else if c = 92 then [92, 92]
  else if c = 8 then [92, 98]
  else if c = 9 then [92, 116]
  else if c = 10 then [92, 110]
  else if c = 12 then [92, 102]
  else if c = 13 then [92, 114]
  else if 32 ≤ c ∧ c ≤ 126 then [c]
  else if c < 0x10000 then unicodeEscape c
  else
    unicodeEscape (0xD800 + (c - 0x10000) / 1024) ++ unicodeEscape (0xDC00 + (c - 0x10000) % 1024)

def dumpsString (text : PyStr) : PyStr :=
  34 :: text.flatMap escapeChar ++ [34]

/-- The elements after the first one, each behind its comma. -/
def dumpsRest (items : List PyStr) : PyStr :=
  items.flatMap fun item => 44 :: dumpsString item

def dumps : List PyStr → PyStr
  | [] => [91, 93]
  | item :: rest => 91 :: dumpsString item ++ dumpsRest rest ++ [93]

/-! ## Reading -/

def hexValue (c : Nat) : Option Nat :=
  if 48 ≤ c ∧ c ≤ 57 then some (c - 48)
  else if 97 ≤ c ∧ c ≤ 102 then some (c - 87)
  else if 65 ≤ c ∧ c ≤ 70 then some (c - 55)
  else none

def isHigh (c : Nat) : Bool :=
  0xD800 ≤ c && c ≤ 0xDBFF

def isLow (c : Nat) : Bool :=
  0xDC00 ≤ c && c ≤ 0xDFFF

def isBlank (c : Nat) : Bool :=
  c == 32 || c == 9 || c == 10 || c == 13

/-- Where the reader is; `chars` is the string read so far, `high` a high surrogate
that waits for its low one. -/
inductive Place
  | start
  | first
  | next
  | text (chars : PyStr)
  | escape (chars : PyStr)
  | digits (chars : PyStr) (high : Option Nat) (count value : Nat)
  | pair (chars : PyStr) (high : Nat)
  | pairEscape (chars : PyStr) (high : Nat)
  | closed
  | done
  deriving DecidableEq

structure Reader where
  items : List PyStr
  place : Place

namespace Reader

def textStep (items : List PyStr) (chars : PyStr) (c : Nat) : Option Reader :=
  if c = 34 then some ⟨items ++ [chars], .closed⟩
  else if c = 92 then some ⟨items, .escape chars⟩
  else if c < 32 then none
  else some ⟨items, .text (chars ++ [c])⟩

def escapeStep (items : List PyStr) (chars : PyStr) (c : Nat) : Option Reader :=
  if c = 34 ∨ c = 92 ∨ c = 47 then some ⟨items, .text (chars ++ [c])⟩
  else if c = 98 then some ⟨items, .text (chars ++ [8])⟩
  else if c = 102 then some ⟨items, .text (chars ++ [12])⟩
  else if c = 110 then some ⟨items, .text (chars ++ [10])⟩
  else if c = 114 then some ⟨items, .text (chars ++ [13])⟩
  else if c = 116 then some ⟨items, .text (chars ++ [9])⟩
  else if c = 117 then some ⟨items, .digits chars none 0 0⟩
  else none

/-- The four digits of an escape have been read. -/
def unit (chars : PyStr) (value : Nat) : Place :=
  if isHigh value then .pair chars value else .text (chars ++ [value])

def unitAfter (chars : PyStr) (value : Nat) : Option Nat → Place
  | none => unit chars value
  | some high =>
      if isLow value then
        .text (chars ++ [0x10000 + (high - 0xD800) * 1024 + (value - 0xDC00)])
      else unit (chars ++ [high]) value

def step (reader : Reader) (c : Nat) : Option Reader :=
  match reader.place with
  | .start =>
      if isBlank c then some reader
      else if c = 91 then some { reader with place := .first }
      else none
  | .first =>
      if isBlank c then some reader
      else if c = 93 then some { reader with place := .done }
      else if c = 34 then some { reader with place := .text [] }
      else none
  | .next =>
      if isBlank c then some reader
      else if c = 34 then some { reader with place := .text [] }
      else none
  | .text chars => textStep reader.items chars c
  | .escape chars => escapeStep reader.items chars c
  | .digits chars high count value =>
      (hexValue c).map fun digit =>
        { reader with
          place :=
            if count = 3 then unitAfter chars (value * 16 + digit) high
            else .digits chars high (count + 1) (value * 16 + digit) }
  | .pair chars high =>
      if c = 92 then some { reader with place := .pairEscape chars high }
      else textStep reader.items (chars ++ [high]) c
  | .pairEscape chars high =>
      if c = 117 then some { reader with place := .digits chars (some high) 0 0 }
      else escapeStep reader.items (chars ++ [high]) c
  | .closed =>
      if isBlank c then some reader
      else if c = 44 then some { reader with place := .next }
      else if c = 93 then some { reader with place := .done }
      else none
  | .done => if isBlank c then some reader else none

def read (reader : Reader) (text : PyStr) : Option Reader :=
  text.foldlM step reader

end Reader

def loads (text : PyStr) : Option (List PyStr) := do
  let reader ← Reader.read ⟨[], .start⟩ text
  if reader.place = .done then some reader.items else none

/-! ## Round trip -/

/-- A code point that a file system name can have: no high surrogate. -/
def Readable (text : PyStr) : Prop :=
  ∀ c ∈ text, c ≤ 0x10FFFF ∧ isHigh c = false

instance : DecidablePred Readable :=
  fun text => inferInstanceAs (Decidable (∀ c ∈ text, c ≤ 0x10FFFF ∧ isHigh c = false))

@[simp] theorem readable_nil : Readable [] := nofun

@[simp] theorem readable_append {a b : PyStr} : Readable (a ++ b) ↔ Readable a ∧ Readable b :=
  List.forall_mem_append

/-- A literal has no surrogates. -/
@[simp] theorem readable_py (text : String) : Readable (py text) := by
  intro c hc
  obtain ⟨char, -, rfl⟩ := List.mem_map.mp hc
  have hvalid : char.toNat < 0xD800 ∨ 0xDFFF < char.toNat ∧ char.toNat < 0x110000 := char.valid
  unfold isHigh
  rw [Bool.and_eq_false_iff, decide_eq_false_iff_not, decide_eq_false_iff_not]
  omega

theorem Readable.of_subset {a b : PyStr} (h : Readable b) (hsubset : a ⊆ b) : Readable a :=
  fun c hc => h c (hsubset hc)

namespace Reader

@[simp] theorem read_nil (reader : Reader) : reader.read [] = some reader := rfl

@[simp] theorem read_cons (reader : Reader) (c : Nat) (text : PyStr) :
    reader.read (c :: text) = (reader.step c).bind fun next => next.read text := rfl

theorem read_append (reader : Reader) (first second : PyStr) :
    reader.read (first ++ second) =
      (reader.read first).bind fun next => next.read second :=
  List.foldlM_append

theorem hexValue_hexDigit {d : Nat} (hd : d < 16) : hexValue (hexDigit d) = some d := by
  have hall : ∀ d < 16, hexValue (hexDigit d) = some d := by decide
  exact hall d hd

/-- The four digits of an escape are read as its value. -/
theorem read_digits (items : List PyStr) (chars : PyStr) (high : Option Nat) {n : Nat}
    (hn : n < 0x10000) :
    read ⟨items, .digits chars high 0 0⟩
        [hexDigit (n / 4096 % 16), hexDigit (n / 256 % 16), hexDigit (n / 16 % 16),
          hexDigit (n % 16)] =
      some ⟨items, unitAfter chars n high⟩ := by
  have hvalue : ((n / 4096 % 16 * 16 + n / 256 % 16) * 16 + n / 16 % 16) * 16 + n % 16 = n := by
    omega
  simp only [read_cons, read_nil, step, hexValue_hexDigit (Nat.mod_lt _ (by omega : 0 < 16)),
    Option.map_some, Option.bind_some, Nat.zero_mul, Nat.zero_add, Nat.reduceAdd,
    Nat.reduceEqDiff, if_false, if_true, hvalue, OfNat.zero_ne_ofNat, OfNat.one_ne_ofNat]

theorem read_unicodeEscape (items : List PyStr) (chars : PyStr) {n : Nat} (hn : n < 0x10000) :
    read ⟨items, .text chars⟩ (unicodeEscape n) = some ⟨items, unit chars n⟩ := by
  have hstart : read ⟨items, .text chars⟩ [92, 117] = some ⟨items, .digits chars none 0 0⟩ := rfl
  have happend : unicodeEscape n = [92, 117] ++ [hexDigit (n / 4096 % 16),
    hexDigit (n / 256 % 16), hexDigit (n / 16 % 16), hexDigit (n % 16)] := rfl
  rw [happend, read_append, hstart, Option.bind_some, read_digits items chars none hn]
  rfl

/-- The second escape of a pair completes the code point. -/
theorem read_lowEscape (items : List PyStr) (chars : PyStr) {high low : Nat}
    (hlow : isLow low = true) :
    read ⟨items, .pair chars high⟩ (unicodeEscape low) =
      some ⟨items, .text (chars ++ [0x10000 + (high - 0xD800) * 1024 + (low - 0xDC00)])⟩ := by
  have hstart : read ⟨items, .pair chars high⟩ [92, 117] =
      some ⟨items, .digits chars (some high) 0 0⟩ := rfl
  have happend : unicodeEscape low = [92, 117] ++ [hexDigit (low / 4096 % 16),
    hexDigit (low / 256 % 16), hexDigit (low / 16 % 16), hexDigit (low % 16)] := rfl
  have hbound : low < 0x10000 := by
    simp only [isLow, Bool.and_eq_true, decide_eq_true_eq] at hlow
    omega
  rw [happend, read_append, hstart, Option.bind_some, read_digits items chars (some high) hbound]
  simp only [unitAfter, hlow, if_true]

theorem read_escapeChar (items : List PyStr) (chars : PyStr) {c : Nat} (hc : c ≤ 0x10FFFF)
    (hhigh : isHigh c = false) :
    read ⟨items, .text chars⟩ (escapeChar c) = some ⟨items, .text (chars ++ [c])⟩ := by
  unfold escapeChar
  split_ifs with hquote hbackslash hb ht hn hf hr hprintable hplane
  · subst hquote; rfl
  · subst hbackslash; rfl
  · subst hb; rfl
  · subst ht; rfl
  · subst hn; rfl
  · subst hf; rfl
  · subst hr; rfl
  · have hcontrol : ¬ c < 32 := by omega
    simp only [read_cons, read_nil, step, textStep, if_neg hquote, if_neg hbackslash,
      if_neg hcontrol, Option.bind_some]
  · rw [read_unicodeEscape items chars hplane, unit, if_neg (by simp [hhigh])]
  · -- a code point beyond the basic plane is written as two escapes
    have hsurrogate : isHigh (0xD800 + (c - 0x10000) / 1024) = true := by
      simp only [isHigh, Bool.and_eq_true, decide_eq_true_eq]
      omega
    have hlow : isLow (0xDC00 + (c - 0x10000) % 1024) = true := by
      simp only [isLow, Bool.and_eq_true, decide_eq_true_eq]
      omega
    have hvalue : 0x10000 + (0xD800 + (c - 0x10000) / 1024 - 0xD800) * 1024 +
        (0xDC00 + (c - 0x10000) % 1024 - 0xDC00) = c := by
      omega
    rw [read_append, read_unicodeEscape items chars (by omega), unit, if_pos hsurrogate,
      Option.bind_some, read_lowEscape items chars hlow, hvalue]

theorem read_escaped (items : List PyStr) (chars text : PyStr) (htext : Readable text) :
    read ⟨items, .text chars⟩ (text.flatMap escapeChar) =
      some ⟨items, .text (chars ++ text)⟩ := by
  induction text generalizing chars with
  | nil => rw [List.append_nil, List.flatMap_nil, read_nil]
  | cons c text ih =>
      obtain ⟨hc, hhigh⟩ := htext c List.mem_cons_self
      have hrest : Readable text := fun d hd => htext d (List.mem_cons_of_mem c hd)
      rw [List.flatMap_cons, read_append, read_escapeChar items chars hc hhigh, Option.bind_some,
        ih (chars ++ [c]) hrest, List.append_assoc]
      rfl

/-- A written string is read back and closed. -/
theorem read_dumpsString {place : Place} (items : List PyStr) {text : PyStr}
    (hplace : place = .first ∨ place = .next) (htext : Readable text) :
    read ⟨items, place⟩ (dumpsString text) = some ⟨items ++ [text], .closed⟩ := by
  have hopen : step ⟨items, place⟩ 34 = some ⟨items, .text []⟩ := by
    rcases hplace with rfl | rfl <;> rfl
  rw [dumpsString, List.cons_append, read_cons, hopen, Option.bind_some, read_append,
    read_escaped items [] text htext, Option.bind_some, List.nil_append]
  rfl

theorem read_dumpsRest (items rest : List PyStr) (hrest : ∀ item ∈ rest, Readable item) :
    read ⟨items, .closed⟩ (dumpsRest rest) = some ⟨items ++ rest, .closed⟩ := by
  induction rest generalizing items with
  | nil => rw [List.append_nil, dumpsRest, List.flatMap_nil, read_nil]
  | cons item rest ih =>
      have hcomma : step ⟨items, .closed⟩ 44 = some ⟨items, .next⟩ := rfl
      have hitem := hrest item List.mem_cons_self
      rw [dumpsRest, List.flatMap_cons, List.cons_append, read_cons, hcomma, Option.bind_some,
        read_append, read_dumpsString items (Or.inr rfl) hitem, Option.bind_some]
      rw [← dumpsRest, ih _ fun other hother => hrest other (List.mem_cons_of_mem item hother),
        List.append_assoc]
      rfl

end Reader

theorem loads_dumps {items : List PyStr} (hitems : ∀ item ∈ items, Readable item) :
    loads (dumps items) = some items := by
  cases items with
  | nil => rfl
  | cons item rest =>
      have hopen : Reader.step ⟨[], .start⟩ 91 = some ⟨[], .first⟩ := rfl
      have hclose : Reader.read ⟨item :: rest, .closed⟩ [93] = some ⟨item :: rest, .done⟩ := rfl
      have hitem := hitems item List.mem_cons_self
      have hrest := fun other hother => hitems other (List.mem_cons_of_mem item hother)
      have hread : Reader.read ⟨[], .start⟩ (dumps (item :: rest)) =
          some ⟨item :: rest, .done⟩ := by
        rw [dumps, List.cons_append, List.cons_append, Reader.read_cons, hopen, Option.bind_some,
          Reader.read_append, Reader.read_append, Reader.read_dumpsString [] (Or.inl rfl) hitem,
          Option.bind_some, Reader.read_dumpsRest _ rest hrest, Option.bind_some]
        exact hclose
      rw [loads, hread]
      rfl

/-! ## The text is ASCII -/

theorem hexDigit_ascii {d : Nat} (hd : d < 16) : 32 ≤ hexDigit d ∧ hexDigit d ≤ 126 := by
  unfold hexDigit
  split <;> omega

theorem unicodeEscape_ascii {n c : Nat} (hc : c ∈ unicodeEscape n) : 32 ≤ c ∧ c ≤ 126 := by
  have hdigit : ∀ m, 32 ≤ hexDigit (m % 16) ∧ hexDigit (m % 16) ≤ 126 := fun m =>
    hexDigit_ascii (Nat.mod_lt m (by omega))
  simp only [unicodeEscape, List.mem_cons, List.not_mem_nil, or_false] at hc
  rcases hc with rfl | rfl | rfl | rfl | rfl | rfl
  · omega
  · omega
  all_goals exact hdigit _

theorem escapeChar_ascii {n c : Nat} (hc : c ∈ escapeChar n) : 32 ≤ c ∧ c ≤ 126 := by
  unfold escapeChar at hc
  split_ifs at hc with hquote hbackslash hb ht hn hf hr hprintable hplane
  all_goals try (simp only [List.mem_cons, List.not_mem_nil, or_false] at hc; omega)
  · exact unicodeEscape_ascii hc
  · rcases List.mem_append.mp hc with hfirst | hsecond
    · exact unicodeEscape_ascii hfirst
    · exact unicodeEscape_ascii hsecond

theorem dumpsString_ascii {text : PyStr} {c : Nat} (hc : c ∈ dumpsString text) :
    32 ≤ c ∧ c ≤ 126 := by
  simp only [dumpsString, List.cons_append, List.mem_cons, List.mem_append, List.mem_flatMap,
    List.not_mem_nil, or_false] at hc
  rcases hc with rfl | ⟨d, _, hd⟩ | rfl
  · omega
  · exact escapeChar_ascii hd
  · omega

theorem dumps_ascii {items : List PyStr} {c : Nat} (hc : c ∈ dumps items) : 32 ≤ c ∧ c ≤ 126 := by
  cases items with
  | nil =>
      simp only [dumps, List.mem_cons, List.not_mem_nil, or_false] at hc
      omega
  | cons item rest =>
      simp only [dumps, dumpsRest, List.cons_append, List.mem_cons, List.mem_append,
        List.mem_flatMap, List.not_mem_nil, or_false] at hc
      rcases hc with rfl | (hitem | ⟨other, _, rfl | hother⟩) | rfl
      · omega
      · exact dumpsString_ascii hitem
      · omega
      · exact dumpsString_ascii hother
      · omega

/-- Whatever is dumped can be bound to a column. -/
theorem encodable_dumps (items : List PyStr) : (dumps items).encodable = true := by
  unfold PyStr.encodable PyStr.isSurrogate
  rw [List.all_eq_true]
  intro c hc
  obtain ⟨hlower, hupper⟩ := dumps_ascii hc
  simp only [Bool.not_eq_true', Bool.and_eq_false_iff, decide_eq_false_iff_not]
  omega

/-! ## Where a written string ends -/

/-- The text up to the quote that closes a string, and what follows it. -/
def closingQuote : PyStr → Option (PyStr × PyStr)
  | [] => none
  | 34 :: rest => some ([], rest)
  | 92 :: c :: rest => (closingQuote rest).map fun cut => (92 :: c :: cut.1, cut.2)
  | c :: rest => (closingQuote rest).map fun cut => (c :: cut.1, cut.2)

theorem closingQuote_cons {c : Nat} (hquote : c ≠ 34) (hbackslash : c ≠ 92) (rest : PyStr) :
    closingQuote (c :: rest) = (closingQuote rest).map fun cut => (c :: cut.1, cut.2) :=
  closingQuote.eq_4 c rest hquote fun _ _ heq _ => hbackslash heq

theorem hexDigit_ne {d : Nat} (hd : d < 16) : hexDigit d ≠ 34 ∧ hexDigit d ≠ 92 := by
  unfold hexDigit
  split <;> omega

theorem closingQuote_unicodeEscape (n : Nat) (rest : PyStr) :
    closingQuote (unicodeEscape n ++ rest) =
      (closingQuote rest).map fun cut => (unicodeEscape n ++ cut.1, cut.2) := by
  have hdigit : ∀ m, hexDigit (m % 16) ≠ 34 ∧ hexDigit (m % 16) ≠ 92 := fun m =>
    hexDigit_ne (Nat.mod_lt m (by omega))
  simp only [unicodeEscape, List.cons_append, List.nil_append]
  rw [closingQuote, closingQuote_cons (hdigit _).1 (hdigit _).2,
    closingQuote_cons (hdigit _).1 (hdigit _).2, closingQuote_cons (hdigit _).1 (hdigit _).2,
    closingQuote_cons (hdigit _).1 (hdigit _).2]
  simp only [Option.map_map, Function.comp_def]

/-- An escaped character does not close the string. -/
theorem closingQuote_escapeChar (c : Nat) (rest : PyStr) :
    closingQuote (escapeChar c ++ rest) =
      (closingQuote rest).map fun cut => (escapeChar c ++ cut.1, cut.2) := by
  unfold escapeChar
  split_ifs with hquote hbackslash
  case pos => rfl
  all_goals try exact closingQuote_unicodeEscape _ _
  all_goals try rfl
  · exact closingQuote_cons hquote hbackslash rest
  · rw [List.append_assoc, closingQuote_unicodeEscape, closingQuote_unicodeEscape, Option.map_map]
    simp only [Function.comp_def, List.append_assoc]

theorem closingQuote_escaped (text rest : PyStr) :
    closingQuote (text.flatMap escapeChar ++ 34 :: rest) =
      some (text.flatMap escapeChar, rest) := by
  induction text with
  | nil => rfl
  | cons c text ih =>
      rw [List.flatMap_cons, List.append_assoc, closingQuote_escapeChar, ih]
      rfl

theorem escaped_injective {a b : PyStr} (ha : Readable a) (hb : Readable b)
    (h : a.flatMap escapeChar = b.flatMap escapeChar) : a = b := by
  have hread : Reader.read ⟨[], .text []⟩ (a.flatMap escapeChar) = some ⟨[], .text a⟩ :=
    Reader.read_escaped [] [] a ha
  rw [h, Reader.read_escaped [] [] b hb] at hread
  simpa using hread.symm

/-- A written string ends at one place only. -/
theorem dumpsString_append_injective {a b rest rest' : PyStr} (ha : Readable a) (hb : Readable b)
    (h : dumpsString a ++ rest = dumpsString b ++ rest') : a = b ∧ rest = rest' := by
  simp only [dumpsString, List.cons_append, List.append_assoc, List.nil_append,
    List.cons.injEq, true_and] at h
  have hcut : some (a.flatMap escapeChar, rest) = some (b.flatMap escapeChar, rest') := by
    rw [← closingQuote_escaped, ← closingQuote_escaped, h]
  simp only [Option.some.injEq, Prod.mk.injEq] at hcut
  exact ⟨escaped_injective ha hb hcut.1, hcut.2⟩

end ImmichDoctor.Library.Json
