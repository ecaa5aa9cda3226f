import ImmichDoctor.Backup.ConnectionStrings
import ImmichDoctor.Library.PathText
/-!
# The grammar of connection strings

The forms `user@host` and `user@[host]`, each with a port or without one. The parser accepts
these strings and gives their parts. It also takes for a host what is not one: a reference with
a malformed port, with several colons, or with an `@` or a bracket in it.
-/

namespace ImmichDoctor.Backup

open ImmichDoctor.Library

/-! ## The grammar -/

inductive HostForm
  | plain
  | bracketed
  deriving DecidableEq

/-- The host as it stands in the string. -/
def HostForm.text : HostForm → PyStr → PyStr
  | .plain, host => host
  | .bracketed, host => 91 :: (host ++ [93])

/-- No `@`, `[` or `]`. -/
def Plain (text : PyStr) : Prop :=
  ∀ c ∈ text, c ≠ 64 ∧ c ≠ 91 ∧ c ≠ 93

instance (text : PyStr) : Decidable (Plain text) :=
  inferInstanceAs (Decidable (∀ c ∈ text, _))

/-- The hosts of a form. -/
def HostForm.Allows : HostForm → PyStr → Prop
  | .plain, host => host ≠ [] ∧ 58 ∉ host ∧ Plain host
  | .bracketed, host => host ≠ [] ∧ 93 ∉ host

/-- Nothing, or a colon and a decimal port. -/
inductive PortText : PyStr → Option Nat → Prop
  | absent : PortText [] none
  | decimal {digits : PyStr} (hne : digits ≠ []) (hdigits : ∀ c ∈ digits, PyStr.IsDigit c)
      (hrange : 1 ≤ PyStr.numberOf (digits.map (· - 48)) ∧
        PyStr.numberOf (digits.map (· - 48)) ≤ 65535) :
      PortText (58 :: digits) (some (PyStr.numberOf (digits.map (· - 48))))

/-- The text is a host and maybe a port. -/
def HostMatches (form : HostForm) (host : PyStr) (port : Option Nat) (text : PyStr) : Prop :=
  form.Allows host ∧ ∃ portText, PortText portText port ∧ text = form.text host ++ portText

/-- The text is a user, an `@`, and a host with maybe a port. -/
def Matches (form : HostForm) (parts : ParsedBackupConnectionString) (text : PyStr) : Prop :=
  parts.username ≠ [] ∧ 64 ∉ parts.username ∧ ∃ hostReference,
    HostMatches form parts.host parts.port hostReference ∧
      text = parts.username ++ 64 :: hostReference

/-- The parts in a form. -/
def render (form : HostForm) (parts : ParsedBackupConnectionString) : PyStr :=
  parts.username ++ 64 :: (form.text parts.host ++
    parts.port.elim [] fun port => 58 :: PyStr.decimal port)

/-- The parser accepts the stripped string exactly when it matches, raises no error but its own,
and reads the rendered parts back. -/
structure ParsesExactly (connectionString : PyStr) : Prop where
  accepts : ∀ parts, parseBackupConnectionString connectionString = .ok parts ↔
    ∃ form, Matches form parts connectionString.strip
  rejects : ∀ error, parseBackupConnectionString connectionString = .error error →
    error.message.isSome = true
  renders : ∀ form parts, parseBackupConnectionString connectionString = .ok parts →
    Matches form parts connectionString.strip →
      parseBackupConnectionString (render form parts) = .ok parts

/-! ## Clear strings -/

def PortInRange (candidatePort : PyStr) : Bool :=
  candidatePort.int?.any fun port => 1 ≤ port && port ≤ 65535

/-- What passes for digits can be read as a number, and is written with the digits of ASCII when
the number is a port. -/
def PortClear (candidatePort : PyStr) : Prop :=
  candidatePort.isdigit = true → candidatePort.int?.isSome = true ∧
    (PortInRange candidatePort = true → ∀ c ∈ candidatePort, PyStr.IsDigit c)

/-- A bracketed host is followed by a clear port, if by one at all. Without brackets there is no
`@` or bracket, and one colon at most, with digits behind it. -/
def HostReferenceClear : PyStr → Prop
  | 91 :: bracketed =>
      match partition 93 bracketed with
      | (_ :: _, some (58 :: candidatePort)) => PortClear candidatePort
      | _ => True
  | hostReference =>
      match partition 58 hostReference with
      | (host, none) => Plain host
      | (host, some candidatePort) =>
          58 ∉ candidatePort ∧ candidatePort.isdigit = true ∧
            (host = [] ∨ PortClear candidatePort ∧ (PortInRange candidatePort = true → Plain host))

def ConnectionStringClear (connectionString : PyStr) : Prop :=
  match partition 64 connectionString.strip with
  | (_ :: _, some hostReference) => HostReferenceClear hostReference
  | _ => True

/-! ## Ports -/

section Ports

variable {text head tail : PyStr} {c port : Nat}

theorem partition_append (h : c ∉ head) (tail : PyStr) :
    partition c (head ++ c :: tail) = (head, some tail) := by
  induction head with
  | nil => rw [List.nil_append, partition, if_pos rfl]
  | cons d head ih =>
      have hd : d ≠ c := fun heq => h (heq ▸ List.mem_cons_self)
      rw [List.cons_append, partition, if_neg hd,
        ih fun hmem => h (List.mem_cons_of_mem d hmem)]

theorem partition_of_notMem (h : c ∉ text) : partition c text = (text, none) := by
  induction text with
  | nil => rfl
  | cons d text ih =>
      have hd : d ≠ c := fun heq => h (heq ▸ List.mem_cons_self)
      rw [partition, if_neg hd, ih fun hmem => h (List.mem_cons_of_mem d hmem)]

/-- A text without a separator, or cut at the first one. -/
theorem partition_cases (c : Nat) (text : PyStr) :
    c ∉ text ∨ ∃ head tail : PyStr, text = head ++ c :: tail ∧ c ∉ head := by
  by_cases h : c ∈ text
  · obtain ⟨head, tail, htext, hhead⟩ := List.eq_append_cons_of_mem h
    exact .inr ⟨head, tail, htext, hhead⟩
  · exact .inl h

theorem parseConnectionPort_ok_iff : parseConnectionPort text = .ok port ↔
    text.isdigit = true ∧ text.int? = some port ∧ 1 ≤ port ∧ port ≤ 65535 := by
  unfold parseConnectionPort
  cases hdigit : text.isdigit with
  | false => simp
  | true =>
      cases hint : text.int? with
      | none => simp
      | some found =>
          simp only [Bool.not_true, Bool.false_eq_true, if_false, true_and, Option.some.injEq]
          split
          · next hout =>
              refine iff_of_false (fun h => nomatch h) ?_
              rintro ⟨rfl, hlow, hhigh⟩
              omega
          · next hin =>
              rw [Except.ok.injEq]
              constructor
              · rintro rfl
                exact ⟨rfl, by omega, by omega⟩
              · exact fun h => h.1

theorem parseConnectionPort_conversion_iff : parseConnectionPort text = .error .conversion ↔
    text.isdigit = true ∧ text.int? = none := by
  unfold parseConnectionPort
  cases hdigit : text.isdigit with
  | false => simp
  | true =>
      cases hint : text.int? with
      | none => simp
      | some found =>
          simp only [Bool.not_true, Bool.false_eq_true, if_false]
          split
          · simp
          · simp

theorem portInRange_iff : PortInRange text = true ↔
    ∃ port, text.int? = some port ∧ 1 ≤ port ∧ port ≤ 65535 := by
  unfold PortInRange
  simp only [Option.any_eq_true, Bool.and_eq_true, decide_eq_true_eq]

/-- A clear port that is accepted is a port of the grammar. -/
theorem portText_of_ok (hclear : PortClear text) (h : parseConnectionPort text = .ok port) :
    PortText (58 :: text) (some port) := by
  obtain ⟨hdigit, hint, hrange⟩ := parseConnectionPort_ok_iff.mp h
  have hascii := (hclear hdigit).2 (portInRange_iff.mpr ⟨port, hint, hrange⟩)
  have hne : text ≠ [] := by
    rintro rfl
    cases hdigit
  have hlength : text.length ≤ PyStr.intMaxStrDigits := by
    by_contra hlong
    rw [PyStr.int?, if_pos (by omega)] at hint
    cases hint
  have hvalue := PyStr.int?_of_isDigit hlength hascii
  rw [hint, Option.some.injEq] at hvalue
  rw [hvalue] at hrange ⊢
  exact .decimal hne hascii hrange

/-- A port of the grammar is accepted, unless it has too many digits for `int`. -/
theorem parseConnectionPort_of_portText (h : PortText (58 :: text) (some port)) :
    parseConnectionPort text = .ok port ∨ parseConnectionPort text = .error .conversion := by
  cases h with
  | decimal hne hdigits hrange =>
      have hdigit := PyStr.isdigit_of_isDigit hne hdigits
      by_cases hlength : text.length ≤ PyStr.intMaxStrDigits
      · left
        exact parseConnectionPort_ok_iff.mpr ⟨hdigit, PyStr.int?_of_isDigit hlength hdigits, hrange⟩
      · right
        refine parseConnectionPort_conversion_iff.mpr ⟨hdigit, ?_⟩
        rw [PyStr.int?, if_pos (by omega)]

end Ports

/-! ## Host references -/

section Hosts

variable {host candidatePort hostReference : PyStr}

theorem head?_ne {text : PyStr} (h : Plain text) : text.head? ≠ some 91 :=
  fun heq => (h 91 (List.mem_of_mem_head? heq)).2.1 rfl

theorem colon_notMem {digits : PyStr} (h : ∀ c ∈ digits, PyStr.IsDigit c) : 58 ∉ digits :=
  fun hmem => absurd (h 58 hmem) (by decide)

theorem parse_unclosed {bracketed : PyStr}
    (h : 93 ∉ bracketed ∨ ∃ rest, bracketed = 93 :: rest) :
    parseConnectionHostReference (91 :: bracketed) = .error .bracketedHost := by
  unfold parseConnectionHostReference
  rcases h with hnot | ⟨rest, rfl⟩
  · simp only [partition_of_notMem hnot]
    split
    · rfl
    · rfl
    · next heq => cases heq
    · next heq => cases heq
    · next heq => cases heq
  · simp only [partition, if_true]

theorem parse_bracketed (hne : host ≠ []) (hhost : 93 ∉ host) :
    parseConnectionHostReference (91 :: (host ++ [93])) = .ok (host, none) := by
  obtain ⟨c, host, rfl⟩ := List.exists_cons_of_ne_nil hne
  simp only [parseConnectionHostReference, partition_append hhost]

theorem parse_bracketed_port (hne : host ≠ []) (hhost : 93 ∉ host) :
    parseConnectionHostReference (91 :: (host ++ 93 :: 58 :: candidatePort)) =
      (parseConnectionPort candidatePort).map fun port => (host, some port) := by
  obtain ⟨c, host, rfl⟩ := List.exists_cons_of_ne_nil hne
  simp only [parseConnectionHostReference, partition_append hhost]
  rfl

theorem parse_bracketed_other {c : Nat} {rest : PyStr} (hne : host ≠ []) (hhost : 93 ∉ host)
    (hc : c ≠ 58) :
    parseConnectionHostReference (91 :: (host ++ 93 :: c :: rest)) = .error .hostForm := by
  unfold parseConnectionHostReference
  simp only [partition_append hhost]
  split
  · next heq =>
      cases heq
      exact absurd rfl hne
  · next heq => cases heq
  · next heq => cases heq
  · next heq =>
      cases heq
      exact absurd rfl hc
  · rfl

/-- Without brackets what is not a host and a port is a host. -/
theorem parse_whole (hhead : hostReference.head? ≠ some 91) (hne : hostReference ≠ [])
    (h : 58 ∉ hostReference ∨ ∃ host candidatePort : PyStr,
      hostReference = host ++ 58 :: candidatePort ∧ 58 ∉ host ∧
        (58 ∈ candidatePort ∨ candidatePort.isdigit = false)) :
    parseConnectionHostReference hostReference = .ok (hostReference, none) := by
  unfold parseConnectionHostReference
  split
  · exact absurd rfl hhead
  · simp only [if_neg hne]
    rcases h with hnot | ⟨host, candidatePort, rfl, hhost, hport⟩
    · rw [if_neg (by rw [List.count_eq_zero_of_not_mem hnot]; omega)]
    · split
      · next hcount =>
          rw [partition_append hhost]
          rcases hport with hmem | hdigit
          · have hpos := List.count_pos_iff.mpr hmem
            rw [List.count_append, List.count_cons_self] at hcount
            omega
          · simp only [hdigit, Bool.false_eq_true, if_false]
      · rfl

theorem parse_port (hhead : (host ++ 58 :: candidatePort).head? ≠ some 91) (hhost : 58 ∉ host)
    (hport : 58 ∉ candidatePort) (hdigit : candidatePort.isdigit = true) :
    parseConnectionHostReference (host ++ 58 :: candidatePort) =
      if host = [] then .error .hostMissing
      else (parseConnectionPort candidatePort).map fun port => (host, some port) := by
  have hcount : (host ++ 58 :: candidatePort).count 58 = 1 := by
    rw [List.count_append, List.count_cons_self, List.count_eq_zero_of_not_mem hhost,
      List.count_eq_zero_of_not_mem hport]
  unfold parseConnectionHostReference
  split
  · next heq =>
      rw [heq] at hhead
      exact absurd rfl hhead
  · simp only [if_pos hcount, partition_append hhost, if_pos hdigit]
    rfl

/-- A host of a form is read. -/
theorem parse_form {form : HostForm} (h : form.Allows host) :
    parseConnectionHostReference (form.text host) = .ok (host, none) := by
  cases form with
  | plain =>
      obtain ⟨hne, hcolon, hplain⟩ := h
      exact parse_whole (head?_ne hplain) hne (.inl hcolon)
  | bracketed => exact parse_bracketed h.1 h.2

/-- With a port behind it, it is read when the port is. -/
theorem parse_form_port {form : HostForm} (h : form.Allows host) (hport : 58 ∉ candidatePort)
    (hdigit : candidatePort.isdigit = true) :
    parseConnectionHostReference (form.text host ++ 58 :: candidatePort) =
      (parseConnectionPort candidatePort).map fun port => (host, some port) := by
  cases form with
  | plain =>
      obtain ⟨hne, hcolon, hplain⟩ := h
      have hhead : (host ++ 58 :: candidatePort).head? ≠ some 91 := by
        rw [List.head?_append_of_ne_nil _ hne]
        exact head?_ne hplain
      exact (parse_port hhead hcolon hport hdigit).trans (if_neg hne)
  | bracketed =>
      have htext : HostForm.bracketed.text host ++ 58 :: candidatePort =
          91 :: (host ++ 93 :: 58 :: candidatePort) := by
        simp [HostForm.text]
      rw [htext, parse_bracketed_port h.1 h.2]

/-- What matches is read, unless `int` fails. -/
theorem parse_of_hostMatches {form : HostForm} {port : Option Nat}
    (h : HostMatches form host port hostReference) :
    parseConnectionHostReference hostReference = .ok (host, port) ∨
      parseConnectionHostReference hostReference = .error .conversion := by
  obtain ⟨hallows, portText, hportText, rfl⟩ := h
  rcases hportText with _ | ⟨hne, hdigits, hrange⟩
  · left
    rw [List.append_nil]
    exact parse_form hallows
  · rw [parse_form_port hallows (colon_notMem hdigits) (PyStr.isdigit_of_isDigit hne hdigits)]
    rcases parseConnectionPort_of_portText (.decimal hne hdigits hrange) with hok | hconversion
    · left
      rw [hok]
      rfl
    · right
      rw [hconversion]
      rfl

/-- What becomes of a host reference, and what makes it clear. -/
inductive HostOutcome (hostReference : PyStr) : Prop
  | rejected (error : ConnectionStringError) (hown : error ≠ .conversion)
      (hparse : parseConnectionHostReference hostReference = .error error)
      (hclear : HostReferenceClear hostReference)
  | bracketed (host : PyStr) (hne : host ≠ []) (hhost : 93 ∉ host)
      (htext : hostReference = 91 :: (host ++ [93]))
      (hclear : HostReferenceClear hostReference)
  | bracketedPort (host candidatePort : PyStr) (hne : host ≠ []) (hhost : 93 ∉ host)
      (htext : hostReference = 91 :: (host ++ 93 :: 58 :: candidatePort))
      (hclear : HostReferenceClear hostReference ↔ PortClear candidatePort)
  | whole (hhead : hostReference.head? ≠ some 91)
      (hparse : parseConnectionHostReference hostReference = .ok (hostReference, none))
      (hclear : HostReferenceClear hostReference ↔ 58 ∉ hostReference ∧ Plain hostReference)
  | port (host candidatePort : PyStr) (hhead : hostReference.head? ≠ some 91) (hne : host ≠ [])
      (hhost : 58 ∉ host) (htext : hostReference = host ++ 58 :: candidatePort)
      (hport : 58 ∉ candidatePort) (hdigit : candidatePort.isdigit = true)
      (hclear : HostReferenceClear hostReference ↔
        PortClear candidatePort ∧ (PortInRange candidatePort = true → Plain host))

theorem clear_plain (hhead : hostReference.head? ≠ some 91) : HostReferenceClear hostReference =
    match partition 58 hostReference with
    | (host, none) => Plain host
    | (host, some candidatePort) =>
        58 ∉ candidatePort ∧ candidatePort.isdigit = true ∧
          (host = [] ∨ PortClear candidatePort ∧
            (PortInRange candidatePort = true → Plain host)) := by
  unfold HostReferenceClear
  split
  · exact absurd rfl hhead
  · rfl

theorem hostOutcome (hne : hostReference ≠ []) : HostOutcome hostReference := by
  by_cases hhead : hostReference.head? = some 91
  · obtain ⟨bracketed, rfl⟩ : ∃ bracketed, hostReference = 91 :: bracketed :=
      List.head?_eq_some_iff.mp hhead
    rcases partition_cases 93 bracketed with hnot | ⟨host, rest, rfl, hhost⟩
    · refine .rejected .bracketedHost (by decide) (parse_unclosed (.inl hnot)) ?_
      simp only [HostReferenceClear, partition_of_notMem hnot]
    · by_cases hempty : host = []
      · subst hempty
        refine .rejected .bracketedHost (by decide) (parse_unclosed (.inr ⟨rest, rfl⟩)) ?_
        simp only [HostReferenceClear, partition_append hhost]
      · rcases rest with _ | ⟨c, rest⟩
        · refine .bracketed host hempty hhost rfl ?_
          simp only [HostReferenceClear, partition_append hhost]
        · by_cases hc : c = 58
          · subst hc
            refine .bracketedPort host rest hempty hhost rfl ?_
            obtain ⟨d, name, rfl⟩ := List.exists_cons_of_ne_nil hempty
            simp only [HostReferenceClear, partition_append hhost]
          · refine .rejected .hostForm (by decide) (parse_bracketed_other hempty hhost hc) ?_
            simp only [HostReferenceClear, partition_append hhost]
            split
            · next heq =>
                cases heq
                exact absurd rfl hc
            · trivial
  · rcases partition_cases 58 hostReference with hnot | ⟨host, candidatePort, rfl, hhost⟩
    · refine .whole hhead (parse_whole hhead hne (.inl hnot)) ?_
      rw [clear_plain hhead, partition_of_notMem hnot]
      exact ⟨fun h => ⟨hnot, h⟩, fun h => h.2⟩
    · have hmem : 58 ∈ host ++ 58 :: candidatePort :=
        List.mem_append_right _ List.mem_cons_self
      by_cases hport : 58 ∈ candidatePort ∨ candidatePort.isdigit = false
      · refine .whole hhead
          (parse_whole hhead hne (.inr ⟨host, candidatePort, rfl, hhost, hport⟩)) ?_
        rw [clear_plain hhead, partition_append hhost]
        refine iff_of_false (fun h => ?_) fun h => h.1 hmem
        rcases hport with hcolon | hdigit
        · exact h.1 hcolon
        · have htrue := h.2.1
          rw [hdigit] at htrue
          cases htrue
      · rw [not_or, Bool.not_eq_false] at hport
        by_cases hempty : host = []
        · refine .rejected .hostMissing (by decide) ?_ ?_
          · rw [parse_port hhead hhost hport.1 hport.2, if_pos hempty]
          · rw [clear_plain hhead, partition_append hhost]
            exact ⟨hport.1, hport.2, .inl hempty⟩
        · refine .port host candidatePort hhead hempty hhost rfl hport.1 hport.2 ?_
          rw [clear_plain hhead, partition_append hhost]
          simp only [hport.1, hport.2, hempty, false_or, not_false_iff, true_and]

/-- The parser accepts a host reference exactly when it matches, and `int` does not fail. -/
def HostExact (hostReference : PyStr) : Prop :=
  (∀ host port, parseConnectionHostReference hostReference = .ok (host, port) →
    ∃ form, HostMatches form host port hostReference) ∧
      parseConnectionHostReference hostReference ≠ .error .conversion

theorem map_ok_iff {parsed : Except ConnectionStringError Nat} {name : PyStr}
    {port : Option Nat} :
    (parsed.map fun found => (host, some found)) = .ok (name, port) ↔
      name = host ∧ ∃ found, port = some found ∧ parsed = .ok found := by
  cases parsed with
  | error error =>
      refine iff_of_false (fun h => nomatch h) ?_
      rintro ⟨-, found, -, h⟩
      cases h
  | ok found =>
      simp only [Except.map, Except.ok.injEq, Prod.mk.injEq]
      constructor
      · rintro ⟨rfl, rfl⟩
        exact ⟨rfl, found, rfl, rfl⟩
      · rintro ⟨rfl, port, rfl, rfl⟩
        exact ⟨rfl, rfl⟩

theorem map_conversion_iff {parsed : Except ConnectionStringError Nat} :
    (parsed.map fun found => (host, some found)) = .error .conversion ↔
      parsed = .error .conversion := by
  cases parsed with
  | error error => simp [Except.map]
  | ok found => simp [Except.map]

/-- A host with a port behind it is read exactly when the port is clear and the host is one of
the form, if the port is accepted. -/
theorem hostExact_port_iff {form : HostForm} (hparse : parseConnectionHostReference hostReference =
      (parseConnectionPort candidatePort).map fun port => (host, some port))
    (hmatches : ∀ port, (∃ form, HostMatches form host (some port) hostReference) ↔
      form.Allows host ∧ PortText (58 :: candidatePort) (some port)) :
    HostExact hostReference ↔
      PortClear candidatePort ∧ (PortInRange candidatePort = true → candidatePort.isdigit = true →
        form.Allows host) := by
  have hread : HostExact hostReference ↔
      (∀ port, parseConnectionPort candidatePort = .ok port →
        form.Allows host ∧ PortText (58 :: candidatePort) (some port)) ∧
          parseConnectionPort candidatePort ≠ .error .conversion := by
    unfold HostExact
    rw [hparse, Ne, map_conversion_iff]
    refine and_congr_left fun _ => ⟨fun h port hport => ?_, fun h name port heq => ?_⟩
    · exact (hmatches port).mp (h host (some port) (map_ok_iff.mpr ⟨rfl, port, rfl, hport⟩))
    · obtain ⟨rfl, found, rfl, hfound⟩ := map_ok_iff.mp heq
      exact (hmatches found).mpr (h found hfound)
  rw [hread]
  constructor
  · rintro ⟨hok, hconversion⟩
    refine ⟨fun hdigit => ⟨?_, fun hrange => ?_⟩, fun hrange hdigit => ?_⟩
    · rw [Option.isSome_iff_ne_none]
      exact fun hnone => hconversion (parseConnectionPort_conversion_iff.mpr ⟨hdigit, hnone⟩)
    · obtain ⟨port, hint, hbounds⟩ := portInRange_iff.mp hrange
      have hport := (hok port (parseConnectionPort_ok_iff.mpr ⟨hdigit, hint, hbounds⟩)).2
      cases hport with
      | decimal hne hdigits => exact hdigits
    · obtain ⟨port, hint, hbounds⟩ := portInRange_iff.mp hrange
      exact (hok port (parseConnectionPort_ok_iff.mpr ⟨hdigit, hint, hbounds⟩)).1
  · rintro ⟨hclear, hallows⟩
    refine ⟨fun port hport => ?_, fun hconversion => ?_⟩
    · obtain ⟨hdigit, hint, hbounds⟩ := parseConnectionPort_ok_iff.mp hport
      exact ⟨hallows (portInRange_iff.mpr ⟨port, hint, hbounds⟩) hdigit,
        portText_of_ok hclear hport⟩
    · obtain ⟨hdigit, hnone⟩ := parseConnectionPort_conversion_iff.mp hconversion
      have hsome := (hclear hdigit).1
      rw [hnone] at hsome
      cases hsome

/-- A bracketed text matches in one form only. -/
theorem matches_bracketed {rest : PyStr} {port : Option Nat} :
    (∃ form, HostMatches form host port (91 :: (host ++ 93 :: rest))) ↔
      HostForm.bracketed.Allows host ∧ PortText rest port := by
  constructor
  · rintro ⟨form, hallows, portText, hportText, htext⟩
    cases form with
    | plain =>
        obtain ⟨hne, -, hplain⟩ := hallows
        have hhead := congrArg List.head? htext
        rw [HostForm.text, List.head?_append_of_ne_nil _ hne] at hhead
        exact absurd hhead.symm (head?_ne hplain)
    | bracketed =>
        rw [HostForm.text, List.cons_append, List.append_assoc] at htext
        have hrest := List.append_cancel_left (List.cons.inj htext).2
        rw [(List.cons.inj hrest).2]
        exact ⟨hallows, hportText⟩
  · rintro ⟨hallows, hportText⟩
    refine ⟨.bracketed, hallows, rest, hportText, ?_⟩
    simp [HostForm.text]

/-- So does a text without a bracket in front. -/
theorem matches_plain {rest : PyStr} {port : Option Nat} (hhead : (host ++ rest).head? ≠ some 91) :
    (∃ form, HostMatches form host port (host ++ rest)) ↔
      HostForm.plain.Allows host ∧ PortText rest port := by
  constructor
  · rintro ⟨form, hallows, portText, hportText, htext⟩
    cases form with
    | plain =>
        rw [List.append_cancel_left htext]
        exact ⟨hallows, hportText⟩
    | bracketed => exact absurd (congrArg List.head? htext) hhead
  · rintro ⟨hallows, hportText⟩
    exact ⟨.plain, hallows, rest, hportText, rfl⟩

theorem hostExact_iff (hne : hostReference ≠ []) :
    HostExact hostReference ↔ HostReferenceClear hostReference := by
  rcases hostOutcome hne with ⟨error, hown, hparse, hclear⟩ |
    ⟨host, hempty, hhost, rfl, hclear⟩ | ⟨host, candidatePort, hempty, hhost, rfl, hclear⟩ |
    ⟨hhead, hparse, hclear⟩ |
      ⟨host, candidatePort, hhead, hempty, hhost, rfl, hport, hdigit, hclear⟩
  · refine iff_of_true ⟨fun host port hok => ?_, fun hconversion => ?_⟩ hclear
    · rw [hparse] at hok
      cases hok
    · rw [hparse] at hconversion
      exact hown (Except.error.inj hconversion)
  · have hparse := parse_bracketed hempty hhost
    refine iff_of_true ⟨fun name port hok => ?_, fun hconversion => ?_⟩ hclear
    · rw [hparse] at hok
      cases hok
      exact matches_bracketed.mpr ⟨⟨hempty, hhost⟩, .absent⟩
    · rw [hparse] at hconversion
      cases hconversion
  · rw [hclear, hostExact_port_iff (parse_bracketed_port hempty hhost)
      fun port => matches_bracketed]
    exact and_iff_left fun _ _ => ⟨hempty, hhost⟩
  · rw [hclear]
    have hmatches := @matches_plain hostReference [] none (by rwa [List.append_nil])
    rw [List.append_nil] at hmatches
    constructor
    · intro hexact
      obtain ⟨⟨-, hcolon, hplain⟩, -⟩ := hmatches.mp (hexact.1 _ _ hparse)
      exact ⟨hcolon, hplain⟩
    · rintro ⟨hcolon, hplain⟩
      refine ⟨fun name port hok => ?_, fun hconversion => ?_⟩
      · rw [hparse] at hok
        cases hok
        exact hmatches.mpr ⟨⟨hne, hcolon, hplain⟩, .absent⟩
      · rw [hparse] at hconversion
        cases hconversion
  · rw [hclear, hostExact_port_iff ((parse_port hhead hhost hport hdigit).trans (if_neg hempty))
      fun port => matches_plain hhead]
    refine and_congr_right fun _ => ⟨fun h hrange => (h hrange hdigit).2.2, fun h hrange _ => ?_⟩
    exact ⟨hempty, hhost, h hrange⟩

end Hosts

/-! ## Connection strings -/

section Strings

variable {connectionString username hostReference : PyStr} {form : HostForm}
  {parts : ParsedBackupConnectionString}

theorem parse_rejected (h : ∀ user hostReference : PyStr, user ≠ [] → 64 ∉ user →
      hostReference ≠ [] → connectionString.strip ≠ user ++ 64 :: hostReference) :
    parseBackupConnectionString connectionString = .error .form := by
  unfold parseBackupConnectionString
  rcases partition_cases 64 connectionString.strip with hnot | ⟨user, hostReference, htext, huser⟩
  · rw [partition_of_notMem hnot]
    split
    · rfl
    · rfl
    · rfl
    · next heq => cases heq
  · rw [htext, partition_append huser]
    rcases user with _ | ⟨c, user⟩
    · rfl
    · rcases hostReference with _ | ⟨d, rest⟩
      · rfl
      · exact absurd htext (h _ _ (List.cons_ne_nil _ _) huser (List.cons_ne_nil _ _))

theorem parse_split (hne : username ≠ []) (huser : 64 ∉ username) (href : hostReference ≠ [])
    (htext : connectionString.strip = username ++ 64 :: hostReference) :
    parseBackupConnectionString connectionString =
      (parseConnectionHostReference hostReference).map fun found =>
        ⟨username, found.1, found.2⟩ := by
  obtain ⟨c, user, rfl⟩ := List.exists_cons_of_ne_nil hne
  obtain ⟨d, rest, rfl⟩ := List.exists_cons_of_ne_nil href
  unfold parseBackupConnectionString
  rw [htext, partition_append huser]
  rfl

theorem hostMatches_ne_nil {host : PyStr} {port : Option Nat}
    (h : HostMatches form host port hostReference) : hostReference ≠ [] := by
  obtain ⟨hallows, portText, -, rfl⟩ := h
  cases form with
  | plain => exact List.append_ne_nil_of_left_ne_nil hallows.1 _
  | bracketed => exact List.cons_ne_nil _ _

/-- The first `@` is the only cut. -/
theorem matches_cons (hne : username ≠ []) (huser : 64 ∉ username) :
    Matches form parts (username ++ 64 :: hostReference) ↔
      parts.username = username ∧ HostMatches form parts.host parts.port hostReference := by
  constructor
  · rintro ⟨-, hnot, rest, hmatches, htext⟩
    have hcut := congrArg (partition 64) htext
    rw [partition_append huser, partition_append hnot, Prod.mk.injEq, Option.some.injEq] at hcut
    obtain ⟨rfl, rfl⟩ := hcut
    exact ⟨rfl, hmatches⟩
  · rintro ⟨rfl, hmatches⟩
    exact ⟨hne, huser, hostReference, hmatches, rfl⟩

theorem isSpace_of_isDigit {c : Nat} (h : PyStr.IsDigit c) : PyStr.isSpace c = false := by
  obtain ⟨hlow, hhigh⟩ := h
  unfold PyStr.isSpace
  simp
  omega

theorem strip_render {text : PyStr} (hstrip : text.strip = text)
    (hmatches : Matches form parts text) : (render form parts).strip = render form parts := by
  obtain ⟨hne, -, rest, ⟨-, portText, hportText, rfl⟩, rfl⟩ := hmatches
  obtain ⟨hfront, -⟩ := PyStr.strip_eq_self_iff.mp hstrip
  rw [List.head?_append_of_ne_nil _ hne] at hfront
  cases hport : parts.port with
  | none =>
      rw [hport] at hportText
      cases hportText
      rw [render, hport]
      exact hstrip
  | some port =>
      refine PyStr.strip_eq_self_iff.mpr ⟨?_, fun c hc => ?_⟩
      · rw [render, List.head?_append_of_ne_nil _ hne]
        exact hfront
      · have hlast : (render form parts).getLast? = (PyStr.decimal port).getLast? := by
          rw [render, hport, Option.elim_some, show ∀ a b : PyStr,
            parts.username ++ 64 :: (a ++ 58 :: b) = (parts.username ++ 64 :: (a ++ [58])) ++ b
            from fun a b => by simp, List.getLast?_append_of_ne_nil _ (PyStr.decimal_ne_nil port)]
        rw [hlast] at hc
        exact isSpace_of_isDigit (PyStr.isDigit_of_mem_decimal (List.mem_of_getLast? hc))

theorem parseConnectionPort_decimal {port : Nat} (hlow : 1 ≤ port) (hhigh : port ≤ 65535) :
    parseConnectionPort (PyStr.decimal port) = .ok port := by
  have hdigits : ∀ c ∈ PyStr.decimal port, PyStr.IsDigit c :=
    fun c hc => PyStr.isDigit_of_mem_decimal hc
  have hlength : (PyStr.decimal port).length ≤ 5 :=
    PyStr.length_decimal_le (by omega) (by omega)
  have hint := PyStr.int?_of_isDigit (by rw [PyStr.intMaxStrDigits]; omega) hdigits
  rw [PyStr.numberOf_decimal] at hint
  exact parseConnectionPort_ok_iff.mpr
    ⟨PyStr.isdigit_of_isDigit (PyStr.decimal_ne_nil port) hdigits, hint, hlow, hhigh⟩

/-- The parts in their form are read as these parts. -/
theorem parse_render {text : PyStr} (hstrip : text.strip = text)
    (hmatches : Matches form parts text) :
    parseBackupConnectionString (render form parts) = .ok parts := by
  have hrender := strip_render hstrip hmatches
  obtain ⟨hne, huser, rest, ⟨hallows, portText, hportText, rfl⟩, rfl⟩ := hmatches
  have htext : form.text parts.host ≠ [] := by
    have hnone := hostMatches_ne_nil ⟨hallows, [], .absent, rfl⟩
    rwa [List.append_nil] at hnone
  rw [parse_split hne huser (List.append_ne_nil_of_left_ne_nil htext _) hrender]
  obtain ⟨username, host, port⟩ := parts
  cases hportText with
  | absent =>
      rw [Option.elim_none, List.append_nil, parse_form hallows]
      rfl
  | decimal hdigitsNe hdigits hrange =>
      have hfound (port : Nat) : ∀ c ∈ PyStr.decimal port, PyStr.IsDigit c :=
        fun c hc => PyStr.isDigit_of_mem_decimal hc
      rw [Option.elim_some, parse_form_port hallows (colon_notMem (hfound _))
        (PyStr.isdigit_of_isDigit (PyStr.decimal_ne_nil _) (hfound _)),
        parseConnectionPort_decimal hrange.1 hrange.2]
      rfl

theorem map_parts_conversion_iff {parsed : Except ConnectionStringError (PyStr × Option Nat)} :
    (parsed.map fun found => ParsedBackupConnectionString.mk username found.1 found.2) =
      .error .conversion ↔ parsed = .error .conversion := by
  cases parsed with
  | error error => simp [Except.map]
  | ok found => simp [Except.map]

theorem map_parts_ok_iff {parsed : Except ConnectionStringError (PyStr × Option Nat)} :
    (parsed.map fun found => ParsedBackupConnectionString.mk username found.1 found.2) =
      .ok parts ↔ parts.username = username ∧ parsed = .ok (parts.host, parts.port) := by
  obtain ⟨user, host, port⟩ := parts
  cases parsed with
  | error error => simp [Except.map]
  | ok found =>
      obtain ⟨name, number⟩ := found
      simp [Except.map, eq_comm]

theorem rejects_iff : (∀ error, parseBackupConnectionString connectionString = .error error →
      error.message.isSome = true) ↔
    parseBackupConnectionString connectionString ≠ .error .conversion := by
  constructor
  · intro h heq
    cases h _ heq
  · intro h error heq
    cases error with
    | conversion => exact absurd heq h
    | _ => rfl

/-- A string that is not cut has no parts, and one that is cut is read as its host is. -/
theorem parsesExactly_of_split (hne : username ≠ []) (huser : 64 ∉ username)
    (href : hostReference ≠ [])
    (htext : connectionString.strip = username ++ 64 :: hostReference) :
    ParsesExactly connectionString ↔ HostExact hostReference := by
  have hparse := parse_split hne huser href htext
  constructor
  · rintro ⟨haccepts, hrejects, -⟩
    refine ⟨fun host port hok => ?_, fun hconversion => ?_⟩
    · have hparts := (haccepts ⟨username, host, port⟩).mp (by rw [hparse, hok]; rfl)
      rw [htext] at hparts
      obtain ⟨form, hmatches⟩ := hparts
      exact ⟨form, ((matches_cons hne huser).mp hmatches).2⟩
    · exact rejects_iff.mp hrejects (by rw [hparse, hconversion]; rfl)
  · rintro ⟨hsound, hconversion⟩
    refine ⟨fun parts => ?_, ?_, fun form parts _ hmatches =>
      parse_render (PyStr.strip_strip connectionString) hmatches⟩
    · rw [hparse, map_parts_ok_iff, htext]
      constructor
      · rintro ⟨rfl, hok⟩
        obtain ⟨form, hmatches⟩ := hsound _ _ hok
        exact ⟨form, (matches_cons hne huser).mpr ⟨rfl, hmatches⟩⟩
      · rintro ⟨form, hmatches⟩
        obtain ⟨huserEq, hhost⟩ := (matches_cons hne huser).mp hmatches
        rcases parse_of_hostMatches hhost with hok | hfailed
        · exact ⟨huserEq, hok⟩
        · exact absurd hfailed hconversion
    · rw [rejects_iff, hparse, Ne, map_parts_conversion_iff]
      exact hconversion

theorem clear_split (hne : username ≠ []) (huser : 64 ∉ username)
    (htext : connectionString.strip = username ++ 64 :: hostReference) :
    ConnectionStringClear connectionString ↔ HostReferenceClear hostReference := by
  obtain ⟨c, user, rfl⟩ := List.exists_cons_of_ne_nil hne
  unfold ConnectionStringClear
  rw [htext, partition_append huser]

theorem clear_unsplit (h : ∀ user hostReference : PyStr, user ≠ [] → 64 ∉ user →
      hostReference ≠ [] → connectionString.strip ≠ user ++ 64 :: hostReference) :
    ConnectionStringClear connectionString := by
  unfold ConnectionStringClear
  rcases partition_cases 64 connectionString.strip with hnot | ⟨user, hostReference, htext, huser⟩
  · rw [partition_of_notMem hnot]
    split
    · next heq => cases (Prod.mk.inj heq).2
    · trivial
  · rw [htext, partition_append huser]
    rcases user with _ | ⟨c, user⟩
    · trivial
    · rcases hostReference with _ | ⟨d, rest⟩
      · simp [HostReferenceClear, partition, Plain]
      · exact absurd htext (h _ _ (List.cons_ne_nil _ _) huser (List.cons_ne_nil _ _))

/-- The parser has its grammar on the clear strings and on no other. -/
theorem parses_exactly_iff (connectionString : PyStr) :
    ParsesExactly connectionString ↔ ConnectionStringClear connectionString := by
  by_cases h : ∀ user hostReference : PyStr, user ≠ [] → 64 ∉ user →
      hostReference ≠ [] → connectionString.strip ≠ user ++ 64 :: hostReference
  · have hparse := parse_rejected h
    refine iff_of_true ⟨fun parts => ?_, ?_, fun form parts hok => ?_⟩ (clear_unsplit h)
    · refine iff_of_false (fun hok => ?_) ?_
      · rw [hparse] at hok
        cases hok
      · rintro ⟨form, hne, huser, rest, hhost, htext⟩
        exact h _ _ hne huser (hostMatches_ne_nil hhost) htext
    · rw [rejects_iff, hparse]
      exact fun heq => nomatch heq
    · rw [hparse] at hok
      cases hok
  · push Not at h
    obtain ⟨username, hostReference, hne, huser, href, htext⟩ := h
    rw [parsesExactly_of_split hne huser href htext, clear_split hne huser htext,
      hostExact_iff href]

/-- A port that is not a number is part of the host. -/
theorem malformed_port_accepted : ¬ ∀ connectionString, ParsesExactly connectionString := by
  intro h
  have hok : parseBackupConnectionString (py "user@host:abc") =
      .ok ⟨py "user", py "host:abc", none⟩ := by
    decide
  obtain ⟨form, -, -, rest, ⟨hallows, portText, -, rfl⟩, htext⟩ := ((h _).accepts _).mp hok
  cases form with
  | plain => exact hallows.2.1 (by decide)
  | bracketed =>
      have hsixth : some 104 = some 91 := congrArg (fun text : PyStr => text[5]?) htext
      cases hsixth

end Strings

end ImmichDoctor.Backup
