import ImmichDoctor.Library.Text
/-!
# Commands of a shell

The part of the POSIX shell language with words, quotes, parameters in double quotes, assignments,
`|` and `&&`. A text with anything else in it has no meaning here. What a text is read as can be
told piece by piece, and a text that `shlex.quote` has quoted is read as itself.
-/

namespace ImmichDoctor.Library

namespace Shell

/-! ## Tokens -/

/-- A part of a word: a character, or a parameter in double quotes. -/
inductive Part
  | char (quoted : Bool) (c : Nat)
  | param (name : PyStr)
  deriving DecidableEq

abbrev Word := List Part

inductive Token
  | word (parts : Word)
  | andIf
  | pipe
  deriving DecidableEq

inductive Mode
  | plain
  | single
  | double
  /-- In double quotes, after a dollar sign and some characters of a name. -/
  | param (name : PyStr)
  /-- After the first `&`. -/
  | ampersand
  /-- After something that is not modelled. -/
  | unknown
  deriving DecidableEq

structure Lexer where
  tokens : List Token
  /-- The word that was begun. -/
  word : Option Word
  mode : Mode
  deriving DecidableEq

def isDigit (c : Nat) : Bool :=
  48 ≤ c && c ≤ 57

/-- Whether a name can begin with the character. -/
def startsName (c : Nat) : Bool :=
  (65 ≤ c && c ≤ 90) || (97 ≤ c && c ≤ 122) || c == 95

def inName (c : Nat) : Bool :=
  startsName c || isDigit c

/-- Characters with a meaning of their own when they are not quoted, and the newline. -/
def isSpecial (c : Nat) : Bool :=
  c ∈ [10, 33, 35, 36, 40, 41, 42, 59, 60, 62, 63, 91, 92, 93, 96, 123, 125, 126]

namespace Lexer

def start : Lexer :=
  ⟨[], none, .plain⟩

def push (parts : List Part) (lexer : Lexer) : Lexer :=
  { lexer with word := some (lexer.word.getD [] ++ parts) }

def enter (mode : Mode) (lexer : Lexer) : Lexer :=
  { lexer with mode := mode }

def emit (token : Token) (lexer : Lexer) : Lexer :=
  { lexer with tokens := lexer.tokens ++ [token] }

def endWord (lexer : Lexer) : Lexer :=
  match lexer.word with
  | none => lexer
  | some word => { lexer with tokens := lexer.tokens ++ [.word word], word := none }

def stepPlain (lexer : Lexer) (c : Nat) : Lexer :=
  if c = 32 ∨ c = 9 then lexer.endWord
  else if c = 39 then (lexer.push []).enter .single
  else if c = 34 then (lexer.push []).enter .double
  else if c = 38 then lexer.endWord.enter .ampersand
  else if c = 124 then lexer.endWord.emit .pipe
  else if isSpecial c then lexer.enter .unknown
  else lexer.push [.char false c]

def stepDouble (lexer : Lexer) (c : Nat) : Lexer :=
  if c = 34 then lexer.enter .plain
  else if c = 36 then lexer.enter (.param [])
  else if c = 92 ∨ c = 96 then lexer.enter .unknown
  else lexer.push [.char true c]

/-- The lexer after one more character. -/
def step (lexer : Lexer) (c : Nat) : Lexer :=
  match lexer.mode with
  | .plain => lexer.stepPlain c
  | .single => if c = 39 then lexer.enter .plain else lexer.push [.char true c]
  | .double => lexer.stepDouble c
  | .param name =>
      if (if name = [] then startsName c else inName c) then lexer.enter (.param (name ++ [c]))
      else if name = [] then lexer.enter .unknown
      else ((lexer.push [.param name]).enter .double).stepDouble c
  | .ampersand => if c = 38 then (lexer.emit .andIf).enter .plain else lexer.enter .unknown
  | .unknown => lexer

end Lexer

/-- The tokens of a text. -/
def lex (text : PyStr) : Option (List Token) :=
  let lexer := (text.foldl Lexer.step .start).endWord
  if lexer.mode = .plain then some lexer.tokens else none

/-! ## Commands -/

structure SimpleCommand where
  assignments : List (PyStr × Word)
  words : List Word
  deriving DecidableEq

/-- The name and the value of an assignment, after some characters of the name. -/
def assignmentOf (name : PyStr) : Word → Option (PyStr × Word)
  | .char false c :: rest =>
      if c = 61 ∧ name ≠ [] then some (name, rest)
      else if (if name = [] then startsName c else inName c) then assignmentOf (name ++ [c]) rest
      else none
  | _ => none

/-- Assignments stand before the words of a command. -/
def simpleCommand : List Word → SimpleCommand
  | [] => ⟨[], []⟩
  | word :: words =>
      match assignmentOf [] word with
      | none => ⟨[], word :: words⟩
      | some assignment =>
          let command := simpleCommand words
          { command with assignments := assignment :: command.assignments }

/-- The words between `&&` and between `|`. -/
def pipelines : List Token → List (List (List Word))
  | [] => [[[]]]
  | .andIf :: tokens => [[]] :: pipelines tokens
  | .pipe :: tokens =>
      match pipelines tokens with
      | [] => []
      | pipeline :: rest => ([] :: pipeline) :: rest
  | .word parts :: tokens =>
      match pipelines tokens with
      | (words :: commands) :: rest => ((parts :: words) :: commands) :: rest
      | other => other

/-! ## Runs -/

/-- The values of the parameters; one that is not set is empty. -/
abbrev Parameters := PyStr → PyStr

/-- A word after the expansion of its parameters and the removal of its quotes. -/
def expand (parameters : Parameters) (word : Word) : PyStr :=
  word.flatMap fun
    | .char _ c => [c]
    | .param name => parameters name

def assign (parameters : Parameters) (assignments : List (PyStr × Word)) : Parameters :=
  assignments.foldl
    (fun current assignment name =>
      if name = assignment.1 then expand current assignment.2 else current name) parameters

section Runs

variable {σ : Type}

/-- How a pipeline of argument vectors ends, and what it makes of the world. -/
abbrev Execution (σ : Type) := List (List PyStr) → σ → Bool × σ

/-- Pipelines one after the other, as long as each succeeds. -/
def inTurn (execute : Execution σ) : List (List (List PyStr)) → σ → Bool × σ
  | [], world => (true, world)
  | pipeline :: rest, world =>
      match execute pipeline world with
      | (true, world) => inTurn execute rest world
      | (false, world) => (false, world)

/-- A list of pipelines between `&&`: assignments on their own, or commands without any. -/
def runPipelines (execute : Execution σ) :
    Parameters → List (List SimpleCommand) → σ → Option (Bool × σ)
  | _, [], world => some (true, world)
  | parameters, commands :: rest, world =>
      match commands with
      | [⟨assignment :: assignments, []⟩] =>
          runPipelines execute (assign parameters (assignment :: assignments)) rest world
      | commands =>
          if commands.all fun command => command.assignments.isEmpty && !command.words.isEmpty then
            match execute (commands.map fun command => command.words.map (expand parameters))
                world with
            | (true, world) => runPipelines execute parameters rest world
            | (false, world) => some (false, world)
          else none

/-- What a shell makes of a text; none when there is something in it that is not modelled. -/
def run (execute : Execution σ) (parameters : Parameters) (text : PyStr) (world : σ) :
    Option (Bool × σ) := do
  let tokens ← lex text
  runPipelines execute parameters ((pipelines tokens).map (·.map simpleCommand)) world

/-- Commands without assignments. -/
def PlainCommands (commands : List SimpleCommand) : Prop :=
  ∀ command ∈ commands, command.assignments = [] ∧ command.words ≠ []

/-- The argument vectors of commands. -/
def argvs (parameters : Parameters) (commands : List SimpleCommand) : List (List PyStr) :=
  commands.map fun command => command.words.map (expand parameters)

variable {execute : Execution σ} {parameters : Parameters} {commands : List SimpleCommand}
  {rest : List (List SimpleCommand)} {world : σ}

theorem runPipelines_cons (h : PlainCommands commands) :
    runPipelines execute parameters (commands :: rest) world =
      match execute (argvs parameters commands) world with
      | (true, world) => runPipelines execute parameters rest world
      | (false, world) => some (false, world) := by
  have hall : (commands.all fun command =>
      command.assignments.isEmpty && !command.words.isEmpty) = true := by
    rw [List.all_eq_true]
    intro command hcommand
    obtain ⟨hassignments, hwords⟩ := h command hcommand
    simp [hassignments, hwords]
  have hnot : ∀ assignment assignments, commands ≠ [⟨assignment :: assignments, []⟩] := by
    rintro assignment assignments rfl
    exact (h _ List.mem_cons_self).2 rfl
  rw [runPipelines, if_pos hall]
  · rfl
  · exact hnot

/-- Without assignments the pipelines are executed one after the other. -/
theorem runPipelines_eq_inTurn (h : ∀ commands ∈ rest, PlainCommands commands) :
    runPipelines execute parameters rest world =
      some (inTurn execute (rest.map (argvs parameters)) world) := by
  induction rest generalizing world with
  | nil => rfl
  | cons commands rest ih =>
      obtain ⟨hfirst, hrest⟩ := List.forall_mem_cons.mp h
      rw [runPipelines_cons hfirst, List.map_cons, inTurn]
      rcases execute (argvs parameters commands) world with ⟨_ | _, world⟩
      · rfl
      · exact ih hrest

end Runs

/-! ## Quoting -/

/-- What `shlex` leaves as it is: letters, digits, underscores and `%`, `+`, `,`, `-`, `.`, `/`,
`:`, `=`, `@`. -/
def isSafe (c : Nat) : Bool :=
  inName c || c ∈ [37, 43, 44, 45, 46, 47, 58, 61, 64]

/-- A single quote in a text in single quotes. -/
def quotedQuote : PyStr :=
  [39, 34, 39, 34, 39]

/-- `shlex.quote`. -/
def quote (text : PyStr) : PyStr :=
  if text = [] then [39, 39]
  else if text.all isSafe then text
  else 39 :: (text.flatMap fun c => if c = 39 then quotedQuote else [c]) ++ [39]

example : quote (py "it's") = py "'it'\"'\"'s'" := by decide

/-- What a quoted text is read as. -/
def quotedParts (text : PyStr) : Word :=
  text.map (.char (!text.all isSafe))

theorem expand_quotedParts (parameters : Parameters) (text : PyStr) :
    expand parameters (quotedParts text) = text := by
  unfold expand quotedParts
  rw [List.flatMap_map]
  exact List.flatMap_singleton' text

theorem expand_append (parameters : Parameters) (a b : Word) :
    expand parameters (a ++ b) = expand parameters a ++ expand parameters b :=
  List.flatMap_append

/-! ## What quoted texts are read as -/

section Reading

variable {lexer : Lexer}

/-- The lexer with tokens before its own. -/
def Lexer.after (tokens : List Token) (lexer : Lexer) : Lexer :=
  { lexer with tokens := tokens ++ lexer.tokens }

theorem after_endWord (tokens : List Token) :
    (lexer.after tokens).endWord = lexer.endWord.after tokens := by
  obtain ⟨own, word, mode⟩ := lexer
  cases word <;> simp [Lexer.endWord, Lexer.after]

/-- What was read before does not matter for what comes. -/
theorem after_step (tokens : List Token) (c : Nat) :
    (lexer.after tokens).step c = (lexer.step c).after tokens := by
  have hplain : ∀ lexer : Lexer, (lexer.after tokens).stepPlain c =
      (lexer.stepPlain c).after tokens := by
    intro lexer
    simp only [Lexer.stepPlain, after_endWord]
    split_ifs <;> simp [Lexer.enter, Lexer.push, Lexer.emit, Lexer.after]
  have hdouble : ∀ lexer : Lexer, (lexer.after tokens).stepDouble c =
      (lexer.stepDouble c).after tokens := by
    intro lexer
    simp only [Lexer.stepDouble]
    split_ifs <;> simp [Lexer.enter, Lexer.push, Lexer.after]
  obtain ⟨own, word, mode⟩ := lexer
  cases mode with
  | plain => exact hplain ⟨own, word, .plain⟩
  | single =>
      simp only [Lexer.step, Lexer.after]
      split_ifs <;> simp [Lexer.enter, Lexer.push]
  | double => exact hdouble ⟨own, word, .double⟩
  | param name =>
      simp only [Lexer.step, Lexer.after]
      split_ifs
      · rfl
      · rfl
      · rfl
      · exact hdouble ⟨own, some (word.getD [] ++ [.param name]), .double⟩
  | ampersand =>
      simp only [Lexer.step, Lexer.after]
      split_ifs <;> simp [Lexer.enter, Lexer.emit]
  | unknown => rfl

theorem after_foldl_step (tokens : List Token) (text : PyStr) :
    text.foldl Lexer.step (lexer.after tokens) = (text.foldl Lexer.step lexer).after tokens := by
  induction text generalizing lexer with
  | nil => rfl
  | cons c text ih => rw [List.foldl_cons, after_step, ih, List.foldl_cons]

/-- The tokens of a text that ends with a word. -/
theorem lex_of_foldl {text : PyStr} {tokens : List Token} {word : Word}
    (h : text.foldl Lexer.step .start = ⟨tokens, some word, .plain⟩) :
    lex text = some (tokens ++ [.word word]) := by
  rw [lex, h]
  rfl

/-- After a word there is a blank, and a text that is read as if it were the first. -/
theorem foldl_step_blank {tokens : List Token} {word : Word} {text : PyStr} {last : Lexer}
    (h : text.foldl Lexer.step .start = last) :
    (32 :: text).foldl Lexer.step ⟨tokens, some word, .plain⟩ =
      last.after (tokens ++ [.word word]) := by
  have hblank : Lexer.step ⟨tokens, some word, .plain⟩ 32 =
      Lexer.start.after (tokens ++ [.word word]) := by
    simp [Lexer.step, Lexer.stepPlain, Lexer.endWord, Lexer.after, Lexer.start]
  rw [List.foldl_cons, hblank, after_foldl_step, h]

theorem push_push (a b : List Part) : (lexer.push a).push b = lexer.push (a ++ b) := by
  simp [Lexer.push]

theorem stepPlain_of_isSafe {c : Nat} (h : isSafe c = true) :
    lexer.stepPlain c = lexer.push [.char false c] := by
  have hvalues : c ≠ 32 ∧ c ≠ 9 ∧ c ≠ 39 ∧ c ≠ 34 ∧ c ≠ 38 ∧ c ≠ 124 ∧ isSpecial c = false := by
    simp only [isSafe, inName, startsName, isDigit, isSpecial, List.mem_cons, List.not_mem_nil,
      Bool.or_eq_true, Bool.and_eq_true, decide_eq_true_eq, beq_iff_eq, decide_eq_false_iff_not,
      or_false] at h ⊢
    refine ⟨?_, ?_, ?_, ?_, ?_, ?_, ?_⟩ <;> omega
  obtain ⟨hspace, htab, hsingle, hdouble, hand, hpipe, hspecial⟩ := hvalues
  rw [Lexer.stepPlain, if_neg (by omega), if_neg hsingle, if_neg hdouble, if_neg hand, if_neg hpipe,
    hspecial]
  rfl

theorem foldl_step_safe {text : PyStr} (hsafe : text.all isSafe = true)
    (hmode : lexer.mode = .plain) (hword : lexer.word ≠ none) :
    text.foldl Lexer.step lexer = lexer.push (text.map (.char false)) := by
  induction text generalizing lexer with
  | nil =>
      obtain ⟨word, hsome⟩ := Option.ne_none_iff_exists'.mp hword
      cases lexer
      simp_all [Lexer.push]
  | cons c text ih =>
      rw [List.all_cons, Bool.and_eq_true] at hsafe
      have hstep : lexer.step c = lexer.push [.char false c] := by
        rw [Lexer.step, hmode]
        exact stepPlain_of_isSafe hsafe.1
      have hrest : text.foldl Lexer.step (lexer.push [.char false c]) =
          (lexer.push [.char false c]).push (text.map (.char false)) :=
        ih hsafe.2 hmode (Option.some_ne_none _)
      rw [List.foldl_cons, hstep, hrest, push_push]
      rfl

/-- The characters between single quotes. -/
theorem foldl_step_single (text : PyStr) (hmode : lexer.mode = .single)
    (hword : lexer.word ≠ none) :
    (text.flatMap fun c => if c = 39 then quotedQuote else [c]).foldl Lexer.step lexer =
      lexer.push (text.map (.char true)) := by
  induction text generalizing lexer with
  | nil =>
      obtain ⟨word, hsome⟩ := Option.ne_none_iff_exists'.mp hword
      cases lexer
      simp_all [Lexer.push]
  | cons c text ih =>
      have hstep : (if c = 39 then quotedQuote else [c]).foldl Lexer.step lexer =
          lexer.push [.char true c] := by
        obtain ⟨tokens, word, mode⟩ := lexer
        cases hmode
        by_cases hquote : c = 39
        · rw [if_pos hquote, hquote]
          simp [quotedQuote, Lexer.step, Lexer.stepPlain, Lexer.stepDouble, Lexer.enter, Lexer.push]
        · rw [if_neg hquote]
          simp [Lexer.step, Lexer.push, hquote]
      have hrest : (text.flatMap fun c => if c = 39 then quotedQuote else [c]).foldl Lexer.step
          (lexer.push [.char true c]) = (lexer.push [.char true c]).push (text.map (.char true)) :=
        ih hmode (Option.some_ne_none _)
      rw [List.flatMap_cons, List.foldl_append, hstep, hrest, push_push]
      rfl

/-- A text that is quoted is read as itself, wherever it stands. -/
theorem foldl_step_quote (text : PyStr) (tokens : List Token) (word : Option Word) :
    (quote text).foldl Lexer.step ⟨tokens, word, .plain⟩ =
      ⟨tokens, some (word.getD [] ++ quotedParts text), .plain⟩ := by
  rw [quote]
  by_cases hempty : text = []
  · rw [if_pos hempty, hempty]
    simp [Lexer.step, Lexer.stepPlain, Lexer.enter, Lexer.push, quotedParts]
  rw [if_neg hempty]
  by_cases hsafe : text.all isSafe = true
  · rw [if_pos hsafe, quotedParts, hsafe]
    cases text with
    | nil => exact absurd rfl hempty
    | cons c text =>
        rw [List.all_cons, Bool.and_eq_true] at hsafe
        have hstep : Lexer.step ⟨tokens, word, .plain⟩ c =
            Lexer.push [.char false c] ⟨tokens, word, .plain⟩ :=
          stepPlain_of_isSafe hsafe.1
        rw [List.foldl_cons, hstep, foldl_step_safe hsafe.2 rfl (Option.some_ne_none _), push_push]
        rfl
  · rw [if_neg hsafe, quotedParts, Bool.eq_false_iff.mpr hsafe, List.cons_append, List.foldl_cons,
      List.foldl_append]
    have hopen : Lexer.step ⟨tokens, word, .plain⟩ 39 = ⟨tokens, some (word.getD []), .single⟩ := by
      simp [Lexer.step, Lexer.stepPlain, Lexer.enter, Lexer.push]
    rw [hopen, foldl_step_single text rfl (Option.some_ne_none _)]
    simp [Lexer.step, Lexer.enter, Lexer.push]

end Reading

end Shell

end ImmichDoctor.Library
