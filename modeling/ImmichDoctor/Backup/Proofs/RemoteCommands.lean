import ImmichDoctor.Backup.RemoteTransport
/-!
# What a remote shell executes

A path is one argument of a command on the remote host, whatever characters are in it.
-/

namespace ImmichDoctor.Backup

open ImmichDoctor.Library

/-- The file that the write probe creates and removes. -/
def probeFile (remotePath : PyStr) : PyStr :=
  remotePath ++ py "/.immich-doctor-write-probe"

/-- What a word without quotes is read as. -/
def literal (text : String) : Shell.Word :=
  (py text).map (.char false)

/-! ## Words -/

theorem lex_verifyCommand (path : PyStr) : Shell.lex (verifyCommand path) =
    some [.word (literal "test"), .word (literal "-d"), .word (Shell.quotedParts path)] := by
  have hstart : (py "test -d ").foldl Shell.Lexer.step .start =
      ⟨[.word (literal "test"), .word (literal "-d")], none, .plain⟩ := by
    decide
  have hread : (verifyCommand path).foldl Shell.Lexer.step .start =
      ⟨[.word (literal "test"), .word (literal "-d")], some (Shell.quotedParts path), .plain⟩ := by
    rw [verifyCommand, List.foldl_append, hstart, Shell.foldl_step_quote]
    rfl
  exact Shell.lex_of_foldl hread

theorem lex_freeSpaceCommand (path : PyStr) : Shell.lex (freeSpaceCommand path) =
    some [.word (literal "df"), .word (literal "-Pk"), .word (Shell.quotedParts path), .pipe,
      .word (literal "tail"), .word (literal "-1")] := by
  have hstart : (py "df -Pk ").foldl Shell.Lexer.step .start =
      ⟨[.word (literal "df"), .word (literal "-Pk")], none, .plain⟩ := by
    decide
  have hend : (py "| tail -1").foldl Shell.Lexer.step .start =
      ⟨[.pipe, .word (literal "tail")], some (literal "-1"), .plain⟩ := by
    decide
  have hread : (freeSpaceCommand path).foldl Shell.Lexer.step .start =
      ⟨[.word (literal "df"), .word (literal "-Pk"), .word (Shell.quotedParts path), .pipe,
        .word (literal "tail")], some (literal "-1"), .plain⟩ := by
    rw [freeSpaceCommand, List.foldl_append, List.foldl_append, hstart,
      Shell.foldl_step_quote]
    exact Shell.foldl_step_blank hend
  exact Shell.lex_of_foldl hread

theorem lex_writeProbeCommand (path : PyStr) : Shell.lex (writeProbeCommand path) =
    some [.word (literal "mkdir"), .word (literal "-p"), .word (Shell.quotedParts path), .andIf,
      .word (literal "probe=" ++ Shell.quotedParts path ++ literal "/.immich-doctor-write-probe"),
      .andIf, .word (literal "touch"), .word [.param (py "probe")], .andIf, .word (literal "rm"),
      .word (literal "-f"), .word [.param (py "probe")]] := by
  have hstart : (py "mkdir -p ").foldl Shell.Lexer.step .start =
      ⟨[.word (literal "mkdir"), .word (literal "-p")], none, .plain⟩ := by
    decide
  have hassignment : (py "&& probe=").foldl Shell.Lexer.step .start =
      ⟨[.andIf], some (literal "probe="), .plain⟩ := by
    decide
  have hend : (py "&& touch \"$probe\" && rm -f \"$probe\"").foldl Shell.Lexer.step .start =
      ⟨[.andIf, .word (literal "touch"), .word [.param (py "probe")], .andIf, .word (literal "rm"),
        .word (literal "-f")], some [.param (py "probe")], .plain⟩ := by
    decide
  have hname : ∀ tokens word, (py "/.immich-doctor-write-probe").foldl Shell.Lexer.step
      ⟨tokens, some word, .plain⟩ =
        ⟨tokens, some (word ++ literal "/.immich-doctor-write-probe"), .plain⟩ :=
    fun _ _ => Shell.foldl_step_safe (by decide) rfl (Option.some_ne_none _)
  have htext : py "/.immich-doctor-write-probe && touch \"$probe\" && rm -f \"$probe\"" =
      py "/.immich-doctor-write-probe" ++ 32 :: py "&& touch \"$probe\" && rm -f \"$probe\"" := by
    decide
  have hread : (writeProbeCommand path).foldl Shell.Lexer.step .start =
      ⟨[.word (literal "mkdir"), .word (literal "-p"), .word (Shell.quotedParts path), .andIf,
        .word (literal "probe=" ++ Shell.quotedParts path ++
          literal "/.immich-doctor-write-probe"),
        .andIf, .word (literal "touch"), .word [.param (py "probe")], .andIf,
        .word (literal "rm"), .word (literal "-f")], some [.param (py "probe")], .plain⟩ := by
    rw [writeProbeCommand, htext, show py " && probe=" = 32 :: py "&& probe=" by decide]
    simp only [List.foldl_append]
    rw [hstart, Shell.foldl_step_quote, Shell.foldl_step_blank hassignment, Shell.Lexer.after,
      Shell.foldl_step_quote, hname, Shell.foldl_step_blank hend]
    rfl
  exact Shell.lex_of_foldl hread

/-! ## Runs -/

section Runs

variable {σ : Type} (execute : Shell.Execution σ) (parameters : Shell.Parameters) (world : σ)

@[simp] theorem expand_literal (text : String) :
    Shell.expand parameters (literal text) = py text := by
  unfold literal Shell.expand
  rw [List.flatMap_map]
  exact List.flatMap_singleton' (py text)

theorem run_writeProbeCommand (path : PyStr) :
    Shell.run execute parameters (writeProbeCommand path) world =
      some (Shell.inTurn execute [[[py "mkdir", py "-p", path]], [[py "touch", probeFile path]],
        [[py "rm", py "-f", probeFile path]]] world) := by
  have hcommands : (Shell.pipelines [.word (literal "mkdir"), .word (literal "-p"),
      .word (Shell.quotedParts path), .andIf, .word (literal "probe=" ++ Shell.quotedParts path ++
        literal "/.immich-doctor-write-probe"), .andIf, .word (literal "touch"),
      .word [.param (py "probe")], .andIf, .word (literal "rm"), .word (literal "-f"),
      .word [.param (py "probe")]]).map (·.map Shell.simpleCommand) =
      [[⟨[], [literal "mkdir", literal "-p", Shell.quotedParts path]⟩],
        [⟨[(py "probe", Shell.quotedParts path ++ literal "/.immich-doctor-write-probe")], []⟩],
        [⟨[], [literal "touch", [.param (py "probe")]]⟩],
        [⟨[], [literal "rm", literal "-f", [.param (py "probe")]]⟩]] :=
    rfl
  have hprobe : Shell.assign parameters
      [(py "probe", Shell.quotedParts path ++ literal "/.immich-doctor-write-probe")] (py "probe") =
        probeFile path := by
    simp [Shell.assign, Shell.expand_append, Shell.expand_quotedParts, probeFile]
  have hparam : ∀ values : Shell.Parameters, Shell.expand values [.param (py "probe")] =
      values (py "probe") :=
    fun values => List.append_nil _
  rw [Shell.run, lex_writeProbeCommand]
  simp only [Option.bind_eq_bind, Option.bind_some, hcommands]
  rw [Shell.runPipelines_cons (by simp [Shell.PlainCommands])]
  simp only [Shell.argvs, List.map_cons, List.map_nil, expand_literal, Shell.expand_quotedParts]
  rw [Shell.inTurn]
  rcases execute [[py "mkdir", py "-p", path]] world with ⟨_ | _, world⟩
  · rfl
  simp only
  rw [Shell.runPipelines, Shell.runPipelines_eq_inTurn (by simp [Shell.PlainCommands])]
  simp only [Shell.argvs, List.map_cons, List.map_nil, expand_literal, hparam, hprobe]

theorem run_freeSpaceCommand (path : PyStr) :
    Shell.run execute parameters (freeSpaceCommand path) world =
      some (Shell.inTurn execute [[[py "df", py "-Pk", path], [py "tail", py "-1"]]] world) := by
  have hcommands : (Shell.pipelines [.word (literal "df"), .word (literal "-Pk"),
      .word (Shell.quotedParts path), .pipe, .word (literal "tail"), .word (literal "-1")]).map
        (·.map Shell.simpleCommand) =
      [[⟨[], [literal "df", literal "-Pk", Shell.quotedParts path]⟩,
        ⟨[], [literal "tail", literal "-1"]⟩]] :=
    rfl
  rw [Shell.run, lex_freeSpaceCommand]
  simp only [Option.bind_eq_bind, Option.bind_some, hcommands]
  rw [Shell.runPipelines_eq_inTurn (by simp [Shell.PlainCommands])]
  simp only [Shell.argvs, List.map_cons, List.map_nil, expand_literal, Shell.expand_quotedParts]

theorem run_verifyCommand (path : PyStr) :
    Shell.run execute parameters (verifyCommand path) world =
      some (Shell.inTurn execute [[[py "test", py "-d", path]]] world) := by
  have hcommands : (Shell.pipelines [.word (literal "test"), .word (literal "-d"),
      .word (Shell.quotedParts path)]).map (·.map Shell.simpleCommand) =
      [[⟨[], [literal "test", literal "-d", Shell.quotedParts path]⟩]] :=
    rfl
  rw [Shell.run, lex_verifyCommand]
  simp only [Option.bind_eq_bind, Option.bind_some, hcommands]
  rw [Shell.runPipelines_eq_inTurn (by simp [Shell.PlainCommands])]
  simp only [Shell.argvs, List.map_cons, List.map_nil, expand_literal, Shell.expand_quotedParts]

/-- Whatever characters a path has, a remote shell executes the commands that were meant, each with
the path as one argument: the probe makes the directory, then creates the probe file in it, then
removes that file and no other. -/
theorem remote_commands_take_the_path :
    (∀ path, Shell.run execute parameters (writeProbeCommand path) world =
      some (Shell.inTurn execute [[[py "mkdir", py "-p", path]], [[py "touch", probeFile path]],
        [[py "rm", py "-f", probeFile path]]] world)) ∧
    (∀ path, Shell.run execute parameters (freeSpaceCommand path) world =
      some (Shell.inTurn execute [[[py "df", py "-Pk", path], [py "tail", py "-1"]]] world)) ∧
    ∀ remotePath versionId,
      Shell.run execute parameters (verifyCommand (versionDestination remotePath versionId)) world =
        some (Shell.inTurn execute
          [[[py "test", py "-d", versionDestination remotePath versionId]]] world) :=
  ⟨run_writeProbeCommand execute parameters world, run_freeSpaceCommand execute parameters world,
    fun _ _ => run_verifyCommand execute parameters world _⟩

end Runs

end ImmichDoctor.Backup
