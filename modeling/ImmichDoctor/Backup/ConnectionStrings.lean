import ImmichDoctor.Library.Digits
import ImmichDoctor.Library.PurePath
/-!
# Connection strings

`parse_backup_connection_string` and its helpers. Every error is a `ValueError`; one of them
is not raised by the parser itself but by `int`.
-/

namespace ImmichDoctor.Backup

open ImmichDoctor.Library

structure ParsedBackupConnectionString where
  username : PyStr
  host : PyStr
  port : Option Nat
  deriving DecidableEq

/-- The `ValueError` raised. -/
inductive ConnectionStringError
  | form
  | bracketedHost
  | hostForm
  | hostMissing
  | portNumeric
  | portRange
  /-- By `int`, for digits that are not decimal or too many of them. -/
  | conversion
  deriving DecidableEq

/-- The text of an error of the parser; `none` for that of `int`. -/
def ConnectionStringError.message : ConnectionStringError → Option PyStr
  | .form => some (py "Connection string must use the form username@host.")
  | .bracketedHost => some (py "Connection string contains an invalid bracketed host.")
  | .hostForm =>
      some (py "Connection string must use the form username@host or username@host:port.")
  | .hostMissing => some (py "Connection string host is missing.")
  | .portNumeric => some (py "Connection string port must be numeric.")
  | .portRange => some (py "Connection string port must be between 1 and 65535.")
  | .conversion => none

/-- `_parse_connection_port`. -/
def parseConnectionPort (candidatePort : PyStr) : Except ConnectionStringError Nat :=
  if !candidatePort.isdigit then .error .portNumeric
  else
    match candidatePort.int? with
    | none => .error .conversion
    | some port => if port < 1 ∨ port > 65535 then .error .portRange else .ok port

/-- `text.partition(separator)`: what is before the first separator, and what is after it. -/
def partition (separator : Nat) : PyStr → PyStr × Option PyStr
  | [] => ([], none)
  | c :: text =>
      if c = separator then ([], some text)
      else
        let (head, tail) := partition separator text
        (c :: head, tail)

/-- `_parse_connection_host_reference`. -/
def parseConnectionHostReference (hostReference : PyStr) :
    Except ConnectionStringError (PyStr × Option Nat) :=
  match hostReference with
  | 91 :: bracketed =>
      match partition 93 bracketed with
      | ([], _) | (_, none) => .error .bracketedHost
      | (host, some []) => .ok (host, none)
      | (host, some (58 :: candidatePort)) => do
          let port ← parseConnectionPort candidatePort
          return (host, some port)
      | (_, some _) => .error .hostForm
  | _ =>
      let whole : Except ConnectionStringError (PyStr × Option Nat) :=
        if hostReference = [] then .error .hostMissing else .ok (hostReference, none)
      if hostReference.count 58 = 1 then
        match partition 58 hostReference with
        | (host, some candidatePort) =>
            if candidatePort.isdigit then
              if host = [] then .error .hostMissing
              else do
                let port ← parseConnectionPort candidatePort
                return (host, some port)
            else whole
        | _ => whole
      else whole

/-- `parse_backup_connection_string`. -/
def parseBackupConnectionString (connectionString : PyStr) :
    Except ConnectionStringError ParsedBackupConnectionString :=
  match partition 64 connectionString.strip with
  | ([], _) | (_, none) | (_, some []) => .error .form
  | (username, some hostReference) => do
      let (host, port) ← parseConnectionHostReference hostReference
      return { username, host, port }

example : parseBackupConnectionString (py " nas@[fe80::1]:22 ") =
    .ok ⟨py "nas", py "fe80::1", some 22⟩ := by
  decide

end ImmichDoctor.Backup
