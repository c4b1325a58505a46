import PermitFilter.Program.Standard

/-!
# The command

Runs the program on the files of the computer and prints what it has to say. What is read,
written and printed is laid down in `PermitFilter.Program`; here are only the operations
on files.
-/

set_option autoImplicit false

namespace PermitFilter

/-- The number of an error without its sign: some operations report it negated. -/
def errorNumber (code : UInt32) : UInt32 :=
  min code (0 - code)

/-- The fault that an error of the operating system amounts to. -/
def Fault.ofError (error : IO.Error) : Fault :=
  match error with
  | .noFileOrDirectory .. => .notFound
  | .inappropriateType _ code _ => if errorNumber code = 21 then .isADirectory else .notADirectory
  | .invalidArgument _ code _ =>
    if errorNumber code = 36 then .tooLong else .refused error.toString
  | .resourceBusy .. => .busy
  | _ => .refused error.toString

/-- What an operation of the operating system comes to. -/
def attempted {α : Type} (operation : IO α) : IO (Except Fault α) := do
  try
    return .ok (← operation)
  catch error =>
    return .error (.ofError error)

/-- The files of the computer. A fresh file is known by its path and the stream that is
open to it. -/
def diskFiles : Files IO (String × IO.FS.Handle) where
  read path := do
    if !Path.isExpressible path then return .error .invalidPath
    attempted (IO.FS.readBinFile path)
  create path := do
    let fresh := path ++ "/.new" ++ toString (← IO.monoNanosNow)
    if !Path.isExpressible path then return .error (.atPath fresh .invalidPath)
    match ← attempted (IO.FS.Handle.mk fresh .writeNew) with
    | .error fault => return .error (.atPath fresh fault)
    | .ok handle => return .ok (fresh, handle)
  write fresh content := do
    match ← attempted (do fresh.2.write content; fresh.2.flush) with
    | .error fault => return .error (.atPath fresh.1 fault)
    | .ok () => return .ok ()
  move fresh path := do
    if !Path.isExpressible path then return .error .invalidPath
    attempted (IO.FS.rename fresh.1 path)
  remove fresh := do
    let _ ← attempted (IO.FS.removeFile fresh.1)

/-- The variables of the environment that stand in for options. -/
def readEnvironment : IO Environment := do
  return {
    logLevel := ← IO.getEnv Environment.logLevelName
    logFormat := ← IO.getEnv Environment.logFormatName
    collectErrors := ← IO.getEnv Environment.collectErrorsName }

/-- Prints a notice where it belongs. -/
def printNotice (notice : Program.Notice) : IO Unit :=
  match notice.stream with
  | .output => IO.println (notice.text .standard)
  | .side => IO.eprintln (notice.text .standard)

/-- Runs the program and prints what it has to say. -/
def runAndPrint (arguments : List String) : IO UInt32 := do
  let report ← Program.runIn .standard diskFiles arguments (← readEnvironment)
  report.notices.forM printNotice
  return report.exitStatus.toUInt32

end PermitFilter

/-- The entry point. -/
def main (arguments : List String) : IO UInt32 :=
  PermitFilter.runAndPrint arguments
