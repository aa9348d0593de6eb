import DynamicDns.Definition.Files
import DynamicDns.Startup.Basic

/-!
# The command line

Without arguments the operator starts; `crdgen` writes the definition files.
-/

open DynamicDns

/-- Makes the directory of the definition files, if it can be made. -/
def makeDirectory : IO Bool := do
  try
    IO.FS.createDirAll Definition.directory
    return true
  catch error =>
    IO.eprintln ("Error: " ++ toString error)
    return false

def writeDefinitions : IO UInt32 := do
  let report := Definition.report (← makeDirectory)
  for (name, text) in report.files do
    IO.FS.writeFile (Definition.directory ++ "/" ++ name) text
  for line in report.printed do
    IO.println line
  return report.exitCode

def startOperator : IO UInt32 := do
  let filter ← IO.getEnv Startup.filterVariable
  let format ← IO.getEnv Startup.formatVariable
  let environment : Startup.Environment := ⟨filter, format⟩
  for event in Startup.log environment do
    IO.println (event.line environment.logFormat)
  IO.eprintln ("Error: " ++ Startup.failure)
  return 1

def main (arguments : List String) : IO UInt32 :=
  match arguments with
  | ["crdgen"] => writeDefinitions
  | _ => startOperator
