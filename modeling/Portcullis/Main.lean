import Portcullis.Boundary.Document
import Portcullis.Boundary.Guard
import Portcullis.Boundary.Options
import Portcullis.Policy.Load

/-! The command line: puts a configuration and its policy to use, and says what is in force. -/
open Portcullis Portcullis.Boundary Portcullis.Policy

def contents? (path : String) : IO (Option Bytes) := do
  try
    return some (← IO.FS.readBinFile path).toList
  catch
    | .noFileOrDirectory .. => return none
    | e => throw e

def readEnvironment : IO (List (String × String)) := do
  let found ← Options.environment.mapM fun (key, name) => do
    return (← IO.getEnv key).map (name, ·)
  return found.filterMap id

def failWith (message : String) : IO UInt32 := do
  IO.eprintln ("error: " ++ message)
  return 1

def start (options : Options) : IO UInt32 := do
  let file ← contents? (options.configPath.getD Options.defaultConfigPath)
  match Config.load file options.overrides with
  | .error d => failWith d.message
  | .ok (config, address) =>
    match Engine.ofFile (← contents? config.policyPath) config.loadMode with
    | .error d => failWith d.message
    | .ok engine =>
      IO.println ("backend: " ++ config.backendUrl)
      IO.println ("policy: " ++ config.policyPath ++ ", " ++ toString engine.ruleCount ++ " rules, mode "
        ++ engine.enforcer.mode.label)
      if options.verbose then
        for rule in engine.inbound.rules ++ engine.outbound.rules do
          IO.println ("rule: " ++ rule.id ++ " (" ++ rule.kind ++ ", " ++ rule.phase.label ++ ")")
      IO.println ("address: " ++ address.toText)
      return 0

def main (words : List String) : IO UInt32 := do
  match (Options.ofVariables {} (← readEnvironment)).bind (·.ofWords words) with
  | .error d => do
    IO.eprintln ("error: " ++ d.message)
    return 2
  | .ok options => start options
