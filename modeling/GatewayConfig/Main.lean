import GatewayConfig.Command.Run

/-! # The command

Reads the arguments, the environment and the disk, runs the command, and prints its outcome.
-/

namespace GatewayConfig

/-- The error of the domain for an error of the operating system. -/
private def fileErrorOf : IO.Error → FileError
  | .noFileOrDirectory .. => .notFound
  | .inappropriateType _ code _ => if code = 21 then .isDirectory else .notDirectory
  | .permissionDenied .. => .other "Permission denied (os error 13)".toList
  | e => .other e.toString.toList

private def diskStorage : Storage IO where
  read path := do
    try
      let bytes ← IO.FS.readBinFile (String.ofList path)
      return .ok ((String.fromUTF8? bytes).map String.toList)
    catch e => return .error (fileErrorOf e)
  write path t := do
    try
      IO.FS.writeFile (String.ofList path) (String.ofList t)
      return .ok ()
    catch e => return .error (fileErrorOf e)

private def usage : String :=
  "Usage: rnsconf [OPTIONS] <check|fmt|types|fields>\n\n" ++
  "  check FILE [--deny-warnings]\n" ++
  "  fmt FILE [--stdout | --check]\n" ++
  "  types\n" ++
  "  fields TYPE [--all]\n\n" ++
  "Options: --settings PATH, --capabilities PATH, --output text|json, --verbose, --help\n"

end GatewayConfig

open GatewayConfig in
def main (args : List String) : IO UInt32 := do
  let env : Environment := {
    capabilities := (← IO.getEnv "RNSCONF_CAPABILITIES").map String.toList
    output := (← IO.getEnv "RNSCONF_OUTPUT").map String.toList }
  let conclusion ← Command.call diskStorage env (args.map String.toList)
  match conclusion with
  | .refused .help => IO.print usage
  | .refused .usage => IO.eprint usage
  | .ran outcome =>
    for line in outcome.log do
      IO.eprintln (String.ofList line.text)
    IO.print (String.ofList outcome.stdout)
    if let some e := outcome.error then
      IO.eprintln ("Error: " ++ String.ofList e.message)
  return conclusion.status.toUInt32
