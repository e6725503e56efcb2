import Rendezvous.Console.Style
import Rendezvous.RunResult

/-!
The summary that is printed after a run.
-/

set_option autoImplicit false

namespace Rendezvous

namespace Summary

/-- The last lines of the output of a role that failed. -/
def tail (colored : Bool) (failure : Failure) : List String :=
  match failure.role with
  | none => []
  | some role =>
      if failure.tail = [] then []
      else s!"  Last {failure.tail.length} line(s) of {role} output:" ::
        failure.tail.map fun line => "    " ++ Style.dim.apply colored line

def failure (colored : Bool) (failure : Failure) : List String :=
  (Style.red.apply colored "✗" ++ " " ++ failure.reason) :: tail colored failure

def teardownFailure (colored : Bool) (failure : TeardownFailure) : String :=
  let pid := match failure.pid with
    | some pid => toString pid
    | none => "?"
  Style.boldYellow.apply colored "!" ++ s!" {failure.role} (pid {pid}) {failure.reason}"

def padded (width : Nat) (text : String) : String :=
  text ++ String.ofList (List.replicate (width - text.length) ' ')

def role (colored : Bool) (report : RoleReport) : String :=
  "  " ++ padded 14 report.role.name ++ " " ++ Style.dim.apply colored report.exit.display

def verdict (colored : Bool) (result : RunResult) : String :=
  let (style, mark, word) :=
    if result.passed then (Style.boldGreen, "✓", "PASS") else (Style.boldRed, "✗", "FAIL")
  style.apply colored mark ++ " " ++ style.apply colored word ++
    s!" (exit code {result.exitCode}, {result.elapsedSeconds.toFixed 2}s)"

def lines (colored : Bool) (result : RunResult) : List String :=
  [""] ++ result.failures.flatMap (failure colored) ++
    result.teardownFailures.map (teardownFailure colored) ++
    (if result.errorTextTolerated then
      [Style.yellow.apply colored "note:" ++ " error text observed in output, tolerated"]
    else []) ++
    result.roles.map (role colored) ++ [verdict colored result]

def text (colored : Bool) (result : RunResult) : String :=
  String.join ((lines colored result).map (· ++ "\n"))

end Summary

end Rendezvous
