import Formwork.Template.Report
/-!
The command line: reports on one template, and ends with 0 if the template can be used.
-/
namespace Formwork

def usage : String := "Usage: formwork TEMPLATE

Reports on the template in a file. The exit code is 0 if the template can be used, with warnings or
without, and 1 otherwise."

/-- The report on the template in a file. -/
def reportOn (path : String) : IO (Except Failure Report) := do
  try
    return Report.ofText {} path (← IO.FS.readFile path)
  catch _ =>
    return .ok (Report.ofMissing path)

end Formwork

def main (args : List String) : IO UInt32 := do
  match args with
  | [path] =>
    match ← Formwork.reportOn path with
    | .ok report =>
      IO.print report.text
      return if report.succeeds then 0 else 1
    | .error failure =>
      IO.eprintln failure.message
      return 1
  | _ =>
    IO.println Formwork.usage
    return 2
