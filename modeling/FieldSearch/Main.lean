import FieldSearch.CommandLine

/-!
# The program

Runs `FieldSearch.CommandLine.run` on the arguments, and writes what it says.
-/

/-- Writes the report of a query. -/
def main (args : List String) : IO UInt32 := do
  let outcome := FieldSearch.CommandLine.run args
  IO.print outcome.out
  IO.eprint outcome.err
  return outcome.code
