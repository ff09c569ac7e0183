/-!
# Accounts

The system lists its accounts one to a line, seven fields separated by colons, of which the third is
the number of the user and the sixth the home directory. The status of a process tells the number of
its user in the line that starts with `Uid:`.
-/

namespace PolishCalc.Account

/-- The number of the user in the status of a process. -/
def userId? (status : String) : Option String := do
  let line ← (status.splitOn "\n").find? fun line => line.startsWith "Uid:"
  (line.splitOn "\t")[1]?

/-- The home directory of a user in a list of accounts. -/
def home? (accounts userId : String) : Option String :=
  (accounts.splitOn "\n").findSome? fun line => do
    let fields := line.splitOn ":"
    if (← fields[2]?) = userId then fields[5]? else none

end PolishCalc.Account
