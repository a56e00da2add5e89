import HitCounter.Admin.Basic
import HitCounter.Text.Basic

/-!
# The administration at the command line

With arguments, one command runs on an empty database. Without, each line of standard input is a
command on one database, its words between white space.
-/

namespace HitCounter.Admin

/-- Shows what a command leaves. -/
def Exit.print (e : Exit) : IO Unit := do
  (← IO.getStdout).putStr e.stdout
  (← IO.getStderr).putStr e.stderr

/-- Runs commands until the input ends and returns the code of the last one. -/
partial def session (input : IO.FS.Stream) (code : Nat) (db : Database) : IO Nat := do
  let line ← input.getLine
  if line.isEmpty then return code
  let words := (Text.split Text.isBlank line.toList).filter (!·.isEmpty)
  let (e, db) := exec (words.map String.ofList) db
  e.print
  session input e.code db

end HitCounter.Admin

open HitCounter in
def main (args : List String) : IO UInt32 := do
  if args.isEmpty then
    return UInt32.ofNat (← Admin.session (← IO.getStdin) 0 {})
  let (e, _) := Admin.exec args {}
  e.print
  return UInt32.ofNat e.code
