import CrdBindings.Disk
import CrdBindings.Failure

/-!
What a run shows: the lines that it prints, its warnings, the trouble that ends it, and the disk
behind it.
-/

namespace CrdBindings
set_option autoImplicit false

/-- What ends a run before its task is done, with the failure behind it if there is one. -/
structure Trouble where
  text : String
  cause : Option Failure
deriving DecidableEq, Repr

namespace Trouble

/-- The text shown for a trouble; further lines of the cause are indented. -/
def message (t : Trouble) : String :=
  match t.cause with
  | none => s!"Error: {t.text}"
  | some failure =>
    let lines := (Text.splitAtChar '\n' failure.message.toList).map String.ofList
    s!"Error: {t.text}\n\nCaused by:\n    " ++ Text.joinWith "\n    " lines

end Trouble

structure Report where
  printed : List String
  warnings : List String
  trouble : Option Trouble
  disk : Disk

namespace Report

def exitCode (r : Report) : Nat := if r.trouble.isSome then 1 else 0

def textOf (lines : List String) : String := String.join (lines.map (· ++ "\n"))

def output (r : Report) : String := textOf r.printed

/-- The warnings, and behind them the trouble. -/
def errors (r : Report) : String := textOf (r.warnings ++ (r.trouble.map Trouble.message).toList)

end Report
end CrdBindings
