import CrdBindings.Text.Digits

/-!
What a run of the program is to do.
-/

namespace CrdBindings
set_option autoImplicit false

/-- How documents are fetched: the seconds that one may take, and whether they are kept. -/
structure Fetching where
  timeout : Nat
  keeps : Bool
deriving DecidableEq, Repr

inductive Task where
  /-- Show the address of a reference. -/
  | resolve (reference : String)
  /-- Import a source and show its modules. -/
  | inspect (source : String) (fetching : Fetching)
  /-- Import sources and write their modules into a directory. -/
  | generate (sources : List String) (directory : String) (fetching : Fetching)
deriving DecidableEq, Repr

structure Invocation where
  verbose : Bool
  /-- The file of the catalog. -/
  releases : Option String
  task : Task
deriving DecidableEq, Repr

inductive Usage where
  | run (invocation : Invocation)
  | help
  | version
  /-- The arguments do not fit together. -/
  | wrong
deriving DecidableEq, Repr

def Usage.text : String :=
  "Usage: crdgen [-v] resolve <REFERENCE> [--releases <FILE>]\n" ++
  "       crdgen [-v] inspect <SOURCE> [--releases <FILE>] [--timeout <SECONDS>] [--no-cache]\n" ++
  "       crdgen [-v] import <SOURCES>... [-o <DIRECTORY>] [--releases <FILE>]\n" ++
  "                          [--timeout <SECONDS>] [--no-cache]\n"

def Usage.versionText : String := "crdgen 0.1.0\n"

end CrdBindings
