import CrdBindings.Text.Quoted

/-!
Lines of source text: a line is a comment, or pieces of code with texts between them that are
written as literals.
-/

namespace CrdBindings.Layout
set_option autoImplicit false

/-- A part of a line: code, or a text that is written as a literal. -/
inductive Piece where
  | code (text : String)
  | literal (text : String)
deriving DecidableEq, Repr

instance : Coe String Piece := ⟨.code⟩

def Piece.text : Piece → String
  | .code text => text
  | .literal text => Text.stringLiteral text

/-- A line of code, or a comment behind an indentation. -/
inductive Line where
  | code (pieces : List Piece)
  | comment (indent text : String)
deriving DecidableEq, Repr

namespace Line

def text : Line → String
  | code pieces => String.join (pieces.map Piece.text)
  | comment indent text => indent ++ "//" ++ text

/-- Lines as a text, each with a line feed at its end. -/
def textOf (lines : List Line) : String := String.join (lines.map fun line => line.text ++ "\n")

end Line
end CrdBindings.Layout
