/-!
# Quoted text

A text between quotes holds each of its own quotes twice. Reading starts at an
opening quote, takes two adjacent quotes as one quote of the text, and ends at
the first quote that stands alone.
-/

namespace QueryLowering
namespace Text
namespace Quoted

/-- The quotation mark of SQL text, an apostrophe. -/
def mark : Char := '\x27'

/-- The same text with each quote doubled. -/
def double : List Char → List Char
  | [] => []
  | character :: rest =>
      if character = mark then mark :: mark :: double rest
      else character :: double rest

@[simp] theorem double_nil : double [] = [] := rfl

@[simp] theorem double_cons (character : Char) (rest : List Char) :
    double (character :: rest) =
      if character = mark then mark :: mark :: double rest
      else character :: double rest := rfl

/-- A text between quotes. -/
def write (text : List Char) : List Char :=
  mark :: (double text ++ [mark])

/-- Read up to the closing quote: the text, and what follows the quote. -/
def readBody? : List Char → Option (List Char × List Char)
  | [] => none
  | [character] => if character = mark then some ([], []) else none
  | first :: second :: rest =>
      if first = mark then
        if second = mark then
          (readBody? rest).map fun (text, after) => (mark :: text, after)
        else
          some ([], second :: rest)
      else
        (readBody? (second :: rest)).map
          fun (text, after) => (first :: text, after)

/-- Read one quoted text: the text, and what follows its closing quote. -/
def read? : List Char → Option (List Char × List Char)
  | [] => none
  | first :: rest => if first = mark then readBody? rest else none

end Quoted
end Text
end QueryLowering
