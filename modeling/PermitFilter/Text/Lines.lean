/-!
# Lines of a text

A line ends at a line feed, at a carriage return, or at a carriage return with
a line feed behind it, which counts as one terminator. What follows the last
terminator is a line of its own unless it is empty.

The lines are found in three passes. First each carriage return with a line feed
behind it gives way to the line feed alone; then the text is cut at every character
that ends a line; and then the last piece is dropped if it is empty.
-/

set_option autoImplicit false

namespace PermitFilter.Text

/-- Whether a character ends a line. -/
def isTerminator (c : Char) : Bool :=
  c == '\n' || c == '\r'

/-- The text with a line feed in place of every carriage return and line feed. What is
put in is not looked at again, so another carriage return in front of it stays. -/
def joinFeeds : List Char → List Char
  | [] => []
  | '\r' :: '\n' :: rest => '\n' :: joinFeeds rest
  | c :: rest => c :: joinFeeds rest

/-- The pieces without the last one, if that is empty. -/
def dropEmptyLast (pieces : List (List Char)) : List (List Char) :=
  if pieces.getLast? = some [] then pieces.dropLast else pieces

/-- The lines of a text, in order and without their terminators. -/
def lines (text : String) : List String :=
  (dropEmptyLast ((joinFeeds text.toList).splitOnP isTerminator)).map String.ofList

/-- A line without the run of terminators behind it. -/
def stripTerminators (line : String) : String :=
  String.ofList (line.toList.reverse.dropWhile isTerminator).reverse

end PermitFilter.Text
