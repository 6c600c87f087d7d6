/-!
# Ends of lines

A line ends with a line feed, with a carriage return, or with both. A reader of lines makes a line feed
of each.
-/

namespace LogRelay.Text

/-- The characters with a line feed for every end of a line that a carriage return is part of. -/
def lineFeeds : List Char → List Char
  | [] => []
  | '\r' :: '\n' :: chars => '\n' :: lineFeeds chars
  | '\r' :: chars => '\n' :: lineFeeds chars
  | char :: chars => char :: lineFeeds chars

/-- The text with one kind of end of a line. -/
def unifyLines (text : String) : String :=
  String.ofList (lineFeeds text.toList)

end LogRelay.Text
