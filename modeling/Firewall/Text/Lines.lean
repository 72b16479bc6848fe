/-!
# Line ends

Text files end their lines with a line feed, a carriage return, or both; texts in this library end
them with a line feed alone.
-/

namespace Firewall.Text

/-- A text in which every line end is a line feed. -/
def unifyLineEnds : List Char → List Char
  | [] => []
  | '\r' :: '\n' :: rest => '\n' :: unifyLineEnds rest
  | '\r' :: rest => '\n' :: unifyLineEnds rest
  | c :: rest => c :: unifyLineEnds rest

end Firewall.Text
