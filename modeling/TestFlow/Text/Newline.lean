/-! # Line ends

Text files may end their lines in a line feed, a carriage return or both; read as text, each of the
three is one line feed.
-/

namespace TestFlow.Text

/-- Every line end as a line feed. -/
def unifyNewlines : List Char → List Char
  | [] => []
  | '\r' :: '\n' :: rest => '\n' :: unifyNewlines rest
  | '\r' :: rest => '\n' :: unifyNewlines rest
  | c :: rest => c :: unifyNewlines rest

end TestFlow.Text
