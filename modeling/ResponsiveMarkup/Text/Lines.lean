import ResponsiveMarkup.Text.Basic

/-!
Lines of a text. A line feed ends a line, and a carriage return right before it belongs to the ending;
a text that ends with a line feed has no empty line after it.
-/

namespace ResponsiveMarkup.Text

def lines : Text → List Text
  | [] => []
  | '\r' :: '\n' :: s => [] :: lines s
  | c :: s =>
    if c = '\n' then [] :: lines s
    else
      match lines s with
      | [] => [[c]]
      | l :: ls => (c :: l) :: ls

end ResponsiveMarkup.Text
