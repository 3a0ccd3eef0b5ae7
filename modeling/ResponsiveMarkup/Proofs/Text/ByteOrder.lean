import ResponsiveMarkup.Text.Utf8

/-!
Texts in the order of their UTF-8 bytes. The encoding keeps the order of the characters, so comparing texts character by
character is comparing what is written of them byte by byte.
-/

namespace ResponsiveMarkup.Text

end ResponsiveMarkup.Text
