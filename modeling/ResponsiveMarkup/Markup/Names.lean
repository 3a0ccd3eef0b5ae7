import ResponsiveMarkup.Text.Basic

/-!
The attributes by which elements are found again: the node they were drawn from, the key they are matched by
across viewports, and their classes.
-/

namespace ResponsiveMarkup.Names

def nodeId : Text := "data-node-id".toList

def key : Text := "data-key".toList

def classes : Text := "class".toList

def slot : Text := "data-slot".toList

end ResponsiveMarkup.Names
