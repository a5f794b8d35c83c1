namespace SheetTemplate.Text

def contains (part : List Char) : List Char → Bool
  | [] => part.isEmpty
  | c :: s => part.isPrefixOf (c :: s) || contains part s

end SheetTemplate.Text
