/-!
# ASCII letters

Upper and lower case that touches the letters `a` to `z` alone, and two small
questions about text that keys and codes are asked.
-/

namespace Docket.Text

/-- Lower-case ASCII letters become upper-case; all else stays. -/
def asciiUpper (s : String) : String :=
  String.ofList (s.toList.map Char.toUpper)

/-- Upper-case ASCII letters become lower-case; all else stays. -/
def asciiLower (s : String) : String :=
  String.ofList (s.toList.map Char.toLower)

/-- The text begins with `head`. -/
def startsWith (s head : String) : Bool :=
  head.toList.isPrefixOf s.toList

/-- `part` stands somewhere among the characters. -/
def occursIn (part : List Char) : List Char → Bool
  | [] => part.isEmpty
  | c :: rest => part.isPrefixOf (c :: rest) || occursIn part rest

/-- `part` stands somewhere in the text. -/
def mentions (s part : String) : Bool :=
  occursIn part.toList s.toList

end Docket.Text
