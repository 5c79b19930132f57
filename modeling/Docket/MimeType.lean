import Docket.Text.Ascii

/-!
# Kinds of files

The MIME type of a file is guessed from what stands behind the last dot of
its name, in any case.
-/

namespace Docket

/-- What stands behind the last dot of a name. -/
def extension? (fileName : String) : Option String :=
  let cs := fileName.toList.reverse
  if cs.contains '.' then some (String.ofList (cs.takeWhile (· ≠ '.')).reverse) else none

/-- The MIME type of a file with this name. -/
def mimeTypeOf (fileName : String) : String :=
  match (extension? fileName).map Text.asciiLower with
  | some "pdf" => "application/pdf"
  | some "png" => "image/png"
  | some "jpg" | some "jpeg" => "image/jpeg"
  | some "gif" => "image/gif"
  | some "txt" => "text/plain"
  | some "doc" => "application/msword"
  | some "docx" => "application/vnd.openxmlformats-officedocument.wordprocessingml.document"
  | _ => "application/octet-stream"

end Docket
