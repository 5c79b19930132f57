import Docket.Text.Utf8

/-!
# The keyboard

What is typed comes in chunks of bytes, each after some time. A line is there
when its end has been typed, and what stands behind the last line end is a
line too when the input ends. A carriage return before a line end belongs to
it. A line that is no text makes reading fail, and nothing is read after
that.
-/

namespace Docket

/-- Bytes that are typed together. -/
structure Chunk where
  /-- Since the keyboard was opened, in nanoseconds. -/
  time : Nat
  bytes : List UInt8

/-- What reading a line brings. -/
inductive Reading where
  | line (text : String)
  /-- The line is no text. -/
  | garbled
  | ended

/-- A reading, and when it is there. -/
structure Typed where
  time : Nat
  reading : Reading

namespace Keyboard

/-- The byte that ends a line. -/
def lineEnd : UInt8 := 10

/-- The byte of a carriage return. -/
def carriageReturn : UInt8 := 13

/-- Bytes, given backwards, without a carriage return at their end. -/
def withoutReturn : List UInt8 → List UInt8
  | b :: rest => if b = carriageReturn then rest else b :: rest
  | [] => []

/-- Every byte with the time at which it is there. -/
def stream (now : Nat) : List Chunk → List (Nat × UInt8)
  | [] => []
  | chunk :: rest =>
      let time := max now chunk.time
      (chunk.bytes.map fun b => (time, b)) ++ stream time rest

/-- The time at which the input ends. -/
def endTime (chunks : List Chunk) : Nat :=
  chunks.foldl (fun now chunk => max now chunk.time) 0

/-- The reading of a line with these bytes. -/
def readingOf (bytes : List UInt8) : Reading :=
  match Text.ofBytes? bytes with
  | some text => .line text
  | none => .garbled

/-- The readings of a stream; `line` holds the bytes of the present line,
backwards. -/
def readingsFrom (finish : Nat) (line : List UInt8) : List (Nat × UInt8) → List Typed
  | [] =>
      if line.isEmpty then [⟨finish, .ended⟩]
      else
        match readingOf line.reverse with
        | .line text => [⟨finish, .line text⟩, ⟨finish, .ended⟩]
        | other => [⟨finish, other⟩]
  | (time, b) :: rest =>
      if b = lineEnd then
        match readingOf (withoutReturn line).reverse with
        | .line text => ⟨time, .line text⟩ :: readingsFrom finish [] rest
        | other => [⟨time, other⟩]
      else readingsFrom finish (b :: line) rest

/-- All readings, up to the end or to the first that fails. -/
def readings (chunks : List Chunk) : List Typed :=
  readingsFrom (endTime chunks) [] (stream 0 chunks)

end Keyboard

end Docket
