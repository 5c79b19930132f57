import Docket.Board
import Docket.Sheet.Basic
import Docket.Wire.Codec

/-!
# Names on the wire

Identifiers cross as plain text, and the members of an enumeration as their
keys. A column that a status, an offer or a request declares is read
leniently: a key that nobody knows counts as no declaration.
-/

namespace Docket

open Wire

/-- An identifier is its text. -/
def Ident.codec {kind : Ident.Kind} : Codec (Ident kind) :=
  Codec.text.via Ident.mk Ident.text

/-- A column is its key, in that very spelling. -/
def Column.codec : Codec Column :=
  .named Column.all Column.key

/-- A column that may be declared: any text or null, of which the known keys
count. -/
def Column.declared : Codec (Option Column) where
  read value := (Codec.text.nullable.read value).map fun s? => s?.bind Column.ofKey?
  write := Json.ofOption Column.codec.write

/-- A role is its key. -/
def Role.codec : Codec Role :=
  .named Role.all Role.key

/-- A side is its key. -/
def Side.codec : Codec Side :=
  .named Side.all Side.key

/-- An order is its key. -/
def SortOrder.codec : Codec SortOrder :=
  .named SortOrder.all SortOrder.key

/-- A kind of field is its name. -/
def FieldKind.codec : Codec FieldKind :=
  .named FieldKind.all FieldKind.name

end Docket
