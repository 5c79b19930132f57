import Docket.Proofs.Json.Arranged
import Docket.Wire.Record
import Mathlib.Data.List.Nodup

/-!
# Codecs and records read back what they write

What a codec writes may be spelled anew before it is read, since the members
of an object have no order of their own. A record reads back a value of its
own kind as soon as every member does: reading finds each member under its
name, and one that was left out takes the default that it stood for.

* `ReadsBack` — a codec reads a value back.
* `Spells` — the invariant of a record that is described member by member:
  from the members of a value the part described so far puts its own part of
  that value together.
* `Record.readsBack_codec` — a record that spells a value reads it back.
-/

namespace Docket.Wire

open Json (Respelling)

variable {spell : Json → Json} {α β R : Type}

/-- The codec reads a value back from what it writes, spelled anew. -/
def Codec.ReadsBack (spell : Json → Json) (c : Codec α) (a : α) : Prop :=
  c.read (spell (c.write a)) = .ok a

namespace Codec

theorem readsBack_text (hspell : Respelling spell) (s : String) : ReadsBack spell text s := by
  unfold ReadsBack
  rw [show text.write s = .text s from rfl, hspell.text]
  rfl

theorem readsBack_bool (hspell : Respelling spell) (b : Bool) : ReadsBack spell bool b := by
  unfold ReadsBack
  rw [show bool.write b = .bool b from rfl, hspell.bool]
  rfl

/-- A number comes back when it lies in the range that is read and its word
stands for it. -/
theorem readsBack_word (hspell : Respelling spell) (name : String) {low high : Int}
    {ofInt : Int → α} {toInt : α → Int} {a : α} (hlow : low ≤ toInt a) (hhigh : toInt a ≤ high)
    (hword : ofInt (toInt a) = a) : ReadsBack spell (word name low high ofInt toInt) a := by
  unfold ReadsBack
  rw [show (word name low high ofInt toInt).write a = .int (toInt a) from rfl, hspell.int]
  show (if low ≤ toInt a ∧ toInt a ≤ high then Except.ok (ofInt (toInt a)) else _) = _
  rw [if_pos ⟨hlow, hhigh⟩, hword]

theorem readsBack_uint32 (hspell : Respelling spell) (n : UInt32) :
    ReadsBack spell uint32 n := by
  have hhigh : n.toNat < 4294967296 := n.toNat_lt
  refine readsBack_word hspell "u32" (Int.natCast_nonneg _) ?_ ?_
  · show (n.toNat : Int) ≤ 4294967295
    omega
  · exact UInt32.ofNat_toNat

theorem readsBack_uint64 (hspell : Respelling spell) (n : UInt64) :
    ReadsBack spell uint64 n := by
  have hhigh : n.toNat < 18446744073709551616 := n.toNat_lt
  refine readsBack_word hspell "u64" (Int.natCast_nonneg _) ?_ ?_
  · show (n.toNat : Int) ≤ 18446744073709551615
    omega
  · exact UInt64.ofNat_toNat

theorem readsBack_int32 (hspell : Respelling spell) (n : Int32) : ReadsBack spell int32 n := by
  have hlow : -2 ^ 31 ≤ n.toInt := n.le_toInt
  have hhigh : n.toInt < 2 ^ 31 := n.toInt_lt
  refine readsBack_word hspell "i32" ?_ ?_ (Int32.ofInt_toInt n)
  · omega
  · omega

theorem readsBack_int64 (hspell : Respelling spell) (n : Int64) : ReadsBack spell int64 n := by
  have hlow : -2 ^ 63 ≤ n.toInt := n.le_toInt
  have hhigh : n.toInt < 2 ^ 63 := n.toInt_lt
  refine readsBack_word hspell "i64" ?_ ?_ (Int64.ofInt_toInt n)
  · omega
  · omega

/-- A name comes back when the enumeration knows it and no other value has
it. -/
theorem readsBack_named (hspell : Respelling spell) {all : List α} {name : α → String} {a : α}
    (hfind : all.find? (fun b => name b == name a) = some a) :
    ReadsBack spell (named all name) a := by
  unfold ReadsBack
  rw [show (named all name).write a = .text (name a) from rfl, hspell.text]
  simp only [named, hfind]

theorem readsBack_via {c : Codec α} {wrap : α → β} {unwrap : β → α} {b : β}
    (h : ReadsBack spell c (unwrap b)) (hwrap : wrap (unwrap b) = b) :
    ReadsBack spell (c.via wrap unwrap) b := by
  unfold ReadsBack at h ⊢
  simp only [via, h, Except.map, hwrap]

/-- A list comes back when its items do. -/
theorem readsBack_list (hspell : Respelling spell) {c : Codec α} {as : List α}
    (h : ∀ a ∈ as, ReadsBack spell c a) : ReadsBack spell (list c) as := by
  unfold ReadsBack
  rw [show (list c).write as = .list (as.map c.write) from rfl, hspell.list]
  show ((as.map c.write).map spell).mapM c.read = .ok as
  induction as with
  | nil => rfl
  | cons a rest ih =>
      have hitem : c.read (spell (c.write a)) = .ok a := h a List.mem_cons_self
      have hrest := ih fun b hb => h b (List.mem_cons_of_mem a hb)
      rw [List.map_cons, List.map_cons, List.mapM_cons, hitem, hrest]
      rfl

theorem read_nullable_of_ne {c : Codec α} {value : Json} (h : value ≠ .null) :
    (nullable c).read value = (c.read value).map some := by
  cases value with
  | null => exact absurd rfl h
  | _ => rfl

/-- A value that may be missing comes back when null is none of its kind. -/
theorem readsBack_nullable (hspell : Respelling spell) {c : Codec α} {a? : Option α}
    (hnull : ∀ a, c.read .null ≠ .ok a) (h : ∀ a, a? = some a → ReadsBack spell c a) :
    ReadsBack spell (nullable c) a? := by
  unfold ReadsBack
  cases a? with
  | none =>
      rw [show (nullable c).write none = .null from rfl, hspell.null]
      rfl
  | some a =>
      have hread : c.read (spell (c.write a)) = .ok a := h a rfl
      have hsolid : spell (c.write a) ≠ .null := fun heq => hnull a (heq ▸ hread)
      rw [show (nullable c).write (some a) = c.write a from rfl, read_nullable_of_ne hsolid, hread]
      rfl

end Codec

/-- The value that a member takes in an object which does not hold it. -/
def Absent.value? : Absent α → Option α
  | .refused => none
  | .default a => some a
  | .defaultInObject a => some a

/-- From the members of a value, spelled anew, the part of a record that is
described so far passes all checks and puts `part` together. -/
structure Spells (spell : Json → Json) (p : Record R α) (r : R) (part : α) : Prop where
  checks : ∀ m ∈ p.members, ∀ value, m.write r = some value → m.check (spell value) = .ok ()
  ofObject : ∀ find : String → Option Json,
    (∀ m ∈ p.members, find m.name = (m.write r).map spell) → p.ofObject find = .ok part

namespace Spells

variable {p : Record R (α → β)} {r : R} {f : α → β} {name : String} {get : R → α} {c : Codec α}

theorem start (r : R) (a : α) : Spells spell (Record.start a) r a where
  checks _ h := absurd h List.not_mem_nil
  ofObject _ _ := rfl

/-- A member more: it comes back if it is written, and is what it defaults to
if it is not. -/
theorem member {absent : Absent α} {keep : α → Bool} (h : Spells spell p r f)
    (hread : keep (get r) = true → c.ReadsBack spell (get r))
    (habsent : keep (get r) = false → absent.value? = some (get r)) :
    Spells spell (p.member name get c absent keep) r (f (get r)) where
  checks m hm value hwrite := by
    rcases List.mem_append.mp hm with hm | hm
    · exact h.checks m hm value hwrite
    · cases List.mem_singleton.mp hm
      dsimp only at hwrite
      split at hwrite
      · rename_i hkeep
        cases hwrite
        have hback : c.read (spell (c.write (get r))) = .ok (get r) := hread hkeep
        simp only [hback, Except.map]
      · cases hwrite
  ofObject find hfind := by
    have hpart : p.ofObject find = .ok f :=
      h.ofObject find fun m hm => hfind m (List.mem_append_left _ hm)
    have hmember := hfind _ (List.mem_append_right _ (List.mem_singleton_self _))
    dsimp only at hmember
    simp only [Record.member, hpart, hmember]
    by_cases hkeep : keep (get r) = true
    · have hback : c.read (spell (c.write (get r))) = .ok (get r) := hread hkeep
      rw [if_pos hkeep]
      show (c.read (spell (c.write (get r)))).map f = _
      rw [hback]
      rfl
    · rw [if_neg hkeep]
      have hvalue := habsent (Bool.eq_false_iff.mpr hkeep)
      cases absent with
      | refused => cases hvalue
      | default a =>
          cases hvalue
          rfl
      | defaultInObject a =>
          cases hvalue
          rfl

theorem needs (h : Spells spell p r f) (hread : c.ReadsBack spell (get r)) :
    Spells spell (p.needs name get c) r (f (get r)) :=
  h.member (fun _ => hread) fun hkeep => by cases hkeep

theorem defaults {a : α} (h : Spells spell p r f) (hread : c.ReadsBack spell (get r)) :
    Spells spell (p.defaults name get c a) r (f (get r)) :=
  h.member (fun _ => hread) fun hkeep => by cases hkeep

variable {q : Record R (Option α → β)} {g : Option α → β} {get? : R → Option α}

/-- A member that is left out when it is none. -/
theorem optional (h : Spells spell q r g) (hread : c.nullable.ReadsBack spell (get? r)) :
    Spells spell (q.optional name get? c) r (g (get? r)) := by
  refine h.member (fun _ => hread) fun hkeep => ?_
  rw [Option.isSome_eq_false_iff.mp hkeep |> Option.isNone_iff_eq_none.mp]
  rfl

theorem nullable (h : Spells spell q r g) (hread : c.nullable.ReadsBack spell (get? r)) :
    Spells spell (q.nullable name get? c) r (g (get? r)) :=
  h.member (fun _ => hread) fun hkeep => by cases hkeep

theorem nullableInObject (h : Spells spell q r g) (hread : c.nullable.ReadsBack spell (get? r)) :
    Spells spell (q.nullableInObject name get? c) r (g (get? r)) :=
  h.member (fun _ => hread) fun hkeep => by cases hkeep

end Spells

namespace Record

variable {p : Record R α} {r : R}

/-- The names of the members. -/
def names (p : Record R α) : List String :=
  p.members.map Member.name

/-- A member is known by its name. -/
theorem eq_of_name (hnames : p.names.Nodup) {m m' : Member R} (hm : m ∈ p.members)
    (hm' : m' ∈ p.members) (hname : m.name = m'.name) : m = m' :=
  List.inj_on_of_nodup_map hnames hm hm' hname

theorem find?_name (hnames : p.names.Nodup) {m : Member R} (hm : m ∈ p.members) :
    p.members.find? (fun other => other.name == m.name) = some m := by
  cases hfind : p.members.find? fun other => other.name == m.name with
  | none =>
      have hnone := List.find?_eq_none.mp hfind m hm
      simp at hnone
  | some other =>
      have hname : other.name = m.name := by simpa using List.find?_some hfind
      rw [eq_of_name hnames (List.mem_of_find?_eq_some hfind) hm hname]

/-- What is written are members that the record knows. -/
theorem mem_written {name : String} {value : Json} :
    (name, value) ∈ p.written r ↔ ∃ m ∈ p.members, m.write r = some value ∧ m.name = name := by
  simp [written]

/-- What is written is found under the name of its member. -/
theorem get?_written (hnames : p.names.Nodup) {m : Member R} (hm : m ∈ p.members) :
    Json.get? (p.written r) m.name = m.write r := by
  cases hfound : Json.get? (p.written r) m.name with
  | some value =>
      obtain ⟨other, hother, hwrite, hname⟩ := mem_written.mp (Json.mem_of_get? hfound)
      rw [← eq_of_name hnames hother hm hname, hwrite]
  | none =>
      cases hwrite : m.write r with
      | none => rfl
      | some value =>
          have hmem : (m.name, value) ∈ p.written r := mem_written.mpr ⟨m, hm, hwrite, rfl⟩
          exact absurd hfound (Json.get?_ne_none hmem)

/-- Members that all pass their checks pass together. -/
theorem checkMembers_eq_ok {members : List (String × Json)}
    (h : ∀ name value, (name, value) ∈ members →
      ∃ m, p.members.find? (fun other => other.name == name) = some m ∧ m.check value = .ok ()) :
    p.checkMembers members = .ok () := by
  unfold checkMembers
  induction members with
  | nil => rfl
  | cons first rest ih =>
      obtain ⟨name, value⟩ := first
      obtain ⟨m, hfind, hcheck⟩ := h name value List.mem_cons_self
      have hrest := ih fun other found hmem => h other found (List.mem_cons_of_mem _ hmem)
      rw [List.forM_eq_forM, List.forM_cons]
      simp only [hfind, hcheck]
      exact hrest

/-- **A record that spells a value reads it back.** -/
theorem readsBack_codec {d : Record R R} (hspell : Respelling spell) (hnames : d.names.Nodup)
    (h : Spells spell d r r) (kind : String) : (d.codec kind).ReadsBack spell r := by
  unfold Codec.ReadsBack
  obtain ⟨members, heq, hget, hmem⟩ := hspell.object (d.written r)
  rw [show (d.codec kind).write r = .object (d.written r) from rfl, heq]
  show d.readObject members = .ok r
  have hcheck : d.checkMembers members = .ok () := by
    refine checkMembers_eq_ok fun name value hmember => ?_
    obtain ⟨plain, hplain, rfl⟩ := hmem _ hmember
    obtain ⟨m, hm, hwrite, rfl⟩ := mem_written.mp hplain
    exact ⟨m, find?_name hnames hm, h.checks m hm plain hwrite⟩
  have hobject : d.ofObject (Json.get? members) = .ok r :=
    h.ofObject _ fun m hm => by rw [hget, get?_written hnames hm]
  unfold readObject
  rw [hcheck]
  exact hobject

end Record

end Docket.Wire
