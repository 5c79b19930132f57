import Docket.Proofs.Stamp.Range
import Docket.Proofs.Text.Number
import Mathlib.Data.List.Induction

/-!
# Numbers of a fixed width

A stamp writes its numbers with leading zeros up to a width. As many digits as
that write every number below a power of ten, each in one way: so what is read
is what is written, and nothing else is read as the same number.

* `eq_of_decimalValue_eq` — digits of one length that have one value are the
  same.
* `number?_eq_some_iff` — what is read as a number of a width.
-/

namespace Docket.Stamp

open Text (Digits decimalValue toNat_of_isDigit)

theorem digits_append {cs ds : List Char} : Digits (cs ++ ds) ↔ Digits cs ∧ Digits ds :=
  List.forall_mem_append

theorem digits_replicate_zero (k : Nat) : Digits (List.replicate k '0') := by
  intro c hc
  rw [List.eq_of_mem_replicate hc]
  rfl

theorem decimalValue_append (cs : List Char) (c : Char) :
    decimalValue (cs ++ [c]) = decimalValue cs * 10 + (c.toNat - 48) := by
  simp [decimalValue]

/-- Leading zeros do not count. -/
theorem decimalValue_zeros_append (k : Nat) (ds : List Char) :
    decimalValue (List.replicate k '0' ++ ds) = decimalValue ds := by
  induction k with
  | zero => rfl
  | succ k ih =>
      rw [List.replicate_succ, List.cons_append, ← ih]
      rfl

theorem decimalValue_lt {ds : List Char} (h : Digits ds) : decimalValue ds < 10 ^ ds.length := by
  have hlt := foldl_digits_lt h 0
  rwa [Nat.zero_add, Nat.one_mul] at hlt

/-- Digits of one length that have one value are the same. -/
theorem eq_of_decimalValue_eq {cs ds : List Char} (hcs : Digits cs) (hds : Digits ds)
    (hlength : cs.length = ds.length) (hvalue : decimalValue cs = decimalValue ds) : cs = ds := by
  -- the last digit is the value modulo ten, the others have the quotient
  induction cs using List.reverseRecOn generalizing ds with
  | nil => exact (List.eq_nil_of_length_eq_zero hlength.symm).symm
  | append_singleton cs c ih =>
      obtain rfl | ⟨ds, d, rfl⟩ := List.eq_nil_or_concat' ds
      · simp at hlength
      · obtain ⟨hcs, hc⟩ := digits_append.mp hcs
        obtain ⟨hds, hd⟩ := digits_append.mp hds
        have hcbound := toNat_of_isDigit (hc c (List.mem_singleton_self c))
        have hdbound := toNat_of_isDigit (hd d (List.mem_singleton_self d))
        rw [decimalValue_append, decimalValue_append] at hvalue
        have hlast : c.toNat = d.toNat := by omega
        rw [ih hcs hds (by simpa using hlength) (by omega), Char.toNat_inj.mp hlast]

theorem digits_toDigits (n : Nat) : Digits (Nat.toDigits 10 n) :=
  fun _ hc => Nat.isDigit_of_mem_toDigits (by decide) (Nat.le_refl 10) hc

theorem digits_padded (width n : Nat) : Digits (padded width n) :=
  digits_append.mpr ⟨digits_replicate_zero _, digits_toDigits n⟩

theorem decimalValue_padded (width n : Nat) : decimalValue (padded width n) = n :=
  (decimalValue_zeros_append _ _).trans (Text.decimalValue_toDigits n)

theorem length_padded {width n : Nat} (hwidth : 0 < width) (h : n < 10 ^ width) :
    (padded width n).length = width := by
  have hle := (Nat.length_toDigits_le_iff (b := 10) (by decide) hwidth).mpr h
  unfold padded
  rw [List.length_append, List.length_replicate]
  omega

/-- Digits are the padded form of their value. -/
theorem eq_padded {width : Nat} {ds : List Char} (hds : Digits ds) (hlength : ds.length = width)
    (hwidth : 0 < width) : ds = padded width (decimalValue ds) := by
  have hlt := decimalValue_lt hds
  rw [hlength] at hlt
  refine eq_of_decimalValue_eq hds (digits_padded _ _) ?_ (decimalValue_padded _ _).symm
  rw [hlength, length_padded hwidth hlt]

theorem mapM_digit?_eq_some_iff {cs : List Char} {values : List Nat} :
    cs.mapM digit? = some values ↔ Digits cs ∧ values = cs.map fun c => c.toNat - 48 := by
  induction cs generalizing values with
  | nil =>
      constructor
      · rintro ⟨⟩
        exact ⟨List.forall_mem_nil _, rfl⟩
      · rintro ⟨-, rfl⟩
        rfl
  | cons c rest ih =>
      have hcons : Digits (c :: rest) ↔ c.isDigit = true ∧ Digits rest := List.forall_mem_cons
      simp only [List.mapM_cons, Option.bind_eq_bind, Option.bind_eq_some_iff, ih, hcons, digit?,
        Option.ite_none_right_eq_some, Option.some.injEq, Option.pure_def, List.map_cons]
      constructor
      · rintro ⟨_, ⟨hc, rfl⟩, _, ⟨hrest, rfl⟩, rfl⟩
        exact ⟨⟨hc, hrest⟩, rfl⟩
      · rintro ⟨⟨hc, hrest⟩, rfl⟩
        exact ⟨_, ⟨hc, rfl⟩, _, ⟨hrest, rfl⟩, rfl⟩

/-- **A number of a width is read from its padded form**, and from nothing else. -/
theorem number?_eq_some_iff {width n : Nat} {cs rest : List Char} (hwidth : 0 < width) :
    number? width cs = some (n, rest) ↔ n < 10 ^ width ∧ cs = padded width n ++ rest := by
  simp only [number?, Option.bind_eq_bind, Option.bind_eq_some_iff, mapM_digit?_eq_some_iff,
    Option.ite_none_right_eq_some, Option.some.injEq, Prod.mk.injEq]
  constructor
  · rintro ⟨_, ⟨hdigits, rfl⟩, hlength, hvalue, rfl⟩
    rw [List.length_map] at hlength
    rw [List.foldl_map] at hvalue
    have hpadded := eq_padded hdigits hlength hwidth
    have hlt := decimalValue_lt hdigits
    rw [hlength] at hlt
    rw [show decimalValue (cs.take width) = n from hvalue] at hpadded hlt
    exact ⟨hlt, by rw [← hpadded, List.take_append_drop]⟩
  · rintro ⟨hlt, rfl⟩
    have hlength := length_padded hwidth hlt
    have htake : (padded width n ++ rest).take width = padded width n := List.take_left' hlength
    rw [htake, List.drop_left' hlength]
    refine ⟨_, ⟨digits_padded width n, rfl⟩, ?_, ?_, rfl⟩
    · rw [List.length_map, hlength]
    · rw [List.foldl_map]
      exact decimalValue_padded width n

theorem number?_padded {width n : Nat} (rest : List Char) (hwidth : 0 < width)
    (h : n < 10 ^ width) : number? width (padded width n ++ rest) = some (n, rest) :=
  (number?_eq_some_iff hwidth).mpr ⟨h, rfl⟩

end Docket.Stamp
