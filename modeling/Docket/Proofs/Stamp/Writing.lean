import Docket.Proofs.Stamp.Spelling

/-!
# How stamps are written

A stamp that was read, in whatever way it was spelled, is written in one of the
ways to spell it. There is always room for it in that form, so that the bare
number of its seconds is never written in its place. What is written is read as
the same stamp, and holds no white space. Since a stamp is determined by its
moment and its distance from UTC, all texts that agree in both come to be written
alike.

* `Proper.text?_eq`, `Proper.spells_format` — what is written.
* `Proper.eq_of_instant_eq` — what determines a stamp.
* `format_normalizes` — so writing what was read gives it a normal form.
-/

namespace Docket.Stamp

open Text (Digits toNat_of_isDigit)

/-- Without the zeros at the end, characters lack nothing but zeros. -/
theorem exists_append_zeros (cs : List Char) :
    ∃ k, cs = cs.rdropWhile (· = '0') ++ List.replicate k '0' := by
  refine ⟨(cs.rtakeWhile (· = '0')).length, ?_⟩
  have hzeros : cs.rtakeWhile (· = '0') = List.replicate (cs.rtakeWhile (· = '0')).length '0' :=
    List.eq_replicate_of_mem fun c hc => by simpa using List.mem_rtakeWhile_imp hc
  rw [← hzeros, List.rdropWhile_append_rtakeWhile]

/-- The fraction that is written spells the nanoseconds. -/
theorem spellsNano_fractionChars {nano : Nat} (h : nano < 1000000000) :
    SpellsNano nano (fractionChars nano) := by
  unfold fractionChars
  split
  · rename_i hzero
    exact .whole hzero
  · rename_i hsome
    have hlength := length_padded (by decide : 0 < 9) h
    have hvalue := decimalValue_padded 9 nano
    have hdigits := digits_padded 9 nano
    have hkept : ((padded 9 nano).reverse.dropWhile (· = '0')).reverse =
        (padded 9 nano).rdropWhile (· = '0') := rfl
    rw [hkept]
    obtain ⟨k, hzeros⟩ := exists_append_zeros (padded 9 nano)
    generalize (padded 9 nano).rdropWhile (· = '0') = kept at hzeros ⊢
    rw [hzeros] at hlength hdigits hvalue
    refine .point ?_ (digits_append.mp hdigits).1 ?_
    · -- zeros alone would be the fraction of a whole second
      rintro rfl
      have hnone := decimalValue_zeros_append k []
      rw [List.append_nil] at hnone
      rw [List.nil_append, hnone] at hvalue
      exact hsome hvalue.symm
    · rw [List.length_append, List.length_replicate] at hlength
      rw [hzeros, List.take_append, List.take_of_length_le (by omega), List.take_replicate,
        Nat.min_eq_left (by omega)]
      congr 2
      omega

theorem spellsOffset_offsetChars (offset : Int) : SpellsOffset offset (offsetChars offset) := by
  unfold offsetChars
  split
  · rename_i hzero
    exact .utc (.inl rfl) hzero
  · split
    · rename_i hbehind
      exact .behind (Int.le_of_lt hbehind)
    · rename_i hahead
      exact .ahead (Int.not_lt.mp hahead)

/-- A stamp of the calendar has a text. -/
theorem Proper.text?_eq {t : Stamp} (ht : t.Proper) : t.text? = some t.format := by
  have hoffset := ht.offset
  have hroom : ¬ 23 < t.offset.natAbs / 60 := by omega
  rw [format, text?, if_neg hroom]
  rfl

/-- The characters of that text are laid out like those of any spelling. -/
theorem Proper.toList_format {t : Stamp} (ht : t.Proper) :
    t.format.toList =
      layout t 'T' (padded 2 t.second ++ fractionChars t.nano) (offsetChars t.offset) := by
  have hoffset := ht.offset
  rw [format, text?, if_neg (by omega), Option.getD_some, String.toList_ofList]
  simp [layout]

theorem Proper.spellsSecond {t : Stamp} (ht : t.Proper) :
    SpellsSecond t (padded 2 t.second ++ fractionChars t.nano) :=
  .plain (spellsNano_fractionChars ht.nano)

/-- What is written of a stamp spells it. -/
theorem Proper.spells_format {t : Stamp} (ht : t.Proper) : Spells t t.format.toList := by
  rw [ht.toList_format]
  exact .parts (by decide) ht.spellsSecond (spellsOffset_offsetChars t.offset)

/-- There is no white space among the characters. -/
def Solid (cs : List Char) : Prop :=
  ∀ c ∈ cs, Text.isSpace c = false

theorem solid_append {cs ds : List Char} : Solid (cs ++ ds) ↔ Solid cs ∧ Solid ds :=
  List.forall_mem_append

theorem solid_cons {c : Char} {cs : List Char} :
    Solid (c :: cs) ↔ Text.isSpace c = false ∧ Solid cs :=
  List.forall_mem_cons

theorem solid_of_digits {cs : List Char} (h : Digits cs) : Solid cs := by
  intro c hc
  obtain ⟨hlow, hhigh⟩ := toNat_of_isDigit (h c hc)
  simp [Text.isSpace]
  omega

theorem solid_padded (width n : Nat) : Solid (padded width n) :=
  solid_of_digits (digits_padded width n)

theorem SpellsNano.solid {nano : Nat} {cs : List Char} (h : SpellsNano nano cs) : Solid cs := by
  cases h with
  | whole => exact List.forall_mem_nil _
  | point filled all nine => exact solid_cons.mpr ⟨by decide, solid_of_digits all⟩

theorem SpellsSecond.solid {t : Stamp} {cs : List Char} (h : SpellsSecond t cs) : Solid cs := by
  cases h with
  | plain spelled => exact solid_append.mpr ⟨solid_padded _ _, spelled.solid⟩
  | leap spelled => exact solid_append.mpr ⟨solid_padded _ _, spelled.solid⟩

theorem SpellsOffset.solid {offset : Int} {cs : List Char} (h : SpellsOffset offset cs) :
    Solid cs := by
  have hdistance : Solid (distanceChars offset.natAbs) :=
    solid_append.mpr ⟨solid_padded _ _, solid_cons.mpr ⟨by decide, solid_padded _ _⟩⟩
  cases h with
  | utc name =>
      refine solid_cons.mpr ⟨?_, List.forall_mem_nil _⟩
      obtain rfl | rfl := name <;> decide
  | ahead => exact solid_cons.mpr ⟨by decide, hdistance⟩
  | behind => exact solid_cons.mpr ⟨by decide, hdistance⟩

/-- Only what parts date and time can be white space. -/
theorem solid_layout {t : Stamp} {separator : Char} {second offset : List Char}
    (hseparator : Text.isSpace separator = false) (hsecond : SpellsSecond t second)
    (hoffset : SpellsOffset t.offset offset) : Solid (layout t separator second offset) := by
  have hdash : Text.isSpace '-' = false := by decide
  have hcolon : Text.isSpace ':' = false := by decide
  simp only [layout, solid_append, solid_cons, solid_padded, hdash, hcolon, hseparator,
    hsecond.solid, hoffset.solid, and_self]

/-- There is nothing to trim of what is written. -/
theorem Proper.trim_format {t : Stamp} (ht : t.Proper) : Text.trim t.format = t.format := by
  refine Text.trim_of_forall ?_
  rw [ht.toList_format]
  exact solid_layout (by decide) ht.spellsSecond (spellsOffset_offsetChars t.offset)

/-- **What is written of a stamp is read as that stamp.** -/
theorem Proper.parse?_format {t : Stamp} (ht : t.Proper) : parse? t.format = some t := by
  rw [parse?_eq_some_iff, ht.trim_format]
  exact ⟨ht, ht.spells_format⟩

theorem Proper.tidy_format {t : Stamp} (ht : t.Proper) : Text.Tidy t.format :=
  ⟨fun hempty => trim_ne_of_parse? ht.parse?_format (ht.trim_format.trans hempty), ht.trim_format⟩

/-- What is read has its place in the calendar. -/
theorem proper_of_parse? {s : String} {t : Stamp} (h : parse? s = some t) : t.Proper :=
  (parse?_eq_some_iff.mp h).1

/-- The time of a day determines hour, minute and second. -/
theorem Proper.eq_of_localSeconds_eq {t t' : Stamp} (ht : t.Proper) (ht' : t'.Proper)
    (hlocal : t.localSeconds = t'.localSeconds) (hnano : t.nano = t'.nano)
    (hoffset : t.offset = t'.offset) : t = t' := by
  have hhour := ht.hour
  have hminute := ht.minute
  have hsecond := ht.second
  have hhour' := ht'.hour
  have hminute' := ht'.minute
  have hsecond' := ht'.second
  unfold localSeconds at hlocal
  have hdate : t.date = t'.date := Date.number_injective (by omega)
  obtain ⟨date, hour, minute, second, nano, offset⟩ := t
  obtain ⟨date', hour', minute', second', nano', offset'⟩ := t'
  dsimp only at hdate hnano hoffset hlocal hhour hminute hsecond hhour' hminute' hsecond'
  subst hdate hnano hoffset
  obtain ⟨rfl, rfl, rfl⟩ : hour = hour' ∧ minute = minute' ∧ second = second' := by omega
  rfl

/-- A stamp is determined by its moment and its distance from UTC. -/
theorem Proper.eq_of_instant_eq {t t' : Stamp} (ht : t.Proper) (ht' : t'.Proper)
    (hinstant : t.instant = t'.instant) (hoffset : t.offset = t'.offset) : t = t' := by
  have hnano := ht.nano
  have hnano' := ht'.nano
  unfold instant at hinstant
  exact ht.eq_of_localSeconds_eq ht' (by omega) (by omega) hoffset

/-- **Writing gives a stamp text its normal form.** Let a text be read as a stamp.
There is room for the stamp in the form in which stamps are written, and what is
written is read as that stamp, so it is compared with the text as equal. Any
text that names the same moment at the same distance from UTC is written in the
same way. And any text that spells the stamp, with any white space around it,
with either name of UTC, with any character between date and time, with a
fraction of any length, or as a leap second, is read as this stamp. -/
theorem format_normalizes {s : String} {t : Stamp} (h : parse? s = some t) :
    t.text? = some t.format ∧ parse? t.format = some t ∧ compareTexts s t.format = .eq ∧
      (∀ s' t', parse? s' = some t' → t'.instant = t.instant → t'.offset = t.offset →
        t'.format = t.format) ∧
      ∀ s', Spells t (Text.trim s').toList → parse? s' = some t := by
  have ht := proper_of_parse? h
  refine ⟨ht.text?_eq, ht.parse?_format, ?_, ?_, ?_⟩
  · rw [compareTexts, h, ht.parse?_format]
    exact compare_eq_iff_eq.mpr rfl
  · intro s' t' h' hinstant hoffset
    rw [(proper_of_parse? h').eq_of_instant_eq ht hinstant hoffset]
  · intro s' hspelled
    exact parse?_eq_some_iff.mpr ⟨ht, hspelled⟩

/-- The last second of 2016 in UTC, eight hours west of it. -/
def lastOf2016 : Stamp :=
  ⟨⟨2016, 12, 31, by decide, by decide, by decide⟩, 15, 59, 59, 999999999, -480⟩

/-- A leap second is written as the end of the second before, and so is a text
with more digits than count. -/
theorem format_normalizes_of_leap :
    parse? " 2016-12-31 15:59:60.5-08:00\n" = some lastOf2016 ∧
      lastOf2016.format = "2016-12-31T15:59:59.999999999-08:00" ∧
      parse? lastOf2016.format = some lastOf2016 ∧
      compareTexts " 2016-12-31 15:59:60.5-08:00\n" lastOf2016.format = .eq ∧
      parse? "2016-12-31t15:59:59.9999999994-08:00" = some lastOf2016 := by
  have hread : parse? " 2016-12-31 15:59:60.5-08:00\n" = some lastOf2016 := by rfl
  obtain ⟨-, hback, hequal, -, hspelled⟩ := format_normalizes hread
  have hnano : SpellsNano 999999999 ('.' :: "9999999994".toList) :=
    .point (by decide) (by decide) (by decide)
  have hwest : SpellsOffset (-480) ('-' :: distanceChars 480) := .behind (by decide)
  have hchars : (Text.trim "2016-12-31t15:59:59.9999999994-08:00").toList =
      layout lastOf2016 't' (padded 2 59 ++ '.' :: "9999999994".toList)
        ('-' :: distanceChars 480) := by
    decide
  refine ⟨hread, by decide +kernel, hback, hequal, hspelled _ ?_⟩
  rw [hchars]
  exact .parts (by decide) (.plain hnano) hwest

end Docket.Stamp
