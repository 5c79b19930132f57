import Docket.Proofs.Stamp.Calendar
import Docket.Proofs.Stamp.Digits
import Docket.Proofs.Stamp.Order

/-!
# How stamps are spelled

A stamp may be spelled in many ways: any ASCII character parts date and time,
the fraction of a second has as many digits as one likes, UTC has a name of
either case and is a distance of no hours besides, and a leap second is a second
60. All of them are read, as that stamp, and nothing else is.

* `Spells` — the ways to spell a stamp.
* `parseChars?_eq_some_iff` — they are what is read.
-/

namespace Docket.Stamp

open Text (Digits)

/-- The time of day has hours, minutes and seconds, and the distance from UTC is
less than a day. -/
structure Proper (t : Stamp) : Prop where
  hour : t.hour ≤ 23
  minute : t.minute ≤ 59
  second : t.second ≤ 59
  nano : t.nano < 1000000000
  offset : t.offset.natAbs < 1440

/-- The characters of a stamp, of which some are left open. -/
def layout (t : Stamp) (separator : Char) (second offset : List Char) : List Char :=
  padded 4 t.date.year ++ '-' :: (padded 2 t.date.month ++ '-' :: (padded 2 t.date.day
    ++ separator :: (padded 2 t.hour ++ ':' :: (padded 2 t.minute ++ ':' :: (second ++ offset)))))

/-- What may stand for the nanoseconds of a second. -/
inductive SpellsNano (nano : Nat) : List Char → Prop
  /-- Nothing, for a whole second. -/
  | whole (zero : nano = 0) : SpellsNano nano []
  /-- Digits behind a point, of which nine count; missing ones are zeros. -/
  | point {digits : List Char} (filled : digits ≠ []) (all : Digits digits)
      (nine : (digits ++ List.replicate 9 '0').take 9 = padded 9 nano) :
      SpellsNano nano ('.' :: digits)

/-- What may stand for the second of a stamp and its nanoseconds. -/
inductive SpellsSecond (t : Stamp) : List Char → Prop
  | plain {fraction : List Char} (spelled : SpellsNano t.nano fraction) :
      SpellsSecond t (padded 2 t.second ++ fraction)
  /-- A leap second stands for the end of the second before, whatever its
  fraction. -/
  | leap {nano : Nat} {fraction : List Char} (spelled : SpellsNano nano fraction)
      (last : t.second = 59 ∧ t.nano = 999999999) (place : t.isLeapPlace = true) :
      SpellsSecond t (padded 2 60 ++ fraction)

/-- The characters of a number of minutes, with the hours that they make. -/
def distanceChars (n : Nat) : List Char :=
  padded 2 (n / 60) ++ ':' :: padded 2 (n % 60)

/-- What may stand for a distance from UTC. -/
inductive SpellsOffset (offset : Int) : List Char → Prop
  | utc {c : Char} (name : c = 'Z' ∨ c = 'z') (zero : offset = 0) : SpellsOffset offset [c]
  | ahead (sign : 0 ≤ offset) : SpellsOffset offset ('+' :: distanceChars offset.natAbs)
  | behind (sign : offset ≤ 0) : SpellsOffset offset ('-' :: distanceChars offset.natAbs)

/-- The ways to spell a stamp. -/
inductive Spells (t : Stamp) : List Char → Prop
  | parts {separator : Char} {second offset : List Char} (ascii : separator.toNat < 128)
      (hsecond : SpellsSecond t second) (hoffset : SpellsOffset t.offset offset) :
      Spells t (layout t separator second offset)

theorem expect?_eq_some_iff {c : Char} {cs rest : List Char} :
    expect? c cs = some rest ↔ cs = c :: rest := by
  cases cs with
  | nil => simp [expect?]
  | cons d cs => simp [expect?, eq_comm]

theorem separator?_eq_some_iff {cs rest : List Char} :
    separator? cs = some rest ↔ ∃ c : Char, c.toNat < 128 ∧ cs = c :: rest := by
  cases cs with
  | nil => simp [separator?]
  | cons d cs => simp [separator?]

/-- Nine digits count, whether zeros are put behind them as far as they are
missing or more of them. -/
theorem nanos_eq_iff {digits : List Char} {nano : Nat} (h : Digits digits) :
    nanos digits = nano ↔ (digits ++ List.replicate 9 '0').take 9 = padded 9 nano := by
  have hnine : (digits ++ List.replicate (9 - digits.length) '0').take 9 =
      (digits ++ List.replicate 9 '0').take 9 := by
    rw [List.take_append, List.take_append, List.take_replicate, List.take_replicate, Nat.min_self,
      Nat.min_eq_left (Nat.sub_le 9 _)]
  have hvalue : nanos digits = Text.decimalValue ((digits ++ List.replicate 9 '0').take 9) := by
    rw [← hnine]
    rfl
  have hdigits : Digits ((digits ++ List.replicate 9 '0').take 9) :=
    fun c hc => digits_append.mpr ⟨h, digits_replicate_zero 9⟩ c (List.mem_of_mem_take hc)
  have hlength : ((digits ++ List.replicate 9 '0').take 9).length = 9 := by
    simp
  rw [hvalue]
  constructor
  · rintro rfl
    exact eq_padded hdigits hlength (by decide)
  · intro hpadded
    rw [hpadded, decimalValue_padded]

/-- What is read of a fraction spells it. -/
theorem spells_of_fraction? {cs rest : List Char} {nano : Nat}
    (h : fraction? cs = some (nano, rest)) :
    ∃ fraction, cs = fraction ++ rest ∧ SpellsNano nano fraction := by
  unfold fraction? at h
  split at h
  · rename_i digits
    dsimp only at h
    split at h
    · cases h
    · rename_i hsome
      have hdigits : Digits (digits.takeWhile Char.isDigit) := fun _ hc => List.mem_takeWhile_imp hc
      obtain ⟨hnano, rfl⟩ := Prod.mk.inj (Option.some.inj h)
      refine ⟨'.' :: digits.takeWhile Char.isDigit, ?_, ?_⟩
      · rw [List.cons_append, List.takeWhile_append_dropWhile]
      · exact .point (by simpa using hsome) hdigits ((nanos_eq_iff hdigits).mp hnano)
  · cases h
    exact ⟨[], rfl, .whole rfl⟩

/-- Digits end where what stands behind them does not begin with one. -/
theorem span_digits_append {digits rest : List Char} (h : Digits digits)
    (hrest : ∀ c ∈ rest.head?, c.isDigit = false) :
    (digits ++ rest).takeWhile Char.isDigit = digits ∧
      (digits ++ rest).dropWhile Char.isDigit = rest := by
  have hends : rest.takeWhile Char.isDigit = [] ∧ rest.dropWhile Char.isDigit = rest := by
    cases rest with
    | nil => exact ⟨rfl, rfl⟩
    | cons c rest =>
        have hc : ¬ c.isDigit = true := by
          rw [hrest c rfl]
          exact Bool.false_ne_true
        exact ⟨List.takeWhile_cons_of_neg hc, List.dropWhile_cons_of_neg hc⟩
  rw [List.takeWhile_append_of_pos h, List.dropWhile_append_of_pos h, hends.1, hends.2,
    List.append_nil]
  exact ⟨rfl, rfl⟩

/-- A fraction is read where neither a point nor a digit stands behind it. -/
theorem SpellsNano.fraction?_append {nano : Nat} {fraction rest : List Char}
    (h : SpellsNano nano fraction) (hrest : ∀ c ∈ rest.head?, c ≠ '.' ∧ c.isDigit = false) :
    fraction? (fraction ++ rest) = some (nano, rest) := by
  cases h with
  | whole zero =>
      subst zero
      unfold fraction?
      split
      · rename_i rest' heq
        exact absurd rfl (hrest '.' (by rw [← List.nil_append rest, heq]; rfl)).1
      · rfl
  | @point digits filled all nine =>
      obtain ⟨htake, hdrop⟩ := span_digits_append all fun c hc => (hrest c hc).2
      unfold fraction?
      simp only [List.cons_append, htake, hdrop, (nanos_eq_iff all).mpr nine, List.isEmpty_iff,
        filled, if_false]

/-- Neither a point nor a digit begins a distance from UTC. -/
theorem SpellsOffset.head? {offset : Int} {cs : List Char} (h : SpellsOffset offset cs) :
    ∀ c ∈ cs.head?, c ≠ '.' ∧ c.isDigit = false := by
  cases h with
  | utc name zero =>
      rintro c ⟨⟩
      obtain rfl | rfl := name <;> decide
  | ahead sign =>
      rintro c ⟨⟩
      decide
  | behind sign =>
      rintro c ⟨⟩
      decide

/-- Hours and minutes behind a sign are read as the distance that they make. -/
theorem offset?_signed {sign : Char} {n : Nat} (h : n < 1440) (hsign : sign = '+' ∨ sign = '-') :
    offset? (sign :: distanceChars n) = some (if sign = '+' then (n : Int) else -n) := by
  have hhours : number? 2 (distanceChars n) = some (n / 60, ':' :: padded 2 (n % 60)) :=
    number?_padded _ Nat.two_pos (by omega)
  have hminutes := number?_padded [] Nat.two_pos (n := n % 60) (by omega)
  rw [List.append_nil] at hminutes
  have hfits : ¬ (23 < n / 60 ∨ 59 < n % 60 ∨ ([] : List Char) ≠ []) := by
    simp only [ne_eq, not_true_eq_false, or_false]
    omega
  have htotal : ((n / 60 : Nat) * 60 + (n % 60 : Nat) : Int) = n := by omega
  unfold offset?
  split
  · rename_i heq
    obtain rfl : sign = 'Z' := (List.cons.inj heq).1
    simp at hsign
  · rename_i heq
    obtain rfl : sign = 'z' := (List.cons.inj heq).1
    simp at hsign
  · rename_i heq
    obtain ⟨rfl, rfl⟩ := List.cons.inj heq
    simp only [hhours, hminutes, expect?, Option.bind_eq_bind, Option.bind_some, if_true,
      if_neg hfits, htotal]
    obtain rfl | rfl := hsign <;> rfl
  · rename_i heq
    cases heq

/-- What is read as a distance from UTC is a spelling of it. -/
theorem offset?_eq_some_iff {cs : List Char} {offset : Int} :
    offset? cs = some offset ↔ offset.natAbs < 1440 ∧ SpellsOffset offset cs := by
  constructor
  · intro h
    refine ⟨offset?_natAbs_lt h, ?_⟩
    unfold offset? at h
    split at h
    · cases h
      exact .utc (.inl rfl) rfl
    · cases h
      exact .utc (.inr rfl) rfl
    · rename_i sign cs _ _
      simp only [Option.bind_eq_bind, Option.bind_eq_some_iff, Prod.exists,
        number?_eq_some_iff Nat.two_pos, expect?_eq_some_iff] at h
      obtain ⟨hours, _, ⟨-, rfl⟩, _, rfl, minutes, rest, ⟨-, rfl⟩, h⟩ := h
      split at h
      · cases h
      · rename_i hfits
        obtain ⟨-, hminutes, rfl⟩ : hours ≤ 23 ∧ minutes ≤ 59 ∧ rest = [] := by
          simpa only [not_or, Nat.not_lt, not_not] using hfits
        have hhour : (hours * 60 + minutes) / 60 = hours := by omega
        have hminute : (hours * 60 + minutes) % 60 = minutes := by omega
        rw [List.append_nil]
        split at h
        · rename_i hsign
          subst hsign
          obtain rfl : offset = ((hours * 60 + minutes : Nat) : Int) := (Option.some.inj h).symm
          have hahead := SpellsOffset.ahead (Int.natCast_nonneg (hours * 60 + minutes))
          rwa [distanceChars, Int.natAbs_natCast, hhour, hminute] at hahead
        · split at h
          · rename_i hsign
            subst hsign
            obtain rfl : offset = -((hours * 60 + minutes : Nat) : Int) := (Option.some.inj h).symm
            have hbehind := SpellsOffset.behind
              (Int.neg_nonpos_of_nonneg (Int.natCast_nonneg (hours * 60 + minutes)))
            rwa [distanceChars, Int.natAbs_neg, Int.natAbs_natCast, hhour, hminute] at hbehind
          · cases h
    · cases h
  · rintro ⟨hlt, hspelled⟩
    cases hspelled with
    | utc name zero =>
        subst zero
        obtain rfl | rfl := name <;> rfl
    | ahead sign =>
        rw [offset?_signed hlt (.inl rfl), if_pos rfl, Int.natAbs_of_nonneg sign]
    | behind sign =>
        rw [offset?_signed hlt (.inr rfl), if_neg (by decide), Int.ofNat_natAbs_of_nonpos sign,
          Int.neg_neg]

/-- What is read as a stamp spells it. -/
theorem spells_of_parseChars? {cs : List Char} {t : Stamp} (h : parseChars? cs = some t) :
    Spells t cs := by
  dsimp only [parseChars?, Option.bind_eq_bind] at h
  -- each step is taken before the steps behind it are looked at
  simp only [↓Option.bind_eq_some_iff, Prod.exists,
    number?_eq_some_iff (Nat.succ_pos 3), number?_eq_some_iff Nat.two_pos, expect?_eq_some_iff,
    separator?_eq_some_iff, offset?_eq_some_iff, Date.of?_eq_some_iff] at h
  obtain ⟨year, _, ⟨-, rfl⟩, _, rfl, month, _, ⟨-, rfl⟩, _, rfl, day, _, ⟨-, rfl⟩, _,
    ⟨separator, hascii, rfl⟩, hour, _, ⟨-, rfl⟩, _, rfl, minute, _, ⟨-, rfl⟩, _, rfl,
    second, _, ⟨-, rfl⟩, nano, zone, hfraction, offset, ⟨-, hoffset⟩, date, ⟨rfl, rfl, rfl⟩, h⟩ := h
  obtain ⟨fraction, rfl, hnano⟩ := spells_of_fraction? hfraction
  rw [← List.append_assoc (padded 2 second)]
  split at h
  · cases h
  · split at h
    · rename_i hleap
      subst hleap
      split at h
      · rename_i hplace
        cases h
        exact .parts hascii (.leap hnano ⟨rfl, rfl⟩ hplace) hoffset
      · cases h
    · cases h
      exact .parts hascii (.plain hnano) hoffset

/-- Where the first of two steps yields something the second one goes on. -/
theorem bind_eq_of_eq_some {α β : Type} {o : Option α} {f : α → Option β} {a : α} {b? : Option β}
    (ho : o = some a) (hf : f a = b?) : o >>= f = b? := by
  rw [ho]
  exact hf

/-- A second is read with its fraction; 60 is read as a leap second where one can
stand. -/
theorem Proper.parseChars?_layout {t : Stamp} (ht : t.Proper) {separator : Char}
    {fraction offset : List Char} {second nano : Nat} (hascii : separator.toNat < 128)
    (hsecond : second ≤ 60) (hnano : SpellsNano nano fraction)
    (hoffset : SpellsOffset t.offset offset) :
    parseChars? (layout t separator (padded 2 second ++ fraction) offset) =
      if second = 60 then
        let last := { t with second := 59, nano := 999999999 }
        if last.isLeapPlace then some last else none
      else some { t with second, nano } := by
  have hyear := t.date.year_le
  have hmonth := t.date.month_le
  have hday := Nat.le_trans t.date.day_le (daysInMonth_le t.date.year t.date.month)
  have hhour := ht.hour
  have hminute := ht.minute
  have hfits : ¬ (23 < t.hour ∨ 59 < t.minute ∨ 60 < second) := by omega
  have hdate : Date.of? t.date.year t.date.month t.date.day = some t.date :=
    Date.of?_eq_some_iff.mpr ⟨rfl, rfl, rfl⟩
  have hpair : ∀ {n : Nat} (rest : List Char), n < 100 →
      number? 2 (padded 2 n ++ rest) = some (n, rest) :=
    fun rest hn => number?_padded rest Nat.two_pos hn
  rw [layout, List.append_assoc]
  refine bind_eq_of_eq_some (number?_padded _ (Nat.succ_pos 3) (by omega)) ?_
  refine bind_eq_of_eq_some (expect?_eq_some_iff.mpr rfl) ?_
  refine bind_eq_of_eq_some (hpair _ (by omega)) ?_
  refine bind_eq_of_eq_some (expect?_eq_some_iff.mpr rfl) ?_
  refine bind_eq_of_eq_some (hpair _ (by omega)) ?_
  refine bind_eq_of_eq_some (separator?_eq_some_iff.mpr ⟨separator, hascii, rfl⟩) ?_
  refine bind_eq_of_eq_some (hpair _ (by omega)) ?_
  refine bind_eq_of_eq_some (expect?_eq_some_iff.mpr rfl) ?_
  refine bind_eq_of_eq_some (hpair _ (by omega)) ?_
  refine bind_eq_of_eq_some (expect?_eq_some_iff.mpr rfl) ?_
  refine bind_eq_of_eq_some (hpair _ (by omega)) ?_
  refine bind_eq_of_eq_some (hnano.fraction?_append hoffset.head?) ?_
  refine bind_eq_of_eq_some (offset?_eq_some_iff.mpr ⟨ht.offset, hoffset⟩) ?_
  refine bind_eq_of_eq_some hdate ?_
  exact if_neg hfits

/-- A stamp is read from what spells it. -/
theorem Proper.parseChars?_of_spells {t : Stamp} (ht : t.Proper) {cs : List Char}
    (h : Spells t cs) : parseChars? cs = some t := by
  cases h with
  | parts ascii hsecond hoffset =>
      cases hsecond with
      | plain spelled =>
          have hplain : t.second ≠ 60 := fun hleap => absurd ht.second (by omega)
          rw [ht.parseChars?_layout ascii (Nat.le_succ_of_le ht.second) spelled hoffset,
            if_neg hplain]
      | leap spelled last place =>
          have hlast : { t with second := 59, nano := 999999999 } = t := by
            rw [← last.1, ← last.2]
          rw [ht.parseChars?_layout ascii (Nat.le_refl 60) spelled hoffset, if_pos rfl]
          dsimp only
          rw [hlast, if_pos place]

/-- **What is read as a stamp is what spells it.** -/
theorem parseChars?_eq_some_iff {cs : List Char} {t : Stamp} :
    parseChars? cs = some t ↔ t.Proper ∧ Spells t cs := by
  constructor
  · intro h
    obtain ⟨hhour, hminute, hsecond, hnano, hoffset⟩ := parseChars?_parts h
    exact ⟨⟨hhour, hminute, hsecond, hnano, hoffset⟩, spells_of_parseChars? h⟩
  · rintro ⟨ht, h⟩
    exact ht.parseChars?_of_spells h

theorem parse?_eq_some_iff {s : String} {t : Stamp} :
    parse? s = some t ↔ t.Proper ∧ Spells t (Text.trim s).toList :=
  parseChars?_eq_some_iff

end Docket.Stamp
