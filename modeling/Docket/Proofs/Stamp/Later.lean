import Docket.Proofs.Stamp.Writing

/-!
# Later stamps

A stamp some seconds later is the stamp of the moment that many seconds later,
at the same distance from UTC. There is one until the calendar ends where the
stamp was written down. The seconds of hours that 32 bits can say have room in a
word of 64 bits.

* `toInt_secondsOfHours` — the seconds of hours.
* `addSeconds?_eq_none_iff`, `isLater_of_addSeconds?` — when there is a later
  stamp, and which one it is.
-/

namespace Docket.Stamp

/-- The seconds of the calendar, from the beginning of the year 0 to the end of
the year 9999. -/
def calendarSeconds : Nat :=
  daysBeforeYear 10000 * 86400

/-- After the last second of the year 9999 the calendar has ended. -/
example : localSeconds ⟨⟨9999, 12, 31, by decide, by decide, by decide⟩, 23, 59, 59, 0, 0⟩ + 1 =
    calendarSeconds := by
  decide +kernel

/-- One stamp of the calendar lies so many seconds after another, at the same
distance from UTC. -/
structure IsLater (t : Stamp) (seconds : Nat) (due : Stamp) : Prop where
  proper : due.Proper
  offset : due.offset = t.offset
  instant : due.instant = t.instant + seconds * 1000000000

/-- A word of 64 bits holds the seconds of any hours that 32 bits can say. -/
theorem toInt_secondsOfHours (hours : UInt32) :
    (secondsOfHours hours).toInt = (3600 * hours.toNat : Nat) := by
  have hlt : hours.toNat < 4294967296 := hours.toNat_lt
  have hword : (Int64.ofNat hours.toNat).toInt = hours.toNat := Int64.toInt_ofNat_of_lt (by omega)
  have hhour : (3600 : Int64).toInt = 3600 := rfl
  rw [secondsOfHours, Int64.toInt_mul, hword, hhour, Int.bmod_eq_of_le (by omega) (by omega)]
  omega

variable {t due : Stamp} {seconds : Int64} {n : Nat}

/-- The days of the later local time are a date, the rest is its time of day. -/
theorem addSeconds?_eq (hn : seconds.toInt = n) :
    t.addSeconds? seconds = (Date.ofNumber? ((t.localSeconds + n) / 86400)).map fun date =>
      { t with
        date
        hour := (t.localSeconds + n) % 86400 / 3600
        minute := (t.localSeconds + n) % 86400 / 60 % 60
        second := (t.localSeconds + n) % 86400 % 60 } := by
  have hpos : ¬ (t.localSeconds + n : Int) < 0 := by omega
  have hday : ((t.localSeconds + n : Int) / 86400).toNat = (t.localSeconds + n) / 86400 := by omega
  have hclock : ((t.localSeconds + n : Int) % 86400).toNat = (t.localSeconds + n) % 86400 := by
    omega
  unfold addSeconds?
  dsimp only
  rw [hn, if_neg hpos, hday, hclock]
  cases Date.ofNumber? ((t.localSeconds + n) / 86400) <;> rfl

/-- There is no later stamp exactly when the calendar has ended by then. -/
theorem addSeconds?_eq_none_iff (hn : seconds.toInt = n) :
    t.addSeconds? seconds = none ↔ calendarSeconds ≤ t.localSeconds + n := by
  rw [addSeconds?_eq hn, Option.map_eq_none_iff, Date.ofNumber?_eq_none_iff]
  unfold calendarSeconds
  omega

/-- A later stamp lies the seconds later, where the stamp was written down. -/
theorem isLater_of_addSeconds? (ht : t.Proper) (hn : seconds.toInt = n)
    (h : t.addSeconds? seconds = some due) : t.IsLater n due := by
  rw [addSeconds?_eq hn, Option.map_eq_some_iff] at h
  obtain ⟨date, hdate, rfl⟩ := h
  rw [Date.ofNumber?_eq_some_iff] at hdate
  refine ⟨⟨?_, ?_, ?_, ht.nano, ht.offset⟩, rfl, ?_⟩
  · dsimp only
    omega
  · dsimp only
    omega
  · dsimp only
    omega
  · unfold instant
    generalize hthen : t.localSeconds + n = total at hdate
    have hlocal : ((date.number * 24 + total % 86400 / 3600) * 60 + total % 86400 / 60 % 60) * 60 +
        total % 86400 % 60 = total := by
      omega
    unfold localSeconds at hthen ⊢
    dsimp only
    omega

end Docket.Stamp
