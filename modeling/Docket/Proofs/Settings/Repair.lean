import Docket.Proofs.Text.Blank
import Docket.Settings.Repair

/-!
# Repaired settings

A repair brings every number between its bounds and every text into its usual
spelling, and what is in order it leaves alone. One repair is therefore enough
for all of the settings but one. The base of the server is trimmed before it
loses the slashes at its end, and white space that stood before these slashes
is then at the end itself: the next repair takes it away, and with it perhaps
more slashes.

* `inRange_repair`, `repair_of_inRange` — repaired intervals are in range, and
  those in range are left alone.
* `repair_repair` — of repaired settings nothing but the base is repaired.
* `repair_repair_eq_iff` — one repair is enough exactly when the base that it
  leaves does not end in white space.
-/

namespace Docket

open Settings

namespace Settings

/-- A number brought between two bounds, of whatever width; zero takes the
usual value. -/
def brought (low high usual n : Nat) : Nat :=
  if n = 0 then usual else if n < low then low else if high < n then high else n

theorem toNat_within (low high usual n : UInt64) :
    (within low high usual n).toNat = brought low.toNat high.toNat usual.toNat n.toNat := by
  have hzero : n = 0 ↔ n.toNat = 0 := by rw [← UInt64.toNat_inj]; rfl
  simp only [within, brought, hzero, UInt64.lt_iff_toNat_lt]
  split
  · rfl
  · split
    · rfl
    · split <;> rfl

theorem toNat_within32 (low high usual n : UInt32) :
    (within32 low high usual n).toNat = brought low.toNat high.toNat usual.toNat n.toNat := by
  have hzero : n = 0 ↔ n.toNat = 0 := by rw [← UInt32.toNat_inj]; rfl
  simp only [within32, brought, hzero, UInt32.lt_iff_toNat_lt]
  split
  · rfl
  · split
    · rfl
    · split <;> rfl

variable {low high usual n : Nat}

/-- A number that was brought between two bounds is between them. -/
theorem brought_mem (hlow : low ≤ usual) (hhigh : usual ≤ high) :
    low ≤ brought low high usual n ∧ brought low high usual n ≤ high := by
  unfold brought
  split
  · exact ⟨hlow, hhigh⟩
  · split
    · exact ⟨Nat.le_refl _, Nat.le_trans hlow hhigh⟩
    · split <;> omega

/-- A number that is between two bounds stays as it is. -/
theorem brought_of_mem (hpos : 0 < low) (hlow : low ≤ n) (hhigh : n ≤ high) :
    brought low high usual n = n := by
  have hzero : n ≠ 0 := by omega
  have habove : ¬ n < low := by omega
  have hbelow : ¬ high < n := by omega
  rw [brought, if_neg hzero, if_neg habove, if_neg hbelow]

theorem within_of_mem {low high usual n : UInt64} (hpos : 0 < low.toNat)
    (hlow : low.toNat ≤ n.toNat) (hhigh : n.toNat ≤ high.toNat) : within low high usual n = n := by
  apply UInt64.toNat_inj.mp
  rw [toNat_within, brought_of_mem hpos hlow hhigh]

theorem within32_of_mem {low high usual n : UInt32} (hpos : 0 < low.toNat)
    (hlow : low.toNat ≤ n.toNat) (hhigh : n.toNat ≤ high.toNat) :
    within32 low high usual n = n := by
  apply UInt32.toNat_inj.mp
  rw [toNat_within32, brought_of_mem hpos hlow hhigh]

/-- A number is brought between its bounds at once. -/
theorem within_within (low high usual n : UInt64) (hpos : 0 < low.toNat)
    (hlow : low.toNat ≤ usual.toNat) (hhigh : usual.toNat ≤ high.toNat) :
    within low high usual (within low high usual n) = within low high usual n := by
  have hmem := brought_mem (n := n.toNat) hlow hhigh
  rw [← toNat_within] at hmem
  exact within_of_mem hpos hmem.1 hmem.2

theorem within32_within32 (low high usual n : UInt32) (hpos : 0 < low.toNat)
    (hlow : low.toNat ≤ usual.toNat) (hhigh : usual.toNat ≤ high.toNat) :
    within32 low high usual (within32 low high usual n) = within32 low high usual n := by
  have hmem := brought_mem (n := n.toNat) hlow hhigh
  rw [← toNat_within32] at hmem
  exact within32_of_mem hpos hmem.1 hmem.2

end Settings

/-- Intervals that are in range. -/
structure PresenceSettings.InRange (s : PresenceSettings) : Prop where
  visible : 250 ≤ s.visible.toNat ∧ s.visible.toNat ≤ 60000
  hidden : 1000 ≤ s.hidden.toNat ∧ s.hidden.toNat ≤ 300000
  limit : s.visible.toNat ≤ s.limit.toNat ∧ s.limit.toNat ≤ 600000
  degradedAfter : 1 ≤ s.degradedAfter.toNat ∧ s.degradedAfter.toNat ≤ 20

namespace PresenceSettings

variable {s : PresenceSettings}

/-- Repaired intervals are in range. -/
theorem inRange_repair (s : PresenceSettings) : s.repair.InRange := by
  have hvisible : 250 ≤ s.repair.visible.toNat ∧ s.repair.visible.toNat ≤ 60000 := by
    rw [repair, toNat_within]
    exact brought_mem (by decide) (by decide)
  constructor
  case visible => exact hvisible
  case hidden =>
    rw [repair, toNat_within]
    exact brought_mem (by decide) (by decide)
  case limit =>
    have husual : usualPresence.limit.toNat = 30000 := rfl
    have hhigh : (600000 : UInt64).toNat = 600000 := rfl
    have hlimit : s.repair.limit =
        within s.repair.visible 600000 (max usualPresence.limit s.repair.visible) s.limit := rfl
    rw [hlimit, toNat_within, UInt64.toNat_max, husual, hhigh]
    exact brought_mem (by omega) (by omega)
  case degradedAfter =>
    rw [repair, toNat_within32]
    exact brought_mem (by decide) (by decide)

/-- Intervals that are in range stay as they are. -/
theorem repair_of_inRange (h : s.InRange) : s.repair = s := by
  have hvisible : within 250 60000 usualPresence.visible s.visible = s.visible :=
    within_of_mem (by decide) h.visible.1 h.visible.2
  have hhidden : within 1000 300000 usualPresence.hidden s.hidden = s.hidden :=
    within_of_mem (by decide) h.hidden.1 h.hidden.2
  have hpos : 0 < s.visible.toNat := Nat.lt_of_lt_of_le (by decide) h.visible.1
  have hlimit : within s.visible 600000 (max usualPresence.limit s.visible) s.limit = s.limit :=
    within_of_mem hpos h.limit.1 h.limit.2
  have hdegraded : within32 1 20 usualPresence.degradedAfter s.degradedAfter = s.degradedAfter :=
    within32_of_mem (by decide) h.degradedAfter.1 h.degradedAfter.2
  rw [repair, hvisible, hhidden, hlimit, hdegraded]

end PresenceSettings

/-- One repair of intervals is enough. -/
theorem PresenceSettings.repair_repair (s : PresenceSettings) : s.repair.repair = s.repair :=
  repair_of_inRange s.inRange_repair

@[simp] theorem Role.ofKey?_key (role : Role) : Role.ofKey? role.key = some role := by
  cases role <;> decide

/-- One repair of the actor is enough. -/
theorem ActorSettings.repair_repair (s : ActorSettings) : s.repair.repair = s.repair := by
  simp only [repair, Text.trim_trim, Role.ofKey?_key, Option.getD_some]

/-- One repair of the heartbeat is enough. -/
theorem TypingSettings.repair_repair (s : TypingSettings) : s.repair.repair = s.repair := by
  have hheartbeat := within_within 500 30000 usualTyping.heartbeat s.heartbeat
    (by decide) (by decide) (by decide)
  simp only [repair, hheartbeat]

/-- One repair of the board is enough. -/
theorem BoardSettings.repair_repair (s : BoardSettings) : s.repair.repair = s.repair := by
  have hlimit := within32_within32 1 1000 usualBoard.limit s.limit
    (by decide) (by decide) (by decide)
  simp only [repair, hlimit, SortOrder.ofKey?_key, Option.getD_some]

/-- One repair of the log is enough. -/
theorem LoggingSettings.repair_repair (s : LoggingSettings) : s.repair.repair = s.repair := by
  simp only [repair, Option.filter_filter, Bool.and_self]

/-- The text ends in white space. -/
def Text.EndsBlank (s : String) : Prop :=
  ∃ c, s.toList.getLast? = some c ∧ Text.isSpace c = true

instance (s : String) : Decidable (Text.EndsBlank s) :=
  decidable_of_iff (s.toList.getLast?.any Text.isSpace = true) (by
    unfold Text.EndsBlank
    cases s.toList.getLast? <;> simp)

/-- A text ends in white space exactly when something is trimmed at its end. -/
theorem Text.rdropWhile_isSpace_eq_self_iff {s : String} :
    s.toList.rdropWhile isSpace = s.toList ↔ ¬ EndsBlank s := by
  rw [List.rdropWhile_eq_self_iff, EndsBlank]
  constructor
  · rintro h ⟨c, hlast, hspace⟩
    have hne : s.toList ≠ [] := by
      intro hnil
      rw [hnil] at hlast
      cases hlast
    rw [List.getLast?_eq_some_getLast hne] at hlast
    apply h hne
    rw [Option.some.inj hlast]
    exact hspace
  · intro h hne hspace
    exact h ⟨_, List.getLast?_eq_some_getLast hne, hspace⟩

namespace Http

theorem toList_plainBase (base : String) :
    (plainBase base).toList = (Text.trimChars base.toList).rdropWhile (· = '/') := by
  rw [plainBase, String.toList_ofList, Text.toList_trim]
  rfl

/-- A plain base does not begin with white space. -/
theorem dropWhile_plainBase (base : String) :
    (plainBase base).toList.dropWhile Text.isSpace = (plainBase base).toList := by
  rw [toList_plainBase]
  exact Text.dropWhile_eq_self_of_prefix (List.rdropWhile_prefix _ _)
    (Text.dropWhile_trimChars base.toList)

/-- What is left of a plain base when it is made plain once more. -/
theorem toList_plainBase_plainBase (base : String) :
    (plainBase (plainBase base)).toList
      = ((plainBase base).toList.rdropWhile Text.isSpace).rdropWhile (· = '/') := by
  rw [toList_plainBase, Text.trimChars_eq_rdropWhile, dropWhile_plainBase]

/-- A plain base stays as it is unless it ends in white space. -/
theorem plainBase_plainBase_iff (base : String) :
    plainBase (plainBase base) = plainBase base ↔ ¬ Text.EndsBlank (plainBase base) := by
  rw [← Text.rdropWhile_isSpace_eq_self_iff, ← String.toList_inj, toList_plainBase_plainBase]
  constructor
  · intro h
    have htrimmed := List.rdropWhile_prefix Text.isSpace (plainBase base).toList
    have hslashes := List.rdropWhile_prefix (· = '/')
      ((plainBase base).toList.rdropWhile Text.isSpace)
    rw [h] at hslashes
    exact htrimmed.eq_of_length_le hslashes.length_le
  · intro h
    rw [h, toList_plainBase]
    exact List.rdropWhile_idempotent _ _

end Http

namespace BackendSettings

variable {s : BackendSettings}

/-- A repaired base is the usual one or a plain one. -/
theorem base_repair (s : BackendSettings) :
    s.repair.base = usualBackend.base ∨
      s.repair.base = Http.plainBase s.base ∧ s.repair.base ≠ "" := by
  by_cases hempty : (Http.plainBase s.base).isEmpty = true
  · left
    simp only [repair, if_pos hempty]
  · right
    have hbase : s.repair.base = Http.plainBase s.base := by
      simp only [repair, if_neg hempty]
    refine ⟨hbase, ?_⟩
    intro hnone
    rw [← hbase, hnone] at hempty
    exact hempty rfl

/-- A repaired base stays as it is unless it ends in white space. -/
theorem base_repair_repair_iff (s : BackendSettings) :
    s.repair.repair.base = s.repair.base ↔ ¬ Text.EndsBlank s.repair.base := by
  have husual : ¬ Text.EndsBlank usualBackend.base := by decide
  rcases base_repair s with h | ⟨h, hfilled⟩
  · have hplain : Http.plainBase usualBackend.base = usualBackend.base := by decide
    have hbase : s.repair.repair.base = usualBackend.base := by
      rw [repair]
      simp only [h, hplain]
      rfl
    rw [h]
    exact iff_of_true hbase husual
  · constructor
    · intro hsame hblank
      rcases base_repair s.repair with hagain | ⟨hagain, -⟩
      · -- the usual base is no remnant of this one, since it does not end in white space
        rw [← hsame, hagain] at hblank
        exact husual hblank
      · rw [hsame, h, eq_comm, Http.plainBase_plainBase_iff, ← h] at hagain
        exact hagain hblank
    · intro hblank
      rw [h, ← Http.plainBase_plainBase_iff, ← h] at hblank
      have hnonempty : ¬ s.repair.base.isEmpty = true := by
        rwa [String.isEmpty_iff]
      rw [repair]
      simp only [hblank, if_neg hnonempty]

/-- Of a repaired server nothing but the base is repaired. -/
theorem repair_repair (s : BackendSettings) :
    s.repair.repair = { s.repair with base := s.repair.repair.base } := by
  have htimeout := within_within 1 300 usualBackend.timeoutSeconds s.timeoutSeconds
    (by decide) (by decide) (by decide)
  simp only [repair, htimeout]

end BackendSettings

namespace Settings

/-- Of repaired settings nothing but the base is repaired. -/
theorem repair_repair (s : Settings) :
    s.repair.repair =
      { s.repair with backend := { s.repair.backend with base := s.repair.repair.backend.base } } := by
  have hbackend : s.repair.repair.backend =
      { s.repair.backend with base := s.repair.repair.backend.base } := s.backend.repair_repair
  have hrest : s.repair.repair = { s.repair with backend := s.repair.repair.backend } := by
    simp only [repair, ActorSettings.repair_repair, PresenceSettings.repair_repair,
      TypingSettings.repair_repair, BoardSettings.repair_repair, LoggingSettings.repair_repair]
  rw [hrest]
  exact congrArg (fun backend => { s.repair with backend }) hbackend

/-- **One repair is enough** exactly when it leaves no white space at the end
of the base. -/
theorem repair_repair_eq_iff (s : Settings) :
    s.repair.repair = s.repair ↔ ¬ Text.EndsBlank s.repair.backend.base := by
  have hbase : s.repair.repair.backend.base = s.repair.backend.base ↔
      ¬ Text.EndsBlank s.repair.backend.base := s.backend.base_repair_repair_iff
  rw [← hbase]
  constructor
  · intro h
    rw [h]
  · intro h
    rw [repair_repair, h]

end Settings

end Docket
