import Docket.Proofs.Settings.Repair
import Docket.Settings.Mending

/-!
# Settings in order

Every one of the settings has a condition under which it is in order. A number
is between two bounds, and the limit of the backoff has the interval while
somebody looks as its lower bound. That interval is itself repaired, and it is
the repaired one that counts. All bounds are the right way round therefore,
and the repair always has an outcome.

* `mend?_eq` — field by field, the repair has an outcome, and it is the repair
  of all settings.
* `Setting.inOrder_repair`, `Setting.repair_of_inOrder` — a repair puts every
  one of the settings in order, and what is in order it leaves alone.
* `mend?_puts_in_order` — all of this, and what the repair says about itself.
-/

namespace Docket

namespace Settings

/-- A number is between bounds that are the right way round. -/
theorem clamp?_eq {α : Type} [LT α] [LE α] [DecidableLT α] [DecidableLE α] {low high : α}
    (h : low ≤ high) (n : α) :
    clamp? low high n = some (if n < low then low else if high < n then high else n) :=
  if_pos h

/-- A number of 64 bits is brought between bounds that are the right way
round. -/
theorem bring?_eq_within {low high : UInt64} (h : low ≤ high) (usual n : UInt64) :
    bring? low high usual n = some (.of n (within low high usual n)) := by
  rw [bring?, within, clamp?_eq h]
  by_cases hzero : n = 0
  · rw [if_pos hzero, if_pos hzero]
    rfl
  · rw [if_neg hzero, if_neg hzero]
    rfl

/-- So is a number of 32 bits. -/
theorem bring?_eq_within32 {low high : UInt32} (h : low ≤ high) (usual n : UInt32) :
    bring? low high usual n = some (.of n (within32 low high usual n)) := by
  rw [bring?, within32, clamp?_eq h]
  by_cases hzero : n = 0
  · rw [if_pos hzero, if_pos hzero]
    rfl
  · rw [if_neg hzero, if_neg hzero]
    rfl

/-- A number that is not zero is not below one, so only the upper bound counts. -/
theorem within32_one (high usual n : UInt32) :
    within32 1 high usual n = if n = 0 then usual else min n high := by
  have hone : n < 1 ↔ n = 0 := by
    rw [UInt32.lt_iff_toNat_lt, ← UInt32.toNat_inj]
    exact Nat.lt_one_iff
  by_cases hzero : n = 0
  · rw [within32, if_pos hzero, if_pos hzero]
  · rw [within32, if_neg hzero, if_neg hzero, if_neg (mt hone.mp hzero)]
    apply UInt32.toNat_inj.mp
    rw [UInt32.toNat_min]
    by_cases habove : high < n
    · rw [if_pos habove]
      rw [UInt32.lt_iff_toNat_lt] at habove
      omega
    · rw [if_neg habove]
      rw [UInt32.lt_iff_toNat_lt] at habove
      omega

end Settings

open Settings

/-- What takes the place of two fields is told field by field. -/
theorem BackendSettings.mend?_eq (s : BackendSettings) : s.mend? = some (.of s s.repair) := by
  have htimeout : bring? 1 300 usualBackend.timeoutSeconds s.timeoutSeconds = _ :=
    bring?_eq_within (by decide) _ _
  simp only [mend?, htimeout, Mended.of, repair]
  cases s
  simp

theorem ActorSettings.mend_eq (s : ActorSettings) : s.mend = .of s s.repair := by
  cases s
  simp [mend, Mended.of, repair]

theorem PresenceSettings.mend?_eq (s : PresenceSettings) : s.mend? = some (.of s s.repair) := by
  have hvisible : bring? 250 60000 usualPresence.visible s.visible = _ :=
    bring?_eq_within (by decide) _ _
  have hhidden : bring? 1000 300000 usualPresence.hidden s.hidden = _ :=
    bring?_eq_within (by decide) _ _
  have hdegraded : bring? 1 20 usualPresence.degradedAfter s.degradedAfter = _ :=
    bring?_eq_within32 (by decide) _ _
  -- the lower bound of the limit is an interval that has been repaired
  have hfloor : s.repair.visible ≤ 600000 := by
    have hrange := s.inRange_repair.visible.2
    rw [UInt64.le_iff_toNat_le]
    exact Nat.le_trans hrange (by decide)
  have hlimit : bring? s.repair.visible 600000 (max usualPresence.limit s.repair.visible) s.limit =
      _ := bring?_eq_within hfloor _ _
  have hvalue : s.repair.visible = within 250 60000 usualPresence.visible s.visible := rfl
  rw [hvalue] at hlimit
  simp only [mend?, hvisible, hhidden, hdegraded, Mended.of, Option.bind_eq_bind, Option.bind_some,
    hlimit, repair]
  cases s
  simp [Bool.or_assoc]

theorem TypingSettings.mend?_eq (s : TypingSettings) : s.mend? = some (.of s s.repair) := by
  have hheartbeat : bring? 500 30000 usualTyping.heartbeat s.heartbeat = _ :=
    bring?_eq_within (by decide) _ _
  simp only [mend?, hheartbeat, Mended.of, repair]
  cases s
  simp

theorem BoardSettings.mend_eq (s : BoardSettings) : s.mend = .of s s.repair := by
  have hlimit := within32_one 1000 usualBoard.limit s.limit
  simp only [mend, Mended.of, repair, hlimit]
  cases s
  simp

theorem LoggingSettings.mend_eq (s : LoggingSettings) : s.mend = .of s s.repair := by
  obtain ⟨file?⟩ := s
  cases file? with
  | none => rfl
  | some file =>
      cases hblank : Text.isBlank file <;>
        simp [mend, Mended.of, repair, Option.filter_some, hblank]

/-- **The repair of settings field by field** has an outcome, which is the repair
of all settings, and it says whether they needed one. -/
theorem Settings.mend?_eq (s : Settings) : s.mend? = some ⟨s.repair, s.needsRepair⟩ := by
  simp only [mend?, BackendSettings.mend?_eq, ActorSettings.mend_eq, PresenceSettings.mend?_eq,
    TypingSettings.mend?_eq, BoardSettings.mend_eq, LoggingSettings.mend_eq, Mended.of, needsRepair,
    repair, Option.bind_eq_bind, Option.bind_some]
  cases s
  simp [Bool.or_assoc]

/-- One of the settings. -/
inductive Setting where
  | base
  | timeout
  | id
  | role
  | visible
  | hidden
  | limit
  | degradedAfter
  | heartbeat
  | boardLimit
  | order
  | logFile

namespace Setting

/-- What a setting holds. -/
@[reducible]
def Value : Setting → Type
  | .base | .id | .role | .order => String
  | .timeout | .visible | .hidden | .limit | .heartbeat => UInt64
  | .degradedAfter | .boardLimit => UInt32
  | .logFile => Option String

/-- What one of the settings holds. -/
def get : (f : Setting) → Settings → f.Value
  | .base, s => s.backend.base
  | .timeout, s => s.backend.timeoutSeconds
  | .id, s => s.actor.id
  | .role, s => s.actor.role
  | .visible, s => s.presence.visible
  | .hidden, s => s.presence.hidden
  | .limit, s => s.presence.limit
  | .degradedAfter, s => s.presence.degradedAfter
  | .heartbeat, s => s.typing.heartbeat
  | .boardLimit, s => s.board.limit
  | .order, s => s.board.order
  | .logFile, s => s.logging.file?

/-- When one of the settings is in order; `floor` is the interval while somebody
looks. -/
def InOrder (floor : UInt64) : (f : Setting) → f.Value → Prop
  | .base, (text : String) => text ≠ "" ∧ text.toList.getLast? ≠ some '/'
  | .timeout, (n : UInt64) => 1 ≤ n.toNat ∧ n.toNat ≤ 300
  | .id, (text : String) => Text.trim text = text
  | .role, (text : String) => ∃ role : Role, text = role.key
  | .visible, (n : UInt64) => 250 ≤ n.toNat ∧ n.toNat ≤ 60000
  | .hidden, (n : UInt64) => 1000 ≤ n.toNat ∧ n.toNat ≤ 300000
  | .limit, (n : UInt64) => floor.toNat ≤ n.toNat ∧ n.toNat ≤ 600000
  | .degradedAfter, (n : UInt32) => 1 ≤ n.toNat ∧ n.toNat ≤ 20
  | .heartbeat, (n : UInt64) => 500 ≤ n.toNat ∧ n.toNat ≤ 30000
  | .boardLimit, (n : UInt32) => 1 ≤ n.toNat ∧ n.toNat ≤ 1000
  | .order, (text : String) => ∃ order : SortOrder, text = order.key
  | .logFile, (file? : Option String) => ∀ file, file? = some file → Text.isBlank file = false

/-- Settings that hold the same throughout are the same. -/
theorem eq_of_get {s t : Settings} (h : ∀ f : Setting, f.get s = f.get t) : s = t := by
  obtain ⟨⟨_, _⟩, ⟨_, _⟩, ⟨_, _, _, _⟩, ⟨_⟩, ⟨_, _⟩, ⟨_⟩⟩ := s
  obtain ⟨⟨_, _⟩, ⟨_, _⟩, ⟨_, _, _, _⟩, ⟨_⟩, ⟨_, _⟩, ⟨_⟩⟩ := t
  have hbase := h .base
  have htimeout := h .timeout
  have hid := h .id
  have hrole := h .role
  have hvisible := h .visible
  have hhidden := h .hidden
  have hlimit := h .limit
  have hdegraded := h .degradedAfter
  have hheartbeat := h .heartbeat
  have hboard := h .boardLimit
  have horder := h .order
  have hlog := h .logFile
  simp only [get] at *
  simp only [hbase, htimeout, hid, hrole, hvisible, hhidden, hlimit, hdegraded, hheartbeat, hboard,
    horder, hlog]

/-- A plain base has no slash at its end. -/
theorem getLast?_plainBase (base : String) :
    (Http.plainBase base).toList.getLast? ≠ some '/' := by
  intro hlast
  rw [Http.toList_plainBase] at hlast
  have hne : (Text.trimChars base.toList).rdropWhile (· = '/') ≠ [] := by
    intro hnil
    rw [hnil] at hlast
    cases hlast
  have hno := List.rdropWhile_last_not _ _ hne
  rw [List.getLast?_eq_some_getLast hne] at hlast
  exact hno (decide_eq_true (Option.some.inj hlast))

/-- A trimmed base without a slash at its end is plain. -/
theorem plainBase_of_trimmed {base : String} (htrim : Text.trim base = base)
    (hlast : base.toList.getLast? ≠ some '/') : Http.plainBase base = base := by
  apply String.toList_inj.mp
  rw [Http.toList_plainBase, ← Text.toList_trim, htrim, List.rdropWhile_eq_self_iff]
  intro hne hslash
  rw [List.getLast?_eq_some_getLast hne] at hlast
  exact hlast (congrArg some (of_decide_eq_true hslash))

/-- **A repair puts every one of the settings in order.** -/
theorem inOrder_repair (f : Setting) (s : Settings) :
    f.InOrder s.repair.presence.visible (f.get s.repair) := by
  have hpresence : s.repair.presence.InRange := s.presence.inRange_repair
  cases f <;> simp only [InOrder, get]
  case base =>
    rcases s.backend.base_repair with husual | ⟨hplain, hfilled⟩
    · have hbase : s.repair.backend.base = usualBackend.base := husual
      rw [hbase]
      decide
    · have hbase : s.repair.backend.base = Http.plainBase s.backend.base := hplain
      refine ⟨hfilled, ?_⟩
      rw [hbase]
      exact getLast?_plainBase _
  case timeout =>
    simp only [Settings.repair, BackendSettings.repair, toNat_within]
    exact brought_mem (by decide) (by decide)
  case id => exact Text.trim_trim s.actor.id
  case role =>
    refine ⟨(Role.ofKey? s.actor.role).getD usualRole, ?_⟩
    simp only [Settings.repair, ActorSettings.repair]
  case visible => exact hpresence.visible
  case hidden => exact hpresence.hidden
  case limit => exact hpresence.limit
  case degradedAfter => exact hpresence.degradedAfter
  case heartbeat =>
    simp only [Settings.repair, TypingSettings.repair, toNat_within]
    exact brought_mem (by decide) (by decide)
  case boardLimit =>
    simp only [Settings.repair, BoardSettings.repair, toNat_within32]
    exact brought_mem (by decide) (by decide)
  case order =>
    refine ⟨(SortOrder.ofKey? s.board.order).getD usualOrder, ?_⟩
    simp only [Settings.repair, BoardSettings.repair]
  case logFile =>
    intro file hfile
    have hkept := (Option.filter_eq_some_iff.mp hfile).2
    simpa using hkept

/-- **A repair leaves alone what is in order**, which for the base means also
that it is trimmed. -/
theorem repair_of_inOrder {f : Setting} {s : Settings}
    (h : f.InOrder s.repair.presence.visible (f.get s))
    (hbase : f = .base → Text.trim s.backend.base = s.backend.base) :
    f.get s.repair = f.get s := by
  cases f <;> simp only [InOrder, get] at h ⊢
  case base =>
    have hplain := plainBase_of_trimmed (hbase rfl) h.2
    have hfilled : ¬ s.backend.base.isEmpty = true := by
      rw [String.isEmpty_iff]
      exact h.1
    simp only [Settings.repair, BackendSettings.repair, hplain, if_neg hfilled]
  case timeout => exact within_of_mem (by decide) h.1 h.2
  case id => exact h
  case role =>
    obtain ⟨role, hrole⟩ := h
    simp only [Settings.repair, ActorSettings.repair, hrole, Role.ofKey?_key, Option.getD_some]
  case visible => exact within_of_mem (by decide) h.1 h.2
  case hidden => exact within_of_mem (by decide) h.1 h.2
  case limit =>
    have hpos : 0 < s.repair.presence.visible.toNat :=
      Nat.lt_of_lt_of_le (by decide) s.presence.inRange_repair.visible.1
    exact within_of_mem hpos h.1 h.2
  case degradedAfter => exact within32_of_mem (by decide) h.1 h.2
  case heartbeat => exact within_of_mem (by decide) h.1 h.2
  case boardLimit => exact within32_of_mem (by decide) h.1 h.2
  case order =>
    obtain ⟨order, horder⟩ := h
    simp only [Settings.repair, BoardSettings.repair, horder, SortOrder.ofKey?_key,
      Option.getD_some]
  case logFile =>
    simp only [Settings.repair, LoggingSettings.repair]
    cases hfile : s.logging.file? with
    | none => rfl
    | some file => rw [Option.filter_some, h file hfile, Bool.not_false, if_pos rfl]

end Setting

/-- **The repair puts settings in order and says whether it changed any.** It
always has an outcome, the one that is worked with when settings are loaded.
Every one of the repaired settings is in order, where the limit of the backoff
is held against the repaired interval, and so the heartbeat is no empty one.
The repair says that it changed something exactly when one of the settings
holds something else than before. One that was in order is left alone, and the
base too if it was trimmed. -/
theorem mend?_puts_in_order (s : Settings) :
    ∃ changed, s.mend? = some ⟨s.repair, changed⟩ ∧ changed = s.needsRepair ∧
      (changed = true ↔ ∃ f : Setting, f.get s.repair ≠ f.get s) ∧
      (∀ f : Setting, f.InOrder s.repair.presence.visible (f.get s.repair)) ∧
      0 < s.repair.heartbeat ∧
      ∀ f : Setting, f.InOrder s.repair.presence.visible (f.get s) →
        (f = .base → Text.trim s.backend.base = s.backend.base) → f.get s.repair = f.get s := by
  refine ⟨s.needsRepair, s.mend?_eq, rfl, ?changed, fun f => f.inOrder_repair s, ?heartbeat,
    fun f h hbase => Setting.repair_of_inOrder h hbase⟩
  case changed =>
    rw [Settings.needsRepair, decide_eq_true_iff]
    constructor
    · intro hchanged
      by_contra hnone
      apply hchanged
      apply Setting.eq_of_get
      intro f
      by_contra hf
      exact hnone ⟨f, hf⟩
    · intro ⟨f, hf⟩ hsame
      rw [hsame] at hf
      exact hf rfl
  case heartbeat =>
    have hheartbeat := (Setting.heartbeat.inOrder_repair s).1
    simp only [Setting.get] at hheartbeat
    rw [Settings.heartbeat, Span.millis]
    omega

/-- Settings of which the base and the interval while nobody looks are in order,
and little else. -/
def wild : Settings :=
  ⟨⟨"http://h/api", 0⟩, ⟨" lawyer-7 ", "admin"⟩, ⟨18446744073709551615, 8000, 100, 0⟩, ⟨499⟩,
    ⟨4294967295, " Created_Asc"⟩, ⟨some "  "⟩⟩

/-- These two are left alone, and the limit is raised to the repaired interval. -/
theorem mend?_puts_in_order_wild :
    wild.mend? = some ⟨⟨⟨"http://h/api", 20⟩, ⟨"lawyer-7", "ADMIN"⟩, ⟨60000, 8000, 60000, 3⟩, ⟨500⟩,
        ⟨1000, "created_asc"⟩, ⟨none⟩⟩, true⟩ ∧
      (∃ f : Setting, f.get wild.repair ≠ f.get wild) ∧
      Setting.base.InOrder wild.repair.presence.visible (Setting.base.get wild) ∧
      Text.trim wild.backend.base = wild.backend.base ∧
      Setting.base.get wild.repair = Setting.base.get wild ∧
      Setting.hidden.InOrder wild.repair.presence.visible (Setting.hidden.get wild) ∧
      Setting.hidden.get wild.repair = Setting.hidden.get wild := by
  have hbase : Setting.base.InOrder wild.repair.presence.visible (Setting.base.get wild) := by
    simp only [Setting.InOrder, Setting.get]
    decide
  have htrim : Text.trim wild.backend.base = wild.backend.base := by decide
  have hhidden : Setting.hidden.InOrder wild.repair.presence.visible (Setting.hidden.get wild) := by
    simp only [Setting.InOrder, Setting.get]
    decide
  have hvalue : wild.repair = ⟨⟨"http://h/api", 20⟩, ⟨"lawyer-7", "ADMIN"⟩, ⟨60000, 8000, 60000, 3⟩,
      ⟨500⟩, ⟨1000, "created_asc"⟩, ⟨none⟩⟩ := by decide
  obtain ⟨changed, hmend, hneeds, hchanged, -, -, hkept⟩ := mend?_puts_in_order wild
  have htrue : changed = true := by
    rw [hneeds]
    decide
  refine ⟨?_, hchanged.mp htrue, hbase, htrim, hkept .base hbase fun _ => htrim, hhidden,
    hkept .hidden hhidden fun h => by cases h⟩
  rw [hmend, hvalue, htrue]

end Docket
