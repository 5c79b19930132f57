import Docket.Proofs.Text.Lowercase
import Docket.Proofs.Workflow.Checked
import Docket.Sheet.Basic

/-!
# What an edge asks for

An edge may be taken when all the data it asks for is filled and all the kinds
of files it asks for are attached. Keys are compared without their case and the
white space around them, and so are the types of files, which may also be asked
for by a pattern. The check looks for each demand by itself: it tells exactly
those that are not met, and more data or more files never make it fail.

A row of requested data that comes from the catalog goes by its identity, which
is its key in lower case already. That makes no difference to the check.

* `typeMeets_iff` — which file types meet a pattern.
* `unmetOf_eq_nil_iff`, `AllMet.mono` — when nothing is left to ask for, and that
  it stays so.
* `keyFilled_of_identity` — rows meet the demand for their key.
* `check_tells_unmet_demands` — all of this about the check of an edge.
-/

namespace Docket

namespace Graph

/-- A file type, or a pattern of types, without its case and the white space
around it. -/
def plainType (type : String) : String :=
  Text.asciiLower (Text.trim type)

/-- The ways in which a file type meets a pattern. -/
inductive TypeMeets (pattern type : String) : Prop
  /-- The pattern is met by any file. -/
  | any (anything : plainType pattern = "*" ∨ plainType pattern = "*/*")
  /-- The pattern is met by all types of a kind, which stands before the first
  slash. -/
  | kind (kind rest : String) (asked : plainType pattern = kind ++ "/*")
      (first : '/' ∉ kind.toList) (given : plainType type = kind ++ "/" ++ rest)
  /-- Any other pattern is met by itself. -/
  | same (plain : ∀ kind, plainType pattern ≠ kind ++ "/*")
      (equal : plainType pattern = plainType type)

/-- Characters begin with these and a slash behind them, the first one, if that
is what stands before their first slash. -/
theorem takeWhile_slash_iff {cs kind : List Char} :
    ('/' ∈ cs ∧ cs.takeWhile (· ≠ '/') = kind) ↔
      '/' ∉ kind ∧ ∃ rest, cs = kind ++ '/' :: rest := by
  constructor
  · rintro ⟨hslash, rfl⟩
    refine ⟨?_, ?_⟩
    · intro hmem
      simpa using List.mem_takeWhile_imp hmem
    · have hsplit :=
        List.takeWhile_append_dropWhile (p := fun c : Char => decide (c ≠ '/')) (l := cs)
      cases hrest : cs.dropWhile (· ≠ '/') with
      | nil =>
          rw [List.dropWhile_eq_nil_iff] at hrest
          simpa using hrest '/' hslash
      | cons c rest =>
          have hc : c = '/' := by
            have hhead := List.head?_dropWhile_not (fun c : Char => decide (c ≠ '/')) cs
            rw [hrest] at hhead
            simpa using hhead
          rw [hrest, hc] at hsplit
          exact ⟨rest, hsplit.symm⟩
  · rintro ⟨hkind, rest, rfl⟩
    refine ⟨by simp, ?_⟩
    rw [List.takeWhile_append_of_pos, List.takeWhile_cons_of_neg, List.append_nil]
    · simp
    · intro c hc
      have hne : c ≠ '/' := fun heq => hkind (heq ▸ hc)
      simpa using hne

/-- How the characters of a pattern end that asks for a kind. -/
theorem reverse_plainType_iff {pattern : String} {kind : List Char} :
    (plainType pattern).toList.reverse = '*' :: '/' :: kind ↔
      plainType pattern = String.ofList kind.reverse ++ "/*" := by
  rw [← String.toList_inj, String.toList_append, String.toList_ofList, List.reverse_eq_iff]
  simp

/-- A type is of a kind when its characters before the first slash are. -/
theorem plainType_of_kind_iff {type : String} {kind : List Char} :
    ('/' ∈ (plainType type).toList ∧ (plainType type).toList.takeWhile (· ≠ '/') = kind) ↔
      '/' ∉ kind ∧ ∃ rest, plainType type = String.ofList kind ++ "/" ++ rest := by
  rw [takeWhile_slash_iff]
  refine and_congr_right fun _ => ?_
  constructor
  · rintro ⟨rest, hrest⟩
    refine ⟨String.ofList rest, ?_⟩
    rw [← String.toList_inj, hrest]
    simp
  · rintro ⟨rest, hrest⟩
    refine ⟨rest.toList, ?_⟩
    rw [hrest]
    simp

/-- The check for a file type knows these ways and no others. -/
theorem typeMeets_iff {pattern type : String} :
    typeMeets pattern type = true ↔ TypeMeets pattern type := by
  have hchars : (plainType pattern).toList = ['*'] ∨ (plainType pattern).toList = ['*', '/', '*'] ↔
      plainType pattern = "*" ∨ plainType pattern = "*/*" := by
    rw [← String.toList_inj, ← String.toList_inj]
    rfl
  unfold typeMeets
  dsimp only
  rw [← plainType, ← plainType]
  by_cases hany : plainType pattern = "*" ∨ plainType pattern = "*/*"
  · rw [if_pos (hchars.mpr hany)]
    exact iff_of_true rfl (.any hany)
  · rw [if_neg (fun h => hany (hchars.mp h))]
    split
    next kind hkind =>
      have hasked := reverse_plainType_iff.mp hkind
      rw [Bool.and_eq_true, List.contains_iff_mem, beq_iff_eq, plainType_of_kind_iff]
      constructor
      · rintro ⟨hfirst, rest, hgiven⟩
        exact .kind (String.ofList kind.reverse) rest hasked (by simpa using hfirst) hgiven
      · intro hmeets
        cases hmeets with
        | any anything => exact absurd anything hany
        | kind kind' rest asked first given =>
            have hsame : String.ofList kind.reverse = kind' :=
              String.append_left_inj _ |>.mp (hasked.symm.trans asked)
            rw [hsame]
            exact ⟨by rw [← hsame] at first; simpa using first, rest, given⟩
        | same plain => exact absurd hasked (plain _)
    next hplain =>
      rw [beq_iff_eq, String.toList_inj]
      have hnone : ∀ kind, plainType pattern ≠ kind ++ "/*" := by
        intro kind hkind
        refine hplain kind.toList.reverse (reverse_plainType_iff.mpr ?_)
        rw [hkind, List.reverse_reverse, String.ofList_toList]
      constructor
      · exact fun hequal => .same hnone hequal
      · intro hmeets
        cases hmeets with
        | any anything => exact absurd anything hany
        | kind kind rest asked => exact absurd asked (hnone kind)
        | same plain equal => exact equal

instance (pattern type : String) : Decidable (TypeMeets pattern type) :=
  decidable_of_iff _ typeMeets_iff

/-- One of the filled keys is the key that is asked for. -/
def KeyFilled (filled : List String) (key : String) : Prop :=
  ∃ given ∈ filled, plainKey given = plainKey key

instance (filled : List String) : DecidablePred (KeyFilled filled) :=
  fun key => inferInstanceAs (Decidable (∃ given ∈ filled, plainKey given = plainKey key))

/-- One of the files is of a type that is asked for. -/
def TypeAttached (types : List String) (pattern : String) : Prop :=
  ∃ given ∈ types, TypeMeets pattern given

instance (types : List String) : DecidablePred (TypeAttached types) :=
  fun pattern => inferInstanceAs (Decidable (∃ given ∈ types, TypeMeets pattern given))

/-- All demands are met. A blank one asks for nothing. -/
def AllMet (met : String → Prop) (demands : List String) : Prop :=
  ∀ demand ∈ demands, Text.isBlank demand = false → met demand

instance (met : String → Prop) [DecidablePred met] (demands : List String) :
    Decidable (AllMet met demands) :=
  inferInstanceAs (Decidable (∀ demand ∈ demands, _ → met demand))

/-- The demands that are not met, trimmed, in their order. -/
def unmetOf (met : String → Prop) [DecidablePred met] (demands : List String) : List String :=
  (demands.filter fun demand => Text.isBlank demand = false ∧ ¬ met demand).map Text.trim

theorem unmetOf_eq_nil_iff {met : String → Prop} [DecidablePred met] {demands : List String} :
    unmetOf met demands = [] ↔ AllMet met demands := by
  simp [unmetOf, AllMet]

/-- What meets more meets all demands that were met. -/
theorem AllMet.mono {met met' : String → Prop} {demands : List String} (h : AllMet met demands)
    (hmore : ∀ demand, met demand → met' demand) : AllMet met' demands := by
  intro demand hdemand hblank
  exact hmore demand (h demand hdemand hblank)

theorem KeyFilled.mono {filled filled' : List String} {key : String} (h : KeyFilled filled key)
    (hmore : filled ⊆ filled') : KeyFilled filled' key := by
  obtain ⟨given, hgiven, hsame⟩ := h
  exact ⟨given, hmore hgiven, hsame⟩

theorem TypeAttached.mono {types types' : List String} {pattern : String}
    (h : TypeAttached types pattern) (hmore : types ⊆ types') : TypeAttached types' pattern := by
  obtain ⟨given, hgiven, hmeets⟩ := h
  exact ⟨given, hmore hgiven, hmeets⟩

theorem missingKeys_eq (e : Edge) (filled : List String) :
    missingKeys e filled = unmetOf (KeyFilled filled) e.requiredKeys := by
  unfold missingKeys unmetOf
  congr 1
  refine List.filter_congr fun key _ => ?_
  have hfilled : (filled.map plainKey).contains (plainKey key) = decide (KeyFilled filled key) := by
    rw [Bool.eq_iff_iff, List.contains_iff_mem, List.mem_map, decide_eq_true_eq]
    rfl
  rw [hfilled]
  simp

theorem unmetTypes_eq (e : Edge) (types : List String) :
    unmetTypes e types = unmetOf (TypeAttached types) e.requiredTypes := by
  unfold unmetTypes unmetOf
  congr 1
  refine List.filter_congr fun pattern _ => ?_
  have hattached : types.any (typeMeets pattern) = decide (TypeAttached types pattern) := by
    rw [Bool.eq_iff_iff, List.any_eq_true, decide_eq_true_eq]
    exact exists_congr fun given => and_congr_right fun _ => typeMeets_iff
  rw [hattached]
  simp

/-- The check of an edge looks at its demands, one by one. -/
theorem checkRequirements_of_edge {g : Graph} {source target : StatusCode} {e : Edge}
    (hedge : g.edge? source target = some e) (filled types : List String) :
    g.checkRequirements source target filled types =
      if AllMet (KeyFilled filled) e.requiredKeys ∧ AllMet (TypeAttached types) e.requiredTypes
      then .ok ()
      else .error (.invalid (.unmet source target (unmetOf (KeyFilled filled) e.requiredKeys)
        (unmetOf (TypeAttached types) e.requiredTypes))) := by
  rw [checkRequirements, hedge]
  simp only [missingKeys_eq, unmetTypes_eq, Bool.and_eq_true, List.isEmpty_iff,
    unmetOf_eq_nil_iff]

/-- A key that is plain already stays as it is. -/
theorem plainKey_plainKey (key : String) : plainKey (plainKey key) = plainKey key := by
  unfold plainKey
  rw [Text.trim_lowercase_trim, Text.lowercase_lowercase]

/-- A row that comes from the catalog goes by its plain key. -/
theorem identity_of_catalogKey {row : Row} {key : String} (hkey : row.catalogKey? = some key)
    (hfilled : Text.isBlank key = false) : row.identity = plainKey key := by
  have hread : row.catalogKey?.bind Text.filled? = some (Text.trim key) := by
    rw [hkey, Option.bind_some, Text.filled?, hfilled]
    rfl
  rw [Row.identity, hread]
  rfl

/-- A row that goes by its identity meets the demand for its key. -/
theorem keyFilled_of_identity {row : Row} {own key : String} {filled : List String}
    (hown : row.catalogKey? = some own) (hfilled : Text.isBlank own = false)
    (hsame : plainKey own = plainKey key) (hgiven : row.identity ∈ filled) :
    KeyFilled filled key := by
  refine ⟨row.identity, hgiven, ?_⟩
  rw [identity_of_catalogKey hown hfilled, plainKey_plainKey, hsame]

/-- **The check of an edge tells exactly the demands that are not met.** Let an
enabled edge be on record. Its check passes when every key it asks for is among
the filled ones and every type it asks for is met by a file. Otherwise it tells
the keys and types for which that is not so, and its words name them. A check
that passes goes on to pass with more data and files, in any order. A row from
the catalog meets the demand for its key by its identity. -/
theorem check_tells_unmet_demands {topic : TopicCode} {statuses : List Status}
    {edges : List Edge} {g : Graph} (hbuild : build topic statuses edges = .ok g) {e : Edge}
    (he : e ∈ edges) (henabled : e.enabled = true) :
    let check := g.checkRequirements e.source e.target
    let passes := fun filled types =>
      AllMet (KeyFilled filled) e.requiredKeys ∧ AllMet (TypeAttached types) e.requiredTypes
    (∀ filled types, check filled types = .ok () ↔ passes filled types) ∧
      (∀ filled types, ¬ passes filled types →
        let keys := unmetOf (KeyFilled filled) e.requiredKeys
        let patterns := unmetOf (TypeAttached types) e.requiredTypes
        check filled types = .error (.invalid (.unmet e.source e.target keys patterns)) ∧
          (Failure.invalid (.unmet e.source e.target keys patterns)).message =
            "validation failed: " ++ (e.source.text ++ " -> " ++ e.target.text ++ " requires " ++
              String.intercalate "; " (Fault.demands keys patterns))) ∧
      (∀ filled filled' types types', filled ⊆ filled' → types ⊆ types' →
        check filled types = .ok () → check filled' types' = .ok ()) ∧
      ∀ (row : Row) (own key : String) (filled : List String), row.catalogKey? = some own →
        Text.isBlank own = false → plainKey own = plainKey key → row.identity ∈ filled →
        KeyFilled filled key := by
  intro check passes
  have hedge : g.edge? e.source e.target = some e :=
    (edge?_eq_some_iff hbuild).mpr ⟨he, henabled, rfl, rfl⟩
  have hpasses : ∀ filled types, check filled types = .ok () ↔ passes filled types := by
    intro filled types
    show g.checkRequirements e.source e.target filled types = .ok () ↔ _
    rw [checkRequirements_of_edge hedge]
    split
    next h => exact iff_of_true rfl h
    next h => exact iff_of_false (fun hok => nomatch hok) h
  refine ⟨hpasses, ?_, ?_, fun row own key filled => keyFilled_of_identity⟩
  · intro filled types hunmet
    exact ⟨(checkRequirements_of_edge hedge filled types).trans (if_neg hunmet), rfl⟩
  · intro filled filled' types types' hfilled htypes hok
    obtain ⟨hkeys, hpatterns⟩ := (hpasses filled types).mp hok
    refine (hpasses filled' types').mpr ⟨hkeys.mono ?_, hpatterns.mono ?_⟩
    · exact fun key hkey => hkey.mono hfilled
    · exact fun pattern hpattern => hpattern.mono htypes

/-- A new petition with a scan but without the passport and its picture may not
be reviewed yet, and both are told. -/
theorem check_tells_unmet_of_new_petition :
    ∃ g, build ⟨"PETITION"⟩ petitionStatuses petitionEdges = .ok g ∧
      g.checkRequirements ⟨"NEW"⟩ ⟨"REVIEW"⟩ ["income"] [" APPLICATION/PDF", "text/*"] =
        .error (.invalid (.unmet ⟨"NEW"⟩ ⟨"REVIEW"⟩ ["Passport"] ["Image/*"])) ∧
      g.checkRequirements ⟨"NEW"⟩ ⟨"REVIEW"⟩ ["PASSPORT "] ["image/png", "Application/pdf"] =
        .ok () := by
  obtain ⟨g, hbuild, -⟩ := exists_build_petition
  obtain ⟨hpasses, htells, -⟩ :=
    check_tells_unmet_demands hbuild (e := petitionEdges.head (List.cons_ne_nil _ _))
      (List.head_mem _) rfl
  refine ⟨g, hbuild, ?_, (hpasses ["PASSPORT "] ["image/png", "Application/pdf"]).mpr ?_⟩
  · have hkeys : unmetOf (KeyFilled ["income"]) ["Passport", " "] = ["Passport"] := by
      decide +kernel
    have hpatterns : unmetOf (TypeAttached [" APPLICATION/PDF", "text/*"])
        ["application/pdf", "Image/*"] = ["Image/*"] := by
      decide +kernel
    obtain ⟨hcheck, -⟩ := htells ["income"] [" APPLICATION/PDF", "text/*"] (by decide +kernel)
    rw [← hkeys, ← hpatterns]
    exact hcheck
  · decide +kernel

end Graph

end Docket
