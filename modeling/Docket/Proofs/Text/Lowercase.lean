import Docket.Proofs.Text.Blank
import Docket.Text.Lowercase

/-!
# Text that is in lower case

A lower-case form has no other one, and it is never white space. So text that
has been put in lower case stays as it is when that is done again, and there is
nothing more to trim if it was trimmed before.

Main statements: `lowercase_lowercase`; `trim_lowercase_trim`.
-/

namespace Docket.Text

namespace CaseRun

/-- The lower-case form of the first character of a run. -/
def low (r : CaseRun) : Nat :=
  (r.first + r.shift).toNat

/-- The lower-case form of the last character of a run. -/
def high (r : CaseRun) : Nat :=
  (r.last + r.shift).toNat

/-- The run takes the character at this code point. -/
def Takes (r : CaseRun) (n : Nat) : Prop :=
  r.first ≤ n ∧ n ≤ r.last ∧ (n - r.first) % r.stride = 0

/-- All lower-case forms of the run lie outside the range. -/
def avoids (r : CaseRun) (range : Nat × Nat) : Bool :=
  r.high < range.1 || range.2 < r.low

/-- No lower-case form of the run is taken by the other run: the two lie apart,
or one steps over what the other has. -/
def misses (r other : CaseRun) : Bool :=
  r.avoids (other.first, other.last) ||
    other.stride == 2 && (r.stride == 2 || r.low == r.high) && (r.low + other.first) % 2 == 1

/-- The code points of white space, of the dotted capital I, and of no character
at all. -/
def strange : List (Nat × Nat) :=
  [(9, 13), (0x20, 0x20), (0x85, 0x85), (0xA0, 0xA0), (0x130, 0x130), (0x1680, 0x1680),
    (0x2000, 0x200A), (0x2028, 0x2029), (0x202F, 0x202F), (0x205F, 0x205F), (0x3000, 0x3000),
    (0xD800, 0xDFFF)]

/-- The lower-case forms of the run are characters that no run takes. -/
def lands (r : CaseRun) : Bool :=
  0 ≤ r.first + r.shift && r.high < 0x110000 && strange.all r.avoids && caseRuns.all r.misses

/-- Every run lands on lower-case forms. -/
theorem lands_of_mem {r : CaseRun} (h : r ∈ caseRuns) : r.lands = true := by
  have hall : caseRuns.all lands = true := by decide +kernel
  exact List.all_eq_true.mp hall r h

variable {r other : CaseRun} {n : Nat}

/-- The lower-case forms of a run go in the same steps as its characters. -/
theorem Takes.form (h : r.Takes n) (hlow : 0 ≤ r.first + r.shift) :
    r.low ≤ (n + r.shift).toNat ∧ (n + r.shift).toNat ≤ r.high ∧
      (n + r.shift).toNat - r.low = n - r.first := by
  unfold Takes at h
  unfold low high
  omega

theorem not_mem_of_avoids {range : Nat × Nat} (h : r.avoids range = true) (htakes : r.Takes n)
    (hlow : 0 ≤ r.first + r.shift) :
    (n + r.shift).toNat < range.1 ∨ range.2 < (n + r.shift).toNat := by
  have hform := htakes.form hlow
  simp only [avoids, Bool.or_eq_true, decide_eq_true_eq] at h
  omega

/-- A run does not take the lower-case forms of a run that misses it. -/
theorem not_takes_of_misses (h : r.misses other = true) (htakes : r.Takes n)
    (hlow : 0 ≤ r.first + r.shift) : ¬ other.Takes (n + r.shift).toNat := by
  have hform := htakes.form hlow
  intro hother
  unfold Takes at hother htakes
  simp only [misses, Bool.or_eq_true, Bool.and_eq_true, beq_iff_eq] at h
  rcases h with havoids | ⟨⟨hstep, hsame⟩, hodd⟩
  · have hout := not_mem_of_avoids havoids htakes hlow
    simp only at hout
    omega
  · rw [hstep] at hother
    rcases hsame with htwo | hone
    · rw [htwo] at htakes
      omega
    · omega

end CaseRun

/-- No rule takes the character any further. -/
def IsLower (c : Char) : Prop :=
  c.toNat ≠ 0x130 ∧ ∀ r ∈ caseRuns, ¬ r.Takes c.toNat

instance (c : Char) : Decidable (IsLower c) :=
  inferInstanceAs (Decidable (_ ∧ ∀ r ∈ caseRuns, ¬ (_ ∧ _ ∧ _)))

theorem IsLower.ne_sigma {c : Char} (h : IsLower c) : c ≠ 'Σ' := by
  intro hsigma
  rw [hsigma] at h
  exact absurd h (by decide +kernel)

/-- The three ways in which a character comes to its lower-case form. -/
theorem lowerChar_cases (c : Char) :
    lowerChar c = ['i', '\u0307'] ∨ lowerChar c = [c] ∧ IsLower c ∨
      ∃ r ∈ caseRuns, r.Takes c.toNat ∧ lowerChar c = [Char.ofNat (c.toNat + r.shift).toNat] := by
  unfold lowerChar
  by_cases hdotted : c.toNat = 0x130
  · exact Or.inl (if_pos hdotted)
  · rw [if_neg hdotted]
    refine Or.inr ?_
    split
    next r hfind =>
      have htakes := List.find?_some hfind
      simp only [Bool.and_eq_true, decide_eq_true_eq, beq_iff_eq] at htakes
      exact Or.inr ⟨r, List.mem_of_find?_eq_some hfind, ⟨htakes.1.1, htakes.1.2, htakes.2⟩, rfl⟩
    next hfind =>
      refine Or.inl ⟨rfl, hdotted, ?_⟩
      intro r hr htakes
      have hnone := List.find?_eq_none.mp hfind r hr
      simp only [Bool.and_eq_true, decide_eq_true_eq, beq_iff_eq] at hnone
      exact hnone ⟨⟨htakes.1, htakes.2.1⟩, htakes.2.2⟩

/-- A character that no rule takes is its own lower-case form. -/
theorem lowerChar_of_isLower {c : Char} (h : IsLower c) : lowerChar c = [c] := by
  have hfind : caseRuns.find? (fun run => run.first ≤ c.toNat && c.toNat ≤ run.last &&
      (c.toNat - run.first) % run.stride == 0) = none := by
    rw [List.find?_eq_none]
    intro r hr htakes
    simp only [Bool.and_eq_true, decide_eq_true_eq, beq_iff_eq] at htakes
    exact h.2 r hr ⟨htakes.1.1, htakes.1.2, htakes.2⟩
  rw [lowerChar, if_neg h.1, hfind]

/-- What a run makes of a character is a character in lower case, and no white
space. -/
theorem CaseRun.form_isLower {r : CaseRun} (hr : r ∈ caseRuns) {n : Nat} (htakes : r.Takes n) :
    IsLower (Char.ofNat (n + r.shift).toNat) ∧
      isSpace (Char.ofNat (n + r.shift).toNat) = false := by
  have hlands := lands_of_mem hr
  simp only [lands, Bool.and_eq_true, decide_eq_true_eq, List.all_eq_true] at hlands
  obtain ⟨⟨⟨hlow, hhigh⟩, hstrange⟩, hmisses⟩ := hlands
  have hform := htakes.form hlow
  have havoids : ∀ range ∈ strange,
      (n + r.shift).toNat < range.1 ∨ range.2 < (n + r.shift).toNat := by
    intro range hrange
    exact not_mem_of_avoids (hstrange range hrange) htakes hlow
  simp only [strange, List.forall_mem_cons, List.not_mem_nil, false_imp_iff, implies_true,
    and_true] at havoids
  have hvalid : (n + r.shift).toNat.isValidChar := by
    unfold Nat.isValidChar
    omega
  have hcode : (Char.ofNat (n + r.shift).toNat).toNat = (n + r.shift).toNat := by
    rw [Char.ofNat, dif_pos hvalid]
    rfl
  refine ⟨⟨?_, ?_⟩, ?_⟩
  · rw [hcode]
    omega
  · intro other hother
    rw [hcode]
    exact not_takes_of_misses (hmisses other hother) htakes hlow
  · unfold isSpace
    rw [hcode]
    simp only [Bool.or_eq_false_iff, Bool.and_eq_false_iff, decide_eq_false_iff_not,
      beq_eq_false_iff_ne]
    omega

/-- What becomes of a character in a text that is put in lower case. -/
structure FormOf (c : Char) (form : List Char) : Prop where
  ne_nil : form ≠ []
  isLower : ∀ d ∈ form, IsLower d
  isSpace : isSpace c = false → ∀ d ∈ form, isSpace d = false

theorem formOf_lowerChar (c : Char) : FormOf c (lowerChar c) := by
  rcases lowerChar_cases c with hdotted | ⟨hsame, hlower⟩ | ⟨r, hr, htakes, hform⟩
  · rw [hdotted]
    refine ⟨List.cons_ne_nil _ _, ?_, fun _ => ?_⟩
    · exact List.forall_mem_cons.mpr
        ⟨by decide +kernel, List.forall_mem_singleton.mpr (by decide +kernel)⟩
    · exact List.forall_mem_cons.mpr ⟨by decide, List.forall_mem_singleton.mpr (by decide)⟩
  · rw [hsame]
    refine ⟨List.cons_ne_nil _ _, ?_, ?_⟩
    · simpa using hlower
    · intro hspace
      simpa using hspace
  · rw [hform]
    obtain ⟨hlower, hspace⟩ := CaseRun.form_isLower hr htakes
    refine ⟨List.cons_ne_nil _ _, ?_, ?_⟩
    · simpa using hlower
    · intro _
      simpa using hspace

/-- The form of a sigma is one of two, by where it stands. -/
theorem formOf_sigma (final : Bool) : FormOf 'Σ' (if final then ['ς'] else ['σ']) := by
  cases final
  · exact ⟨List.cons_ne_nil _ _, List.forall_mem_singleton.mpr (by decide +kernel),
      fun _ => List.forall_mem_singleton.mpr (by decide)⟩
  · exact ⟨List.cons_ne_nil _ _, List.forall_mem_singleton.mpr (by decide +kernel),
      fun _ => List.forall_mem_singleton.mpr (by decide)⟩

/-- The first character comes to one of its forms, whatever stands around it. -/
theorem lowerChars_cons (before : List Char) (c : Char) (rest : List Char) :
    ∃ form, FormOf c form ∧
      lowerChars before (c :: rest) = form ++ lowerChars (c :: before) rest := by
  by_cases hsigma : c = 'Σ'
  · refine ⟨_, ?_, by rw [lowerChars, if_pos hsigma]⟩
    rw [hsigma]
    exact formOf_sigma _
  · exact ⟨lowerChar c, formOf_lowerChar c, by rw [lowerChars, if_neg hsigma]⟩

/-- And so does the last one. -/
theorem lowerChars_concat (before cs : List Char) (c : Char) :
    ∃ front form, FormOf c form ∧ lowerChars before (cs ++ [c]) = front ++ form := by
  induction cs generalizing before with
  | nil =>
      obtain ⟨form, hform, heq⟩ := lowerChars_cons before c []
      refine ⟨[], form, hform, ?_⟩
      rw [List.nil_append, heq, lowerChars, List.append_nil, List.nil_append]
  | cons first rest ih =>
      obtain ⟨front, form, hform, heq⟩ := ih (first :: before)
      obtain ⟨head, -, hhead⟩ := lowerChars_cons before first (rest ++ [c])
      refine ⟨head ++ front, form, hform, ?_⟩
      rw [List.cons_append, hhead, heq, List.append_assoc]

theorem isLower_of_mem_lowerChars {before cs : List Char} :
    ∀ d ∈ lowerChars before cs, IsLower d := by
  induction cs generalizing before with
  | nil => simp [lowerChars]
  | cons c rest ih =>
      obtain ⟨form, hform, heq⟩ := lowerChars_cons before c rest
      rw [heq]
      intro d hd
      rcases List.mem_append.mp hd with hd | hd
      · exact hform.isLower d hd
      · exact ih d hd

/-- Characters in lower case stay as they are. -/
theorem lowerChars_of_isLower {before cs : List Char} (h : ∀ c ∈ cs, IsLower c) :
    lowerChars before cs = cs := by
  induction cs generalizing before with
  | nil => rfl
  | cons c rest ih =>
      obtain ⟨hc, hrest⟩ := List.forall_mem_cons.mp h
      rw [lowerChars, if_neg hc.ne_sigma, lowerChar_of_isLower hc, ih hrest]
      rfl

/-- **Text in lower case stays as it is.** -/
theorem lowercase_lowercase (s : String) : lowercase (lowercase s) = lowercase s := by
  have hlower : ∀ d ∈ lowerChars [] s.toList, IsLower d := isLower_of_mem_lowerChars
  rw [lowercase, lowercase, String.toList_ofList, lowerChars_of_isLower hlower]

/-- Characters in lower case have nothing to trim if there was nothing to trim
before. -/
theorem trimChars_lowerChars {cs : List Char} (h : trimChars cs = cs) (before : List Char) :
    trimChars (lowerChars before cs) = lowerChars before cs := by
  have hleft : (lowerChars before cs).dropWhile isSpace = lowerChars before cs := by
    cases cs with
    | nil => rfl
    | cons c rest =>
        have hc : isSpace c = false := by
          have hfirst := dropWhile_trimChars (c :: rest)
          rw [h, List.dropWhile_eq_self_iff] at hfirst
          simpa using hfirst (Nat.succ_pos _)
        obtain ⟨form, hform, heq⟩ := lowerChars_cons before c rest
        obtain ⟨d, more, hd⟩ := List.exists_cons_of_ne_nil hform.ne_nil
        have hspace : isSpace d = false := hform.isSpace hc d (by rw [hd]; exact List.mem_cons_self)
        rw [heq, hd, List.cons_append, List.dropWhile_cons_of_neg (by simp [hspace])]
  have hright : (lowerChars before cs).rdropWhile isSpace = lowerChars before cs := by
    rcases List.eq_nil_or_concat cs with hnil | ⟨front, c, hcs⟩
    · rw [hnil]
      rfl
    · have hc : isSpace c = false := by
        have hlast := congrArg (List.rdropWhile isSpace) h
        rw [trimChars_eq_rdropWhile, List.rdropWhile_idempotent, ← trimChars_eq_rdropWhile, h,
          eq_comm, List.rdropWhile_eq_self_iff] at hlast
        simpa [hcs] using hlast
      obtain ⟨start, form, hform, heq⟩ := lowerChars_concat before front c
      rw [← List.concat_eq_append, ← hcs] at heq
      rw [heq, List.rdropWhile_eq_self_iff]
      intro hne
      rw [List.getLast_append_of_ne_nil _ hform.ne_nil,
        hform.isSpace hc _ (List.getLast_mem hform.ne_nil)]
      exact Bool.false_ne_true
  rw [trimChars_eq_rdropWhile, hleft, hright]

/-- **Trimmed text in lower case has nothing to trim.** -/
theorem trim_lowercase_trim (s : String) :
    trim (lowercase (trim s)) = lowercase (trim s) := by
  have htrimmed : trimChars (trim s).toList = (trim s).toList := by
    have hagain := congrArg String.toList (trim_trim s)
    rwa [toList_trim] at hagain
  rw [trim, lowercase, String.toList_ofList, trimChars_lowerChars htrimmed]

end Docket.Text
