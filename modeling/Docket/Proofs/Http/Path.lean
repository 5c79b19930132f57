import Docket.Http.Path
import Docket.Proofs.Http.Percent
import Docket.Proofs.Text.Split

/-!
# Segments at the end of a path

A segment that is added to a path is escaped and stands behind all that was
there, unless it is one of the two that mean a place, or dropped characters
make it one. No escaped text means a place: what is read of it is the segment
again, and that is no dots.

* `not_isHere_encode`, `not_isAbove_encode` — an escaped name is no dots.
* `named_foldl_pushSegment` — the names that are added stand behind those of
  the path, one for one.
* `isParted_walk`, `isParted_foldl_pushSegment` — the path that was read, and the
  path with the names, come apart again at their slashes.
-/

namespace Docket.Http.Path

open Text (bytesOf splitAll)

/-- A segment that is a name: not empty, no dots, and nothing in it is
dropped. -/
structure IsName (segment : List Char) : Prop where
  filled : segment ≠ []
  notHere : segment ≠ ['.']
  notAbove : segment ≠ ['.', '.']
  keeps : ∀ c ∈ segment, isDropped c = false

/-- The text can stand between two slashes of a path: nothing in it ends the
part or the path. -/
def IsPart (text : List Char) : Prop :=
  '/' ∉ text ∧ '?' ∉ text ∧ '#' ∉ text

/-- The parts of a path whose text comes apart again as it was put together. -/
structure IsParted (parts : List (List Char)) : Prop where
  filled : parts ≠ []
  parts : ∀ part ∈ parts, IsPart part

/-- The parts of a path that are more than a lone slash. -/
def named (parts : List (List Char)) : List (List Char) :=
  if parts = [[]] then [] else parts

/-- The parts without an empty last one. -/
def withoutEmptyEnd (parts : List (List Char)) : List (List Char) :=
  if parts.getLast? = some [] then parts.dropLast else parts

/-- The names of a path are among its parts. -/
theorem mem_of_mem_named {parts : List (List Char)} {part : List Char} (h : part ∈ named parts) :
    part ∈ parts := by
  rw [named] at h
  split at h
  · cases h
  · exact h

/-- Nothing can stand between two slashes. -/
theorem isPart_nil : IsPart [] :=
  ⟨List.not_mem_nil, List.not_mem_nil, List.not_mem_nil⟩

/-- Lower case leaves a character alone, or it was a capital. -/
theorem toLower_eq_or (c : Char) :
    c.toLower = c ∨ 65 ≤ c.toNat ∧ c.toLower.toNat = c.toNat + 32 := by
  unfold Char.toLower
  split
  · next hcapital =>
      obtain ⟨hlow, hhigh⟩ := hcapital
      rw [ge_iff_le, UInt32.le_iff_toNat_le] at hlow
      rw [UInt32.le_iff_toNat_le] at hhigh
      have hA : ('A'.val).toNat = 65 := rfl
      have hZ : ('Z'.val).toNat = 90 := rfl
      have hstep : ('a'.val - 'A'.val).toNat = 32 := rfl
      right
      constructor
      · exact hlow
      · change (c.val + ('a'.val - 'A'.val)).toNat = c.val.toNat + 32
        rw [UInt32.toNat_add]
        omega
  · exact Or.inl rfl

/-- What is no letter in lower case was no letter before. -/
theorem eq_of_toLower {c d : Char} (h : c.toLower = d) (hd : d.toNat < 97) : c = d := by
  rcases toLower_eq_or c with hsame | ⟨hcapital, hstep⟩
  · rw [← hsame, h]
  · rw [h] at hstep
    omega

/-- The last digit of an escaped dot has one value in both cases. -/
theorem hexValue?_of_toLower {c : Char} (h : c.toLower = 'e') : Text.hexValue? c = some 14 := by
  rcases toLower_eq_or c with hsame | ⟨-, hstep⟩
  · rw [← hsame, h]
    rfl
  · rw [h] at hstep
    have hcode : c.toNat = 'E'.toNat := by
      have he : 'e'.toNat = 101 := rfl
      have hE : 'E'.toNat = 69 := rfl
      omega
    rw [Char.toNat_inj.mp hcode]
    rfl

/-- A dot, as it is and escaped. -/
def dots : List (List Char) :=
  [['.'], ['%', '2', 'e']]

/-- Text that begins with a dot, in one form or the other, is read as a dot and
what follows. -/
theorem decode_of_dot {dot part more : List Char} (hdot : dot ∈ dots)
    (h : part.map Char.toLower = dot ++ more) :
    ∃ rest, rest.map Char.toLower = more ∧ Percent.decode part = 46 :: Percent.decode rest := by
  rw [dots, List.mem_cons, List.mem_singleton] at hdot
  rcases hdot with hplain | hescaped
  · rw [hplain] at h
    obtain ⟨c, rest, hpart, hc, hrest⟩ := List.map_eq_cons_iff.mp h
    refine ⟨rest, hrest, ?_⟩
    rw [hpart, eq_of_toLower hc (by decide), Percent.decode_cons_of_ne (by decide)]
    rfl
  · rw [hescaped] at h
    obtain ⟨percent, behind, hpart, hpercent, hbehind⟩ := List.map_eq_cons_iff.mp h
    obtain ⟨two, last, hlast, htwo, hmore⟩ := List.map_eq_cons_iff.mp hbehind
    obtain ⟨e, rest, hsplit, he, hrest⟩ := List.map_eq_cons_iff.mp hmore
    refine ⟨rest, hrest, ?_⟩
    have htwoValue : Text.hexValue? two = some 2 := by
      rw [eq_of_toLower htwo (by decide)]
      rfl
    rw [hpart, hlast, hsplit, eq_of_toLower hpercent (by decide), Percent.decode, htwoValue,
      hexValue?_of_toLower he]
    rfl

/-- A text among several, character by character. -/
theorem mem_map_toList {texts : List String} {cs : List Char}
    (h : texts.contains (String.ofList cs) = true) : cs ∈ texts.map String.toList := by
  rw [List.contains_iff_mem] at h
  exact List.mem_map.mpr ⟨String.ofList cs, h, String.toList_ofList⟩

/-- The place itself is read as a dot, however it is written. -/
theorem decode_of_isHere {part : List Char} (h : isHere part = true) :
    Percent.decode part = bytesOf ['.'] := by
  have hform : part.map Char.toLower ∈ dots := mem_map_toList h
  obtain ⟨rest, hrest, hpart⟩ := decode_of_dot hform (List.append_nil _).symm
  rw [hpart, List.map_eq_nil_iff.mp hrest]
  rfl

/-- The place above is read as two dots. -/
theorem decode_of_isAbove {part : List Char} (h : isAbove part = true) :
    Percent.decode part = bytesOf ['.', '.'] := by
  have hform : part.map Char.toLower ∈ dots.flatMap fun dot => dots.map (dot ++ ·) :=
    mem_map_toList h
  obtain ⟨first, hfirst, hmore⟩ := List.mem_flatMap.mp hform
  obtain ⟨second, hsecond, hboth⟩ := List.mem_map.mp hmore
  obtain ⟨behind, hbehind, hpart⟩ := decode_of_dot hfirst hboth.symm
  obtain ⟨rest, hrest, hlast⟩ := decode_of_dot hsecond (hbehind.trans (List.append_nil _).symm)
  rw [hpart, hlast, List.map_eq_nil_iff.mp hrest]
  rfl

variable {segment : List Char} {set : List Char}

/-- An escaped name is not the place itself. -/
theorem not_isHere_encode (hname : IsName segment) (hset : '%' ∈ set) :
    isHere (Percent.encode set segment) = false := by
  rw [Bool.eq_false_iff]
  intro hhere
  have hbytes := decode_of_isHere hhere
  rw [Percent.decode_encode hset] at hbytes
  exact hname.notHere (Text.bytesOf_inj.mp hbytes)

/-- Nor the place above. -/
theorem not_isAbove_encode (hname : IsName segment) (hset : '%' ∈ set) :
    isAbove (Percent.encode set segment) = false := by
  rw [Bool.eq_false_iff]
  intro habove
  have hbytes := decode_of_isAbove habove
  rw [Percent.decode_encode hset] at hbytes
  exact hname.notAbove (Text.bytesOf_inj.mp hbytes)

/-- Nothing of a name is dropped. -/
theorem IsName.kept_eq (hname : IsName segment) : kept segment = segment := by
  apply List.filter_eq_self.mpr
  intro c hc
  rw [hname.keeps c hc]
  rfl

/-- One step where there are no drives: dots lead elsewhere, and leave an empty
part when they are the last. -/
theorem Walk.before_step {kind : SchemeKind} (hkind : kind ≠ .file)
    (escape : List Char → List Char) (last : Bool) (w : Walk) (text : List Char) :
    (w.step kind escape last text).before =
      if isAbove (escape (kept text)) = true then above w.before ++ if last then [[]] else []
      else if isHere (escape (kept text)) = true then w.before ++ if last then [[]] else []
      else w.before ++ [escape (kept text)] := by
  have hfront : ¬ (kind = .file ∧ w.before.isEmpty = true) := fun hfile => hkind hfile.1
  have hdrive : ¬ ((kind = .file ∧ w.before.isEmpty = true) ∧
      isDrive (escape (kept text)) = true) := fun h => hfront h.1
  simp only [Walk.step, if_neg hfront, if_neg hdrive]
  split
  · rfl
  split
  · rfl
  · rfl

/-- A name stands behind the parts that were passed. -/
theorem Walk.step_name {kind : SchemeKind} (hkind : kind ≠ .file) (hname : IsName segment)
    (hset : '%' ∈ set) (last : Bool) (w : Walk) :
    (w.step kind (Percent.encode set) last segment).before =
      w.before ++ [Percent.encode set segment] := by
  rw [Walk.before_step hkind, hname.kept_eq, not_isAbove_encode hname hset,
    not_isHere_encode hname hset, if_neg Bool.false_ne_true, if_neg Bool.false_ne_true]

/-- A name is added at the end, and fills a lone slash. -/
theorem pushSegment_name (hname : IsName segment) (parts : List (List Char)) :
    pushSegment .network parts segment =
      named parts ++ [Percent.encode Percent.segmentSet segment] := by
  have hset : (Percent.segmentSet.filter fun c => c ≠ '\\' || SchemeKind.network ≠ .other) =
      Percent.segmentSet := by
    decide
  have hdots : ¬ (segment = ['.'] ∨ segment = ['.', '.']) := by
    intro h
    exact h.elim hname.notHere hname.notAbove
  rw [pushSegment, hset, if_neg hdots, settle, if_neg (by decide)]
  exact Walk.step_name (by decide) hname (by decide) true ⟨named parts, false⟩

/-- An escaped name is not empty. -/
theorem encode_ne_nil (hname : IsName segment) :
    Percent.encode Percent.segmentSet segment ≠ [] := by
  intro hnil
  exact hname.filled ((Percent.encode_inj (by decide)).mp (hnil.trans rfl))

/-- **Names that are added** stand behind those of the path, one for one. -/
theorem named_foldl_pushSegment {segments : List (List Char)}
    (hnames : ∀ segment ∈ segments, IsName segment) (parts : List (List Char)) :
    named (segments.foldl (pushSegment .network) parts) =
      named parts ++ segments.map (Percent.encode Percent.segmentSet) := by
  induction segments generalizing parts with
  | nil => rw [List.foldl_nil, List.map_nil, List.append_nil]
  | cons segment rest ih =>
      have hname : IsName segment := hnames segment List.mem_cons_self
      have hrest : ∀ other ∈ rest, IsName other := fun other hother =>
        hnames other (List.mem_cons_of_mem segment hother)
      have hfilled : named (named parts ++ [Percent.encode Percent.segmentSet segment]) =
          named parts ++ [Percent.encode Percent.segmentSet segment] := by
        rw [named]
        apply if_neg
        intro hlone
        have hlast := congrArg List.getLast? hlone
        rw [List.getLast?_concat] at hlast
        exact encode_ne_nil hname (Option.some.inj hlast)
      rw [List.foldl_cons, ih hrest, pushSegment_name hname, hfilled, List.map_cons,
        List.append_assoc, List.singleton_append]

/-- Whether a lone slash keeps its empty part makes no difference to the names. -/
theorem named_dropEmptyEnd (parts : List (List Char)) :
    named (dropEmptyEnd parts) = named (withoutEmptyEnd parts) := by
  rw [dropEmptyEnd, withoutEmptyEnd]
  by_cases hempty : parts.getLast? = some []
  · by_cases hlong : 2 ≤ parts.length
    · rw [if_pos ⟨hlong, hempty⟩, if_pos hempty]
    · obtain ⟨front, hfront⟩ := List.getLast?_eq_some_iff.mp hempty
      have hlone : front = [] := by
        rw [hfront, List.length_append, List.length_singleton] at hlong
        exact List.length_eq_zero_iff.mp (by omega)
      rw [if_neg (fun h => hlong h.1), if_pos hempty, hfront, hlone]
      rfl
  · rw [if_neg (fun h => hempty h.2), if_neg hempty]

variable {kind : SchemeKind} {escape : List Char → List Char} {last : Bool} {w : Walk}
  {text part : List Char}

/-- A step leaves parts that were there, an empty one, or the new one. -/
theorem Walk.of_mem_step (hkind : kind ≠ .file) (h : part ∈ (w.step kind escape last text).before) :
    part ∈ w.before ∨ part = [] ∨ part = escape (kept text) := by
  have hinside : part ∈ (if last then [[]] else []) → part = [] := by
    intro hmem
    cases last
    · cases hmem
    · exact List.mem_singleton.mp hmem
  have habove : part ∈ above w.before → part ∈ w.before := by
    intro hmem
    rw [above] at hmem
    split at hmem
    · exact hmem
    · exact List.dropLast_subset _ hmem
  rw [Walk.before_step hkind] at h
  split at h
  · exact (List.mem_append.mp h).imp habove fun hmem => Or.inl (hinside hmem)
  split at h
  · exact (List.mem_append.mp h).imp_right fun hmem => Or.inl (hinside hmem)
  · exact (List.mem_append.mp h).imp_right fun hmem => Or.inr (List.mem_singleton.mp hmem)

/-- The last step leaves a part. -/
theorem Walk.step_last_ne_nil (hkind : kind ≠ .file) :
    (w.step kind escape true text).before ≠ [] := by
  rw [Walk.before_step hkind, if_pos rfl]
  split
  · exact List.concat_ne_nil _ _
  split
  · exact List.concat_ne_nil _ _
  · exact List.concat_ne_nil _ _

/-- Every part that was passed was there before, or is empty, or is the text of
one of those that were followed. -/
theorem Walk.of_mem_follow (hkind : kind ≠ .file) {texts : List (List Char)}
    (h : part ∈ (w.follow kind escape texts).before) :
    part ∈ w.before ∨ part = [] ∨ ∃ text ∈ texts, part = escape (kept text) := by
  induction texts generalizing w with
  | nil => exact Or.inl h
  | cons text rest ih =>
      have hstep : ∀ last, part ∈ (w.step kind escape last text).before →
          part ∈ w.before ∨ part = [] ∨ ∃ other ∈ text :: rest, part = escape (kept other) := by
        intro last hmem
        rcases Walk.of_mem_step hkind hmem with hthere | hempty | hnew
        · exact Or.inl hthere
        · exact Or.inr (Or.inl hempty)
        · exact Or.inr (Or.inr ⟨text, List.mem_cons_self, hnew⟩)
      cases rest with
      | nil => exact hstep true h
      | cons next others =>
          rcases ih h with hthere | hempty | ⟨other, hother, hnew⟩
          · exact hstep false hthere
          · exact Or.inr (Or.inl hempty)
          · exact Or.inr (Or.inr ⟨other, List.mem_cons_of_mem text hother, hnew⟩)

/-- A walk along some text ends at a part. -/
theorem Walk.follow_ne_nil (hkind : kind ≠ .file) {texts : List (List Char)} (h : texts ≠ []) :
    (w.follow kind escape texts).before ≠ [] := by
  induction texts generalizing w with
  | nil => exact absurd rfl h
  | cons text rest ih =>
      cases rest with
      | nil => exact Walk.step_last_ne_nil hkind
      | cons next others => exact ih (List.cons_ne_nil next others)

/-- Escaped text without a slash can stand between two slashes. -/
theorem isPart_encode {set : List Char} (hquery : '?' ∈ set) (hfragment : '#' ∈ set)
    (hslash : '/' ∉ text ∨ '/' ∈ set) : IsPart (Percent.encode set text) := by
  refine ⟨?_, Percent.not_mem_encode hquery (by decide) (by decide),
    Percent.not_mem_encode hfragment (by decide) (by decide)⟩
  intro hmem
  rcases Percent.of_mem_encode hmem with hpercent | hsign | ⟨hthere, hnot⟩
  · exact absurd hpercent (by decide)
  · exact absurd hsign (by decide)
  · exact hslash.elim (fun h => h hthere) hnot

/-- **A path that was read** comes apart again at its slashes. -/
theorem isParted_walk (cs : List Char) : IsParted (walk .network cs).before := by
  have hpassed : (walk .network cs).before =
      (Walk.follow .network (Percent.encode Percent.pathSet) ⟨[], false⟩
        (splitAll SchemeKind.network.isSlash cs)).before := by
    rw [walk, settle, if_neg (by decide)]
  constructor
  · rw [hpassed]
    exact Walk.follow_ne_nil (by decide) (Text.splitAll_ne_nil _ cs)
  · intro part hpart
    rw [hpassed] at hpart
    rcases Walk.of_mem_follow (by decide) hpart with hthere | hempty | ⟨text, htext, hnew⟩
    · cases hthere
    · rw [hempty]
      exact isPart_nil
    · rw [hnew]
      refine isPart_encode (by decide) (by decide) (Or.inl ?_)
      intro hslash
      have hcut := (Text.of_mem_splitAll htext (List.mem_filter.mp hslash).1).1
      exact absurd hcut (by decide)

variable {parts : List (List Char)}

/-- Without an empty last part the path still comes apart. -/
theorem IsParted.dropEmptyEnd (hparts : IsParted parts) : IsParted (dropEmptyEnd parts) := by
  rw [Path.dropEmptyEnd]
  by_cases hempty : 2 ≤ parts.length ∧ parts.getLast? = some []
  · rw [if_pos hempty]
    constructor
    · intro hnil
      have hlength := congrArg List.length hnil
      rw [List.length_dropLast, List.length_nil] at hlength
      omega
    · intro part hpart
      exact hparts.parts part (List.dropLast_subset parts hpart)
  · rw [if_neg hempty]
    exact hparts

/-- A name at the end leaves a path that comes apart. -/
theorem IsParted.pushSegment (hparts : IsParted parts) (hname : IsName segment) :
    IsParted (pushSegment .network parts segment) := by
  rw [pushSegment_name hname]
  constructor
  · exact List.concat_ne_nil _ _
  · intro part hpart
    rcases List.mem_append.mp hpart with hthere | hnew
    · exact hparts.parts part (mem_of_mem_named hthere)
    · rw [List.mem_singleton.mp hnew]
      exact isPart_encode (by decide) (by decide) (Or.inr (by decide))

/-- **So do any number of names.** -/
theorem isParted_foldl_pushSegment {segments : List (List Char)}
    (hnames : ∀ segment ∈ segments, IsName segment) (hparts : IsParted parts) :
    IsParted (segments.foldl (Path.pushSegment .network) parts) := by
  induction segments generalizing parts with
  | nil => exact hparts
  | cons segment rest ih =>
      have hrest : ∀ other ∈ rest, IsName other := fun other hother =>
        hnames other (List.mem_cons_of_mem segment hother)
      exact ih hrest (hparts.pushSegment (hnames segment List.mem_cons_self))

/-- The text of a path holds neither of the signs that end it. -/
theorem IsParted.of_mem_chars (hparts : IsParted parts) {c : Char}
    (hc : c ∈ (Path.segments false parts).chars) : c ≠ '?' ∧ c ≠ '#' := by
  obtain ⟨part, hpart, hmem⟩ := List.mem_flatMap.mp hc
  obtain ⟨-, hquery, hfragment⟩ := hparts.parts part hpart
  rcases List.mem_cons.mp hmem with hslash | hinside
  · rw [hslash]
    decide
  · exact ⟨fun h => hquery (h ▸ hinside), fun h => hfragment (h ▸ hinside)⟩

/-- Behind its first slash the text comes apart into the parts. -/
theorem IsParted.chars_eq (hparts : IsParted parts) :
    ∃ text, (Path.segments false parts).chars = '/' :: text ∧ splitAll (· = '/') text = parts := by
  obtain ⟨first, rest, hsplit⟩ := List.exists_cons_of_ne_nil hparts.filled
  have hslash : ∀ part ∈ parts, '/' ∉ part := fun part hpart => (hparts.parts part hpart).1
  rw [hsplit] at hslash ⊢
  refine ⟨first ++ rest.flatMap ('/' :: ·), by rw [chars, List.flatMap_cons]; rfl, ?_⟩
  rw [Text.splitAll_append_flatMap first fun part hpart =>
      hslash part (List.mem_cons_of_mem first hpart),
    Text.splitAll_of_not_mem (hslash first List.mem_cons_self), List.singleton_append]

end Docket.Http.Path
