import Docket.Proofs.Sheet.Merge

/-!
# Sheets and templates

The rows of a sheet may be saved as a template and asked for again on another
sheet. A template keeps what a row asks for and not what it was answered with:
a row that comes from it has the identity, the label, the kind and the document
of the row that was saved, and is empty.

Both ways trim what makes an identity, and what has been trimmed once stays as
it is. So an identity survives however it was written; on an empty sheet no two
rows run into one another, and on a sheet that has the rows already nothing is
added.

* `Row.asksAgain_reissued` — what comes back of one row.
* `Row.toItem_reissued` — it is saved as the same item again.
* `Sheet.rows_applyTemplate_empty` — what an empty sheet gets of a saved one.
* `Sheet.template_asks_again` — a template of a sheet on an empty one.
-/

namespace Docket

namespace Row

/-- A row asks for what another row asks for, and has no answer yet. -/
structure AsksAgain (row copy : Row) : Prop where
  identity : copy.identity = row.identity
  label : copy.label = row.label
  kind : copy.kind = row.kind
  document? : copy.document? = row.document?
  fill : copy.fill = .pending
  value? : copy.value? = none
  id? : copy.id? = none

/-- The row that comes back of a saved row. -/
def reissued (row : Row) : Row :=
  ofItem row.toItem

/-- The identity is made of what has been read, and that is read once more as it
is. -/
theorem identity_reissued (row : Row) : row.reissued.identity = row.identity := by
  have hkey := Text.bind_filled?_bind_filled? row.catalogKey?
  have hitem := Text.bind_filled?_bind_filled? row.templateItem?
  simp only [reissued, ofItem, toItem, blank, identity, hkey, hitem]

/-- What comes back of a row asks for it again. -/
theorem asksAgain_reissued (row : Row) : row.AsksAgain row.reissued where
  identity := identity_reissued row
  label := rfl
  kind := rfl
  document? := rfl
  fill := rfl
  value? := rfl
  id? := rfl

/-- What comes back of a row is saved as the same item. -/
theorem toItem_reissued (row : Row) : row.reissued.toItem = row.toItem := by
  have hkey := Text.bind_filled?_bind_filled? row.catalogKey?
  have hitem := Text.bind_filled?_bind_filled? row.templateItem?
  simp only [reissued, ofItem, toItem, blank, hkey, hitem]

end Row

namespace Sheet

variable {s : Sheet} {t : Template}

/-- A sheet without rows. -/
def empty (viewer : Side) : Sheet :=
  ⟨[], viewer⟩

/-- A sheet is saved under any name that is not blank. -/
theorem toTemplate_of_filled (s : Sheet) (id? : Option TemplateId) {name : String}
    (hname : Text.isBlank name = false) (topic? : Option TopicCode) :
    s.toTemplate id? name topic? = .ok ⟨id?, Text.trim name, topic?, s.rows.map Row.toItem⟩ := by
  have hfilled : Text.filled? name = some (Text.trim name) := if_neg (Bool.eq_false_iff.mp hname)
  rw [toTemplate, hfilled]

/-- Of a saved sheet an empty one gets, for every identity, the first row that
had it. -/
theorem rows_applyTemplate_empty (viewer : Side) (ht : t.items = s.rows.map Row.toItem) :
    ((empty viewer).applyTemplate t).rows = (Row.fresh [] s.rows).map Row.reissued := by
  have hrows : t.rows = s.rows.map Row.reissued := by
    rw [Template.rows, ht, List.map_map]
    rfl
  have hmerged : ((empty viewer).applyTemplate t).rows = Row.fresh [] t.rows := rfl
  rw [hmerged, hrows, Row.fresh_eq_firstOfEach, Row.fresh_eq_firstOfEach,
    firstOfEach_map Row.identity_reissued]

/-- A template that has been applied adds nothing more. -/
theorem applyTemplate_applyTemplate (s : Sheet) (t : Template) :
    (s.applyTemplate t).applyTemplate t = s.applyTemplate t := by
  have hthere : ∀ row ∈ t.rows, row.identity ∈ (Row.merge s.rows t.rows).map Row.identity := by
    intro row hrow
    exact Row.mem_identities_merge.mpr (Or.inr (List.mem_map_of_mem hrow))
  have hrows := Row.merge_eq_self_iff.mpr hthere
  unfold applyTemplate merge
  rw [hrows]

/-- **A template asks again for what a sheet asks for.** Save a sheet on which
every identity stands once, under any name that is not blank, with or without
an id and a topic, and apply the template to an empty sheet of either side. The
sheet gets one row for each of the rows, in their order, which asks for it again
and is empty. To apply the template once more changes nothing, and the new sheet
is saved, under whatever name, as a template of the same items. -/
theorem template_asks_again (s : Sheet) (hapart : s.identities.Nodup) (viewer : Side)
    (id? : Option TemplateId) {name : String} (hname : Text.isBlank name = false)
    (topic? : Option TopicCode) :
    ∃ t, s.toTemplate id? name topic? = .ok t ∧
      List.Forall₂ Row.AsksAgain s.rows ((empty viewer).applyTemplate t).rows ∧
      ((empty viewer).applyTemplate t).applyTemplate t = (empty viewer).applyTemplate t ∧
      ∀ (id?' : Option TemplateId) (name' : String) (topic?' : Option TopicCode),
        Text.isBlank name' = false →
        ∃ t', ((empty viewer).applyTemplate t).toTemplate id?' name' topic?' = .ok t' ∧
          t'.items = t.items := by
  have hall : Row.fresh [] s.rows = s.rows := by
    rw [Row.fresh_eq_firstOfEach]
    exact firstOfEach_eq_self hapart fun _ _ => List.not_mem_nil
  refine ⟨_, s.toTemplate_of_filled id? hname topic?, ?_, applyTemplate_applyTemplate _ _, ?_⟩
  · rw [rows_applyTemplate_empty viewer rfl, hall, List.forall₂_map_right_iff, List.forall₂_same]
    exact fun row _ => row.asksAgain_reissued
  · intro id?' name' topic?' hname'
    refine ⟨_, toTemplate_of_filled _ id?' hname' topic?', ?_⟩
    dsimp only
    rw [rows_applyTemplate_empty viewer rfl, hall, List.map_map]
    exact List.map_congr_left fun row _ => row.toItem_reissued

/-- Three rows, known by a key of the catalog, an item of a template and a label;
the client has answered the first. -/
def intake : Sheet :=
  ⟨[{ Row.blank "Passport" .file (some "scan") with
        id? := some "row-3", catalogKey? := some " PASSPORT", fill := .filled .client,
        value? := some (.attachment ⟨"att-9"⟩) },
    { Row.blank "Income" .number none with catalogKey? := some " ", templateItem? := some "Tpl-7 " },
    Row.blank " Employer " .string none], .staff⟩

/-- The client is asked for the same three, which are empty again, and they are
saved once more under another name. -/
theorem template_asks_again_of_intake :
    intake.identities.Nodup ∧ Text.isBlank " Divorce " = false ∧
    ∃ t, intake.toTemplate none " Divorce " none = .ok t ∧ t.name = "Divorce" ∧
      ((empty .client).applyTemplate t).identities = ["passport", "Tpl-7", "employer"] ∧
      List.Forall₂ Row.AsksAgain intake.rows ((empty .client).applyTemplate t).rows ∧
      ((empty .client).applyTemplate t).applyTemplate t = (empty .client).applyTemplate t ∧
      Text.isBlank "Again" = false ∧
      ∃ t', ((empty .client).applyTemplate t).toTemplate (some ⟨"T1"⟩) "Again" none = .ok t' ∧
        t'.items = t.items := by
  have hapart : intake.identities.Nodup := by decide +kernel
  have hname : Text.isBlank " Divorce " = false := by decide
  have hagain : Text.isBlank "Again" = false := by decide
  obtain ⟨t, hsaved, hasks, htwice, hitems⟩ :=
    template_asks_again intake hapart .client none hname none
  have hidentities : ((empty .client).applyTemplate t).identities =
      ["passport", "Tpl-7", "employer"] := by
    cases hsaved
    decide +kernel
  have hcalled : t.name = "Divorce" := by
    cases hsaved
    decide
  exact ⟨hapart, hname, t, hsaved, hcalled, hidentities, hasks, htwice, hagain,
    hitems _ _ _ hagain⟩

end Sheet
end Docket
