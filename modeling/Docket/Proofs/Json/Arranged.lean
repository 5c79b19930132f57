import Docket.Json.Basic

/-!
# Arranged JSON

An object is a list of members, but nothing hangs on their order: a member is
looked up by its name. A value is arranged when every object in it holds each
name once, in ascending order, as the objects of a payload do.

* `Respelling` — a way to spell values anew in which everything is found again
  where it was.
* `respelling_arranged` — to arrange is such a way.
-/

namespace Docket.Json

/-- The member in front is found by its name. -/
theorem get?_cons (name key : String) (value : Json) (rest : List (String × Json)) :
    get? ((key, value) :: rest) name = if key = name then some value else get? rest name := by
  unfold get?
  rw [List.find?_cons]
  by_cases h : key = name
  · simp [h]
  · have hkey : (key == name) = false := beq_eq_false_iff_ne.mpr h
    simp [h, hkey]

/-- What is found under a name is a member of the object. -/
theorem mem_of_get? {members : List (String × Json)} {name : String} {value : Json}
    (h : get? members name = some value) : (name, value) ∈ members := by
  obtain ⟨member, hfind, rfl⟩ := Option.map_eq_some_iff.mp h
  have hname : member.1 = name := by simpa using List.find?_some hfind
  subst hname
  exact List.mem_of_find?_eq_some hfind

/-- What an object holds is found in it. -/
theorem get?_ne_none {members : List (String × Json)} {name : String} {value : Json}
    (h : (name, value) ∈ members) : get? members name ≠ none := by
  intro hnone
  have hfind := List.find?_eq_none.mp (Option.map_eq_none_iff.mp hnone) _ h
  simp at hfind

/-- A member that was put in its place is found there, and so are the others. -/
theorem get?_insert (name key : String) (value : Json) (members : List (String × Json)) :
    get? (insert key value members) name =
      if key = name then some value else get? members name := by
  induction members with
  | nil => exact get?_cons name key value []
  | cons member rest ih =>
      obtain ⟨other, old⟩ := member
      rw [insert]
      by_cases hlt : key < other
      · rw [if_pos hlt, get?_cons]
      · rw [if_neg hlt]
        by_cases heq : key = other
        · subst heq
          rw [if_pos rfl, get?_cons, get?_cons]
          split <;> rfl
        · rw [if_neg heq, get?_cons, ih, get?_cons]
          by_cases hother : other = name
          · have hkey : key ≠ name := fun h => heq (h.trans hother.symm)
            rw [if_pos hother, if_neg hkey, if_pos hother]
          · rw [if_neg hother, if_neg hother]

/-- Nothing else gets into the object. -/
theorem mem_insert {key : String} {value : Json} {members : List (String × Json)}
    {member : String × Json} (h : member ∈ insert key value members) :
    member = (key, value) ∨ member ∈ members := by
  induction members with
  | nil => exact Or.inl (List.mem_singleton.mp h)
  | cons first rest ih =>
      obtain ⟨other, old⟩ := first
      rw [insert] at h
      split at h
      · exact List.mem_cons.mp h
      split at h
      · exact (List.mem_cons.mp h).imp_right (List.mem_cons_of_mem _)
      · rcases List.mem_cons.mp h with h | h
        · exact Or.inr (h ▸ List.mem_cons_self)
        · exact (ih h).imp_right (List.mem_cons_of_mem _)

mutual

/-- The value with every object in ascending order of its names. -/
def arranged : Json → Json
  | .null => .null
  | .bool value => .bool value
  | .int value => .int value
  | .real value => .real value
  | .text value => .text value
  | .list items => .list (arrangedItems items)
  | .object members => .object (arrangedMembers members)

/-- The items of a list, each arranged. -/
def arrangedItems : List Json → List Json
  | [] => []
  | item :: rest => arranged item :: arrangedItems rest

/-- The members of an object, each arranged and in its place; of members with
one name the first one counts, as it does for who looks it up. -/
def arrangedMembers : List (String × Json) → List (String × Json)
  | [] => []
  | (name, value) :: rest => insert name (arranged value) (arrangedMembers rest)

end

theorem arrangedItems_eq_map (items : List Json) : arrangedItems items = items.map arranged := by
  induction items with
  | nil => rfl
  | cons item rest ih => rw [arrangedItems, List.map_cons, ih]

theorem get?_arrangedMembers (members : List (String × Json)) (name : String) :
    get? (arrangedMembers members) name = (get? members name).map arranged := by
  induction members with
  | nil => rfl
  | cons member rest ih =>
      obtain ⟨key, value⟩ := member
      rw [arrangedMembers, get?_insert, get?_cons, ih]
      split <;> rfl

theorem mem_arrangedMembers {members : List (String × Json)} {member : String × Json}
    (h : member ∈ arrangedMembers members) :
    ∃ value, (member.1, value) ∈ members ∧ member.2 = arranged value := by
  induction members with
  | nil => cases h
  | cons first rest ih =>
      obtain ⟨key, value⟩ := first
      rw [arrangedMembers] at h
      rcases mem_insert h with h | h
      · subst h
        exact ⟨value, List.mem_cons_self, rfl⟩
      · obtain ⟨found, hfound, heq⟩ := ih h
        exact ⟨found, List.mem_cons_of_mem _ hfound, heq⟩

/-- A way to spell values anew: plain values and lists stay what they are, and
an object holds the members that it had, in whatever order. -/
structure Respelling (spell : Json → Json) : Prop where
  null : spell .null = .null
  bool : ∀ value, spell (.bool value) = .bool value
  int : ∀ value, spell (.int value) = .int value
  text : ∀ value, spell (.text value) = .text value
  list : ∀ items, spell (.list items) = .list (items.map spell)
  object : ∀ members, ∃ members', spell (.object members) = .object members' ∧
    (∀ name, get? members' name = (get? members name).map spell) ∧
    ∀ member ∈ members', ∃ value, (member.1, value) ∈ members ∧ member.2 = spell value

/-- To leave a value as it stands is to spell it. -/
theorem respelling_id : Respelling id where
  null := rfl
  bool _ := rfl
  int _ := rfl
  text _ := rfl
  list items := by rw [List.map_id]; rfl
  object members := by
    refine ⟨members, rfl, fun name => ?_, fun member hmember => ⟨member.2, hmember, rfl⟩⟩
    rw [Option.map_id]
    rfl

/-- **To arrange a value is to spell it anew.** -/
theorem respelling_arranged : Respelling arranged where
  null := rfl
  bool _ := rfl
  int _ := rfl
  text _ := rfl
  list items := by rw [arranged, arrangedItems_eq_map]
  object members :=
    ⟨arrangedMembers members, by rw [arranged], get?_arrangedMembers members,
      fun _ => mem_arrangedMembers⟩

end Docket.Json
