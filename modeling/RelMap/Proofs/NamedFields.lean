import RelMap.Schema.Composite
import RelMap.Record
import Mathlib.Data.List.Sort
import Mathlib.Data.String.Basic

/-!
# Named fields keep one entry per name

Records and the parts of a composite keep their entries sorted by name, each name once
(`Fields.Sorted`, which inserting keeps), and entries kept so are determined by what they give for
each name. Reading a name
after inserting it gives the inserted value, and inserting a name leaves every other name as it
was. Building fields from a list of pairs with distinct names gives each name its pair's value.
-/

namespace RelMap.Fields

set_option autoImplicit false

variable {α : Type}

theorem find?_nil (name : String) : find? ([] : List (String × α)) name = none := rfl

theorem find?_cons (key name : String) (value : α) (rest : List (String × α)) :
    find? ((key, value) :: rest) name = if key = name then some value else find? rest name := by
  by_cases same : key = name <;> simp [find?, same]

theorem find?_insert_self :
    ∀ (entries : List (String × α)) (name : String) (value : α),
      find? (insert entries name value) name = some value
  | [], _, _ => by simp [insert, find?_cons]
  | (key, old) :: rest, name, value => by
    rw [insert]
    split_ifs with before same
    · simp [find?_cons]
    · simp [find?_cons]
    · rw [find?_cons, if_neg (Ne.symm same), find?_insert_self rest name value]

theorem find?_insert_of_ne {name other : String} (different : name ≠ other) (value : α) :
    ∀ entries : List (String × α), find? (insert entries name value) other = find? entries other
  | [] => by simp [insert, find?_cons, different, find?_nil]
  | (key, old) :: rest => by
    rw [insert]
    split_ifs with before same
    · rw [find?_cons, if_neg different]
    · subst same
      rw [find?_cons, find?_cons, if_neg different, if_neg different]
    · rw [find?_cons, find?_cons, find?_insert_of_ne different value rest]

theorem find?_foldl_insert_of_not_mem {name : String} :
    ∀ (pairs : List (String × α)) (acc : List (String × α)), name ∉ pairs.map Prod.fst →
      find? (pairs.foldl (fun acc pair => insert acc pair.1 pair.2) acc) name = find? acc name
  | [], _, _ => rfl
  | (key, value) :: rest, acc, absent => by
    simp only [List.map_cons, List.mem_cons, not_or] at absent
    rw [List.foldl_cons, find?_foldl_insert_of_not_mem rest _ absent.2,
      find?_insert_of_ne (Ne.symm absent.1)]

theorem find?_foldl_insert_of_mem {name : String} {value : α} :
    ∀ (pairs : List (String × α)) (acc : List (String × α)), (pairs.map Prod.fst).Nodup →
      (name, value) ∈ pairs →
        find? (pairs.foldl (fun acc pair => insert acc pair.1 pair.2) acc) name = some value
  | [], _, _, member => nomatch member
  | (key, value') :: rest, acc, distinct, member => by
    rw [List.map_cons, List.nodup_cons] at distinct
    rw [List.foldl_cons]
    rcases List.mem_cons.mp member with here | later
    · cases here
      rw [find?_foldl_insert_of_not_mem rest _ distinct.1, find?_insert_self]
    · exact find?_foldl_insert_of_mem rest _ distinct.2 later

/-- Fields built from pairs with distinct names give each name its pair's value. -/
theorem find?_ofList_of_mem {pairs : List (String × α)} (distinct : (pairs.map Prod.fst).Nodup)
    {name : String} {value : α} (member : (name, value) ∈ pairs) :
    find? (ofList pairs) name = some value :=
  find?_foldl_insert_of_mem pairs [] distinct member

theorem find?_ofList_of_not_mem {pairs : List (String × α)} {name : String}
    (absent : name ∉ pairs.map Prod.fst) : find? (ofList pairs) name = none :=
  find?_foldl_insert_of_not_mem pairs [] absent

theorem Sorted.mem_iff {entries : List (String × α)} (sorted : Sorted entries) (name : String)
    (value : α) : (name, value) ∈ entries ↔ find? entries name = some value := by
  induction entries generalizing value with
  | nil => simp [find?_nil]
  | cons head rest induction =>
    obtain ⟨key, old⟩ := head
    have later : ∀ entry ∈ rest, key < entry.1 := fun _ member =>
      List.rel_of_pairwise_cons sorted member
    rw [find?_cons, List.mem_cons, induction sorted.of_cons value]
    by_cases same : key = name
    · subst same
      -- the rest holds only names above the key
      have absent : find? rest key = none := by
        rcases found : find? rest key with _ | v
        · rfl
        · exact absurd (later _ ((induction sorted.of_cons v).mpr found)) (lt_irrefl _)
      simp [absent, eq_comm]
    · simp [same, Ne.symm same]

theorem mem_names_of_find?_eq_some {entries : List (String × α)} {name : String} {value : α}
    (found : find? entries name = some value) : name ∈ names entries := by
  obtain ⟨entry, search, _⟩ := Option.map_eq_some_iff.mp found
  exact List.mem_map.mpr ⟨entry, List.mem_of_find?_eq_some search,
    by simpa using List.find?_some search⟩

/-- Entries in name order name each field once. -/
theorem Sorted.nodup {entries : List (String × α)} (sorted : Sorted entries) :
    (names entries).Nodup :=
  (List.pairwise_map.mpr sorted).imp ne_of_lt

/-- Sorted entries are determined by what they give for each name. -/
theorem Sorted.ext {first second : List (String × α)} (sortedFirst : Sorted first)
    (sortedSecond : Sorted second) (same : ∀ name, find? first name = find? second name) :
    first = second := by
  refine List.Perm.eq_of_pairwise (fun a b _ _ before after => absurd (before.trans after)
    (lt_irrefl _)) sortedFirst sortedSecond ?_
  rw [List.perm_ext_iff_of_nodup (sortedFirst.nodup.of_map _) (sortedSecond.nodup.of_map _)]
  rintro ⟨name, value⟩
  rw [sortedFirst.mem_iff, sortedSecond.mem_iff, same]

/-- Building fields from entries already in name order gives them back. -/
theorem ofList_of_sorted {entries : List (String × α)} (sorted : Sorted entries) :
    ofList entries = entries := by
  refine Sorted.ext (sorted_ofList entries) sorted fun name => ?_
  cases found : find? entries name with
  | none =>
    -- a name the entries do not give is not among their names
    have absent : name ∉ entries.map Prod.fst := fun named => by
      obtain ⟨entry, member, rfl⟩ := List.mem_map.mp named
      rw [(sorted.mem_iff entry.1 entry.2).mp member] at found
      cases found
    exact find?_ofList_of_not_mem absent
  | some value =>
    exact find?_ofList_of_mem sorted.nodup ((sorted.mem_iff name value).mpr found)

end RelMap.Fields

namespace RelMap.Record

theorem get?_set_self (r : Record) (name : String) (d : Datum) : (r.set name d).get? name = some d :=
  Fields.find?_insert_self r.fields name d

theorem get?_set_of_ne (r : Record) {name other : String} (different : name ≠ other) (d : Datum) :
    (r.set name d).get? other = r.get? other :=
  Fields.find?_insert_of_ne different d r.fields

end RelMap.Record
