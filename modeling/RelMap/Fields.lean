/-!
# Named fields in name order

Records, composite values and the parts of a composite keep their fields as a list of
`(name, value)` pairs sorted by name, each name once. Inserting a name that is present replaces
its value; listing the fields gives them in name order.
-/

namespace RelMap.Fields

set_option autoImplicit false

variable {α : Type}

/-- Sets `name` to `value`, keeping the list sorted and the names distinct. -/
def insert : List (String × α) → String → α → List (String × α)
  | [], name, value => [(name, value)]
  | (key, old) :: rest, name, value =>
      if name < key then (name, value) :: (key, old) :: rest
      else if name = key then (name, value) :: rest
      else (key, old) :: insert rest name value

/-- The value of `name`, if present. -/
def find? (entries : List (String × α)) (name : String) : Option α :=
  (entries.find? fun entry => entry.1 == name).map Prod.snd

/-- The fields of a list of pairs, a later pair replacing an earlier one of the same name. -/
def ofList (pairs : List (String × α)) : List (String × α) :=
  pairs.foldl (fun acc pair => insert acc pair.1 pair.2) []

/-- The names, in order. -/
def names (entries : List (String × α)) : List String := entries.map Prod.fst

/-- Entries in strictly increasing name order, as `insert` keeps them. -/
def Sorted (entries : List (String × α)) : Prop := entries.Pairwise fun a b => a.1 < b.1

theorem mem_insert {entry : String × α} {name : String} {value : α} {entries : List (String × α)}
    (member : entry ∈ insert entries name value) : entry = (name, value) ∨ entry ∈ entries := by
  induction entries with
  | nil => simpa [insert] using member
  | cons head rest induction =>
    obtain ⟨key, old⟩ := head
    rw [insert] at member
    split at member
    · simpa using member
    · split at member
      · rcases List.mem_cons.mp member with here | later
        · exact .inl here
        · exact .inr (List.mem_cons_of_mem _ later)
      · rcases List.mem_cons.mp member with here | later
        · exact .inr (here ▸ List.mem_cons_self)
        · rcases induction later with inserted | kept
          · exact .inl inserted
          · exact .inr (List.mem_cons_of_mem _ kept)

theorem Sorted.insert {entries : List (String × α)} (sorted : Sorted entries) (name : String)
    (value : α) : Sorted (Fields.insert entries name value) := by
  induction entries with
  | nil => simp [Fields.insert, Sorted]
  | cons head rest induction =>
    obtain ⟨key, old⟩ := head
    have later : ∀ entry ∈ rest, key < entry.1 := fun _ member =>
      List.rel_of_pairwise_cons sorted member
    rw [Sorted, Fields.insert]
    split
    · rename_i before
      exact sorted.cons fun entry member => (List.mem_cons.mp member).elim
        (fun here => here ▸ before) (fun kept => String.lt_trans before (later _ kept))
    · rename_i after
      split
      · rename_i same
        subst same
        exact sorted.of_cons.cons fun entry member => later _ member
      · rename_i different
        -- the name goes after the key: everything inserted into the rest stays above the key
        refine (induction sorted.of_cons).cons fun entry member => ?_
        rcases mem_insert member with rfl | kept
        · exact String.not_le.mp fun below =>
            different (String.le_antisymm below (String.not_lt.mp after))
        · exact later _ kept

theorem sorted_ofList (pairs : List (String × α)) : Sorted (ofList pairs) := by
  unfold ofList
  -- the fold keeps its accumulator sorted, starting from no entries
  suffices kept : ∀ acc : List (String × α), Sorted acc →
      Sorted (pairs.foldl (fun acc pair => insert acc pair.1 pair.2) acc) from
    kept [] List.Pairwise.nil
  induction pairs with
  | nil => exact fun acc sorted => sorted
  | cons pair rest induction => exact fun acc sorted => induction _ (sorted.insert _ _)

end RelMap.Fields
