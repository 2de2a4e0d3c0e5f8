import RelMap.Mapper.Registry

/-!
# Composite values over several columns

A virtual column stores one composite value across several physical columns, one for each
declared child. A codec splits the composite value into named parts, kept in name order with each
name once, and joins parts back. Any pair of functions is a codec: the library asks that joining
gives back what was split, and does not check it. It does ask that splitting never fails with a
failure of the mapping layer itself, which only the library raises. `Codec.ofFns` makes the codec
of a composite type from a split and a join of its values; two codecs are made so:
- the map codec holds a composite of named data; splitting yields every entry, undeclared names
  included, and joining builds the composite from every part, NULL parts included;
- the location codec holds a city and a country, both texts.

Flattening a composite gives each child's native value in declaration order: NULL flattens to
the children's native descriptors, a part that no child declares is refused, and a child without
its part is refused. Assembling reads each child's native value back and joins the parts, or
gives NULL when every child is NULL.
-/

namespace RelMap

set_option autoImplicit false

/-- Named data split out of a composite value, in strictly increasing name order. -/
@[ext] structure Parts where
  entries : List (String × Datum)
  sorted : Fields.Sorted entries

instance : Inhabited Parts := ⟨⟨[], List.Pairwise.nil⟩⟩

namespace Parts

def ofList (pairs : List (String × Datum)) : Parts := ⟨Fields.ofList pairs, Fields.sorted_ofList pairs⟩

def find? (p : Parts) (name : String) : Option Datum := Fields.find? p.entries name

/-- Part names, in order. -/
def names (p : Parts) : List String := Fields.names p.entries

def size (p : Parts) : Nat := p.entries.length

def isEmpty (p : Parts) : Bool := p.entries.isEmpty

/-- The part read as the type `t`; an absent part is refused with `Missing the part N`. -/
def get (p : Parts) (name : String) (t : DatumType) : Outcome Datum :=
  match p.find? name with
  | some d => d.get t
  | none => Outcome.fail (.partMissing name)

end Parts

/-- How a composite value is split into parts and joined back. -/
structure Codec where
  split : Datum → Outcome Parts
  join : Parts → Outcome Datum
  /-- Splitting fails with the codec's own failures, never with a bare failure of the mapping
  layer (a missing mapper, a refused function): those only the library raises, and compiling a
  value of a virtual column splits it, so such a failure would pass for the compiler's. -/
  split_ne_fault : ∀ d g, split d ≠ .error (Failure.ofFault g)

namespace Codec

/-- A datum read as a type fails, when it has another type, with a mismatch. -/
theorem get_ne_fault (t : DatumType) (d : Datum) (g : Fault) :
    d.get t ≠ .error (Failure.ofFault g) := by
  unfold Datum.get
  split
  · nofun
  · simp [Outcome.fail, Failure.ofFault, Failure.of]

/-- The codec of the composite type `t` from a split of its values and a join: a datum of another
type is refused before it is split. -/
def ofFns (t : DatumType) (split : Datum → Outcome Parts) (join : Parts → Outcome Datum)
    (own : ∀ d g, split d ≠ .error (Failure.ofFault g)) : Codec where
  split d := do split (← d.get t)
  join := join
  split_ne_fault d g := by
    cases read : d.get t with
    | error e =>
      simp only [bind, Except.bind]
      have refused := get_ne_fault t d g
      rw [read] at refused
      -- the mismatch is passed on as it is
      exact fun same => refused (congrArg Except.error (Except.error.inj same))
    | ok value =>
      simp only [bind, Except.bind]
      exact own value g

/-- The codec of composites of named data: splitting gives every entry, and joining builds the
composite from every part. -/
def map : Codec :=
  ofFns .composite
    (fun d => match d with
      | .composite entries => .ok (Parts.ofList entries)
      | _ => .ok (Parts.ofList []))
    (fun p => .ok (.composite p.entries))
    (fun d _ => by split <;> nofun)

/-- The codec of locations, split into their city and country, both texts. -/
def location : Codec :=
  ofFns .location
    (fun d => match d with
      | .location city country =>
          .ok (Parts.ofList [("city", .string city), ("country", .string country)])
      | _ => .ok (Parts.ofList []))
    (fun p => do
      let city ← p.get "city" .string
      let country ← p.get "country" .string
      match city, country with
      | .string city, .string country => .ok (.location city country)
      | _, _ => .ok .null)
    (fun d _ => by split <;> nofun)

instance : Inhabited Codec := ⟨map⟩

end Codec

/-- A declared child of a virtual column. -/
structure VirtualChild where
  name : String
  /-- The physical column storing the child. -/
  physical : String
  type : TypeKey
  mapper : Mapper
  deriving Inhabited

/-- A composite value stored across the physical columns of its children. -/
structure VirtualColumn where
  children : List VirtualChild
  codec : Codec
  deriving Inhabited

namespace VirtualColumn

/-- The declared child of a name. -/
def child? (v : VirtualColumn) (name : String) : Option VirtualChild :=
  v.children.find? fun c => c.name == name

/-- The native value of each child, in declaration order. -/
def flatten (v : VirtualColumn) (d : Datum) : Outcome (List (VirtualChild × Value)) :=
  if d.isNull then .ok (v.children.map fun c => (c, c.mapper.native))
  else do
    let parts ← v.codec.split d
    match parts.names.find? fun name => (v.child? name).isNone with
    | some unknown => Outcome.fail (.undeclaredChild unknown)
    | none =>
        v.children.mapM fun c =>
          match parts.find? c.name with
          | some part => do
              let value ← c.mapper.toNative part
              .ok (c, value)
          | none => Outcome.fail (.missingChild c.name)

/-- Each child's datum, decoded from the native value `valueOf` gives for its position and
declaration. -/
def gather (valueOf : Nat → VirtualChild → Outcome Value) :
    List VirtualChild → Nat → Outcome (List (String × Datum))
  | [], _ => .ok []
  | c :: rest, i => do
      let value ← valueOf i c
      let datum ← c.mapper.fromNative value
      let others ← gather valueOf rest (i + 1)
      .ok ((c.name, datum) :: others)

/-- The composite value rebuilt from each child's native value, NULL when every child is NULL. -/
def assemble (v : VirtualColumn) (valueOf : Nat → VirtualChild → Outcome Value) :
    Outcome Datum := do
  let data ← gather valueOf v.children 0
  if data.all fun entry => entry.2.isNull then .ok .null
  else v.codec.join (Parts.ofList data)

end VirtualColumn

end RelMap
