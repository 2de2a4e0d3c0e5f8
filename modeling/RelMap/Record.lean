import RelMap.Datum.Basic

/-!
# Records

A record is a set of named data, kept in name order. Setting a field gives a new record; an
absent field reads as NULL. Reading a field as a type fails with
`The record does not have the field F` when the field is absent, and with the datum's type
mismatch otherwise.
-/

namespace RelMap

set_option autoImplicit false

/-- Named data, sorted by name, each name once. -/
structure Record where
  fields : List (String × Datum)
  deriving Inhabited

namespace Record

def empty : Record := ⟨[]⟩

/-- The record with `name` set to `d`. -/
def set (r : Record) (name : String) (d : Datum) : Record := ⟨Fields.insert r.fields name d⟩

/-- A record from pairs, a later pair winning over an earlier one of the same name. -/
def ofList (pairs : List (String × Datum)) : Record := ⟨Fields.ofList pairs⟩

/-- The field, if present. -/
def get? (r : Record) (name : String) : Option Datum := Fields.find? r.fields name

/-- The field, NULL when absent. -/
def datum (r : Record) (name : String) : Datum := (r.get? name).getD .null

/-- The field read as the type `t`. -/
def value (r : Record) (name : String) (t : DatumType) : Outcome Datum :=
  match r.get? name with
  | some d => d.get t
  | none => Outcome.fail (.fieldMissing name)

/-- The field read as the type `t`, NULL (or an absent field) giving NULL. -/
def valueOpt (r : Record) (name : String) (t : DatumType) : Outcome Datum :=
  (r.datum name).getOpt t

def size (r : Record) : Nat := r.fields.length

def isEmpty (r : Record) : Bool := r.fields.isEmpty

/-- Records are equal when they have the same names with equal data. -/
def beq (a b : Record) : Bool := Datum.entriesEq a.fields b.fields

instance : BEq Record := ⟨beq⟩

end Record

end RelMap
