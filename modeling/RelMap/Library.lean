import RelMap.Schema.Catalog

/-!
# The library catalog

A small catalog of publishers, authors and books, used as a ready-made schema:

```text
publishers (id, name)
authors    (id, name, publisher -> publishers.id, location { city, country })
books      (id, title, isbn, author -> authors.id, tags)
```

Its registry is the default one with book numbers stored as their text. Its compiler accepts the
functions `lower`, `upper`, `length` and `coalesce`.
-/

namespace RelMap

set_option autoImplicit false

namespace Library

/-- The default registry with book numbers stored as text. -/
def registry : Registry :=
  match Registry.withDefaults.registerVia (.named .isbn) (.named .string) .isbnText with
  | .ok r => r
  | .error _ => Registry.withDefaults

/-- A 64-bit integer key generated by the database. -/
def idColumn : ColumnSpec := { name := "id", type := .named .i64, key := .primary, autoincrement := true }

/-- A plain text column. -/
def textColumn (name : String) : ColumnSpec := { name := name, type := .named .string }

def publishers : TableSpec :=
  { name := "publishers", columns := [idColumn, textColumn "name"] }

def authors : TableSpec :=
  { name := "authors"
    columns := [idColumn, textColumn "name",
      { name := "publisher", type := .named .i64, shape := .reference ⟨"publishers", "id"⟩ },
      { name := "location", type := .named .location, shape := .composite .location
        children := [{ name := "city", type := .named .string },
          { name := "country", type := .named .string }] }] }

def books : TableSpec :=
  { name := "books"
    columns := [idColumn, textColumn "title",
      { name := "isbn", type := .named .isbn },
      { name := "author", type := .named .i64, shape := .reference ⟨"authors", "id"⟩ },
      { name := "tags", type := .list (.named .string) }] }

/-- The functions the library's compiler accepts. -/
def functions : List String := ["lower", "upper", "length", "coalesce"]

/-- The catalog and the registry once its tables are built. -/
def catalogAndRegistry : Catalog × Registry :=
  let start : Catalog := { allowed := some functions }
  [publishers, authors, books].foldl (fun (acc : Catalog × Registry) spec =>
    match (spec.build.run).run acc.2 with
    | (.ok t, r) => (acc.1.add t, r)
    | (.error _, r) => (acc.1, r)) (start, registry)

def catalog : Catalog := catalogAndRegistry.1

/-- A book record: its title, book number, author and tags. -/
def book (title isbn : String) (author : Int64) (tags : List String) : Record :=
  Record.ofList [("title", .string title), ("isbn", .isbn isbn), ("author", .i64 author),
    ("tags", .list (tags.map Datum.string))]

end Library

end RelMap
