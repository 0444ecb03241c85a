import SeriesExport.Error
import SeriesExport.Text.Split

/-!
# Attributes

A catalog gives each attribute that a user may ask for the key that records have it under. No two entries have the
same name and no two the same key. A projection is a list of keys: the columns of the output, in order.
-/

namespace SeriesExport

/-- The keys of the columns, in order. -/
abbrev Projection := List String

structure Catalog where
  /-- names and keys -/
  entries : List (String × String)
  names_nodup : (entries.map Prod.fst).Nodup := by decide
  keys_nodup : (entries.map Prod.snd).Nodup := by decide

namespace Catalog

/-- The attributes of raw data. -/
def data : Catalog where
  entries := [("name", "n"), ("time", "t"), ("value", "v"), ("unit", "u")]

/-- The attributes of every aggregation; its operators come in addition. -/
def aggregation : Catalog where
  entries := [("name", "n"), ("starttime", "ts"), ("endtime", "te")]

def empty : Catalog where
  entries := []

def names (c : Catalog) : List String := c.entries.map Prod.fst

def keys (c : Catalog) : List String := c.entries.map Prod.snd

/-- The key of a name. -/
def key? (c : Catalog) (name : String) : Option String := c.entries.lookup name

theorem nodup_concat {α : Type} {l : List α} {a : α} (hl : l.Nodup) (ha : a ∉ l) : (l ++ [a]).Nodup := by
  rw [List.nodup_append]
  exact ⟨hl, by simp, fun x hx y hy => by simp only [List.mem_singleton] at hy; subst hy; exact fun h => ha (h ▸ hx)⟩

/-- The catalog with one more entry, whose name and key must be new. -/
def add (c : Catalog) (name key : String) : Result Catalog :=
  if h : name ∉ c.names ∧ key ∉ c.keys then
    .ok ⟨c.entries ++ [(name, key)], by simpa using nodup_concat c.names_nodup h.1,
      by simpa using nodup_concat c.keys_nodup h.2⟩
  else .error (.duplicateEntry name key)

def ofList (entries : List (String × String)) : Result Catalog :=
  entries.foldlM (fun c (name, key) => c.add name key) empty

/-- The keys of the names that are asked for, in their order; refused at the first name that is not in the catalog. -/
def project (c : Catalog) (names : List String) : Result Projection :=
  names.mapM fun name => match c.key? name with
    | some key => .ok key
    | none => .error (.invalidAttribute name)

end Catalog

/-- The attributes that a comma separated list asks for; blanks do not count, and a blank list asks for none. -/
def attributeNames (list : String) : List String :=
  match Text.squeezeChars list.toList with
  | [] => []
  | cs => (Text.splitOn ',' cs).map String.ofList

example : attributeNames "name, time ,value" = ["name", "time", "value"] ∧ attributeNames " " = [] ∧
    attributeNames "name," = ["name", ""] := by decide +kernel

end SeriesExport
