/-! # Catalogs

A catalog maps names to values and remembers the order in which the names first came. Inserting
a value under a known name replaces the value and keeps the position; a new name goes last.
No name occurs twice. -/

namespace FactViews

/-- Replaces the value of the first entry with the given name, or appends an entry. -/
def Catalog.place (name : String) (value : α) : List (String × α) → List (String × α)
  | [] => [(name, value)]
  | (n, v) :: rest => if n = name then (n, value) :: rest else (n, v) :: place name value rest

theorem Catalog.map_fst_place (name : String) (value : α) (es : List (String × α)) :
    (place name value es).map Prod.fst =
      if name ∈ es.map Prod.fst then es.map Prod.fst else es.map Prod.fst ++ [name] := by
  induction es with
  | nil => simp [place]
  | cons e rest ih =>
    by_cases h : e.1 = name
    · simp [place, h]
    · have h' : name ≠ e.1 := fun hn => h hn.symm
      by_cases hm : name ∈ rest.map Prod.fst
      · rw [if_pos hm] at ih
        rw [if_pos (by simpa using Or.inr (by simpa using hm))]
        simp [place, h, ih]
      · rw [if_neg hm] at ih
        rw [if_neg (by simpa [h'] using hm)]
        simp [place, h, ih]

theorem Catalog.nodup_place {es : List (String × α)} (h : (es.map Prod.fst).Nodup)
    (name : String) (value : α) : ((place name value es).map Prod.fst).Nodup := by
  rw [map_fst_place]
  split
  · exact h
  · rename_i hm
    exact List.nodup_append.2 ⟨h, by simp, fun a ha b hb => by
      rw [List.mem_singleton.1 hb]
      exact fun hab => hm (hab ▸ ha)⟩

/-- Values under pairwise distinct names, in the order of first insertion. -/
structure Catalog (α : Type) where
  entries : List (String × α)
  distinct : (entries.map Prod.fst).Nodup

namespace Catalog

/-- The catalog without entries. -/
def empty : Catalog α := ⟨[], List.nodup_nil⟩

instance : Inhabited (Catalog α) := ⟨empty⟩

instance [DecidableEq α] : DecidableEq (Catalog α) := fun a b =>
  if h : a.entries = b.entries then
    isTrue (by cases a; cases b; simp_all)
  else
    isFalse fun hab => h (congrArg entries hab)

instance [Repr α] : Repr (Catalog α) := ⟨fun c p => reprPrec c.entries p⟩

/-- Puts a value under a name. -/
def insert (c : Catalog α) (name : String) (value : α) : Catalog α :=
  ⟨place name value c.entries, nodup_place c.distinct name value⟩

/-- Inserts entries one after another. -/
def insertAll (c : Catalog α) (es : List (String × α)) : Catalog α :=
  es.foldl (fun acc e => acc.insert e.1 e.2) c

/-- The catalog that inserting the entries one after another builds. -/
def ofList (es : List (String × α)) : Catalog α := empty.insertAll es

/-- The value under a name. -/
def find? (c : Catalog α) (name : String) : Option α :=
  (c.entries.find? (·.1 = name)).map Prod.snd

/-- The names, in order of first insertion. -/
def names (c : Catalog α) : List String := c.entries.map Prod.fst

/-- The values, in order of the first insertion of their names. -/
def values (c : Catalog α) : List α := c.entries.map Prod.snd

/-- The number of entries. -/
def size (c : Catalog α) : Nat := c.entries.length

/-- Whether there is no entry. -/
def isEmpty (c : Catalog α) : Bool := c.entries.isEmpty

end Catalog
end FactViews
