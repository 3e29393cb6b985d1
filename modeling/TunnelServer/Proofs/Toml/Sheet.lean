import TunnelServer.Proofs.Toml.Assembly

/-!
# Documents in sections

A sheet is a document that is written line by line: values under bare keys, sections under headers,
and sections inside these. The values may be written in any way. Every sheet is read as the tables
that its sections make, in the order in which they stand.
-/

namespace TunnelServer.Toml

open Scanner (IsBare Stands Reads Line)

/-- A value under a key, and how it is written. -/
structure Item where
  key : String
  written : List Char
  value : Value

/-- A section inside another one. -/
structure Part where
  key : String
  items : List Item

structure Chapter where
  key : String
  items : List Item
  parts : List Part

structure Sheet where
  items : List Item
  chapters : List Chapter

/-! ## The text of a sheet -/

def Item.text (item : Item) : List Char :=
  item.key.toList ++ ' ' :: '=' :: ' ' :: (item.written ++ ['\n'])

def Part.text (outer : String) (part : Part) : List Char :=
  '[' :: (outer.toList ++ '.' :: (part.key.toList ++ ']' :: '\n' :: part.items.flatMap Item.text))

def Chapter.text (chapter : Chapter) : List Char :=
  '[' :: (chapter.key.toList ++ ']' :: '\n' ::
    (chapter.items.flatMap Item.text ++ chapter.parts.flatMap (Part.text chapter.key)))

def Sheet.text (sheet : Sheet) : String :=
  String.ofList (sheet.items.flatMap Item.text ++ sheet.chapters.flatMap Chapter.text)

/-! ## The tables of a sheet -/

def Item.entries (items : List Item) : Entries := items.map fun item => (item.key, item.value)

def Part.entry (part : Part) : String × Value :=
  (part.key, .table .header (Item.entries part.items))

def Chapter.entries (chapter : Chapter) : Entries :=
  Item.entries chapter.items ++ chapter.parts.map Part.entry

def Chapter.entry (chapter : Chapter) : String × Value :=
  (chapter.key, .table .header chapter.entries)

def Sheet.entries (sheet : Sheet) : Entries :=
  Item.entries sheet.items ++ sheet.chapters.map Chapter.entry

/-! ## Sheets without faults -/

def Entries.Distinct (entries : Entries) : Prop := (entries.map Prod.fst).Nodup

structure Item.WellFormed (item : Item) : Prop where
  bare : IsBare item.key.toList
  stands : Stands item.written item.value

structure Part.WellFormed (part : Part) : Prop where
  bare : IsBare part.key.toList
  items : ∀ item ∈ part.items, item.WellFormed
  distinct : (Item.entries part.items).Distinct

structure Chapter.WellFormed (chapter : Chapter) : Prop where
  bare : IsBare chapter.key.toList
  items : ∀ item ∈ chapter.items, item.WellFormed
  parts : ∀ part ∈ chapter.parts, part.WellFormed
  distinct : chapter.entries.Distinct

structure Sheet.WellFormed (sheet : Sheet) : Prop where
  items : ∀ item ∈ sheet.items, item.WellFormed
  chapters : ∀ chapter ∈ sheet.chapters, chapter.WellFormed
  distinct : sheet.entries.Distinct

/-! ## The lines of a sheet -/

section Lines

variable {items : List Item} {part : Part} {parts : List Part} {chapter : Chapter}
  {chapters : List Chapter} {sheet : Sheet} {outer : String} {rest : List Char} {found : List Line}
  {later : List Block}

def Item.lines (items : List Item) : List Line :=
  (Item.entries items).assignments.map .assignment

def Part.lines (outer : String) (part : Part) : List Line :=
  .header ⟨false, [outer], part.key⟩ :: Item.lines part.items

def Chapter.lines (chapter : Chapter) : List Line :=
  .header ⟨false, [], chapter.key⟩ ::
    (Item.lines chapter.items ++ chapter.parts.flatMap (Part.lines chapter.key))

def Sheet.lines (sheet : Sheet) : List Line :=
  Item.lines sheet.items ++ sheet.chapters.flatMap Chapter.lines

def Part.block (outer : String) (part : Part) : Block :=
  ⟨⟨false, [outer], part.key⟩, (Item.entries part.items).assignments⟩

def Chapter.blocks (chapter : Chapter) : List Block :=
  ⟨⟨false, [], chapter.key⟩, (Item.entries chapter.items).assignments⟩ ::
    chapter.parts.map (Part.block chapter.key)

end Lines

namespace Entries

variable {entries inner : Entries} {key outer : String} {value : Value} {parts : List Part}
  {chapters : List Chapter}

theorem Distinct.left (h : (entries ++ inner).Distinct) : entries.Distinct := by
  rw [Distinct, List.map_append, List.nodup_append] at h
  exact h.1

theorem Distinct.notMem {entry : String × Value} (h : (entries ++ entry :: inner).Distinct) :
    entry.1 ∉ entries.map Prod.fst := by
  rw [Distinct, List.map_append, List.nodup_append] at h
  intro there
  exact h.2.2 _ there _ List.mem_cons_self rfl

end Entries

namespace Sheet

variable {sheet : Sheet}

end Sheet

end TunnelServer.Toml
