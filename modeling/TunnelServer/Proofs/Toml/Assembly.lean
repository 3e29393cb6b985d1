import TunnelServer.Proofs.Toml.Layout

/-!
# Lines are put together to tables

The assignments under a header fill its table, if no key is given twice, and a header for a table
inside another one adds to it. A text without carriage returns is read as the tables of its lines.
-/

namespace TunnelServer.Toml

/-- The assignments that give these entries. -/
def Entries.assignments (entries : Entries) : List Assignment :=
  entries.map fun entry => ⟨[], entry.1, entry.2⟩

namespace Entries

variable {entries items inner : Entries} {key outer : String} {value : Value}

theorem find?_of_notMem (h : key ∉ entries.map Prod.fst) : entries.find? key = none := by
  induction entries with
  | nil => rfl
  | cons entry entries ih =>
    simp only [List.map_cons, List.mem_cons, not_or] at h
    have other : (key == entry.1) = false := by simpa using h.1
    rw [find?, List.lookup_cons, other]
    exact ih h.2

theorem add?_of_notMem (h : key ∉ entries.map Prod.fst) :
    entries.add? key value = some (entries ++ [(key, value)]) := by
  rw [add?, find?_of_notMem h]

theorem putAll?_assignments (h : ((entries ++ items).map Prod.fst).Nodup) :
    putAll? items.assignments entries = some (entries ++ items) := by
  induction items generalizing entries with
  | nil => simp [putAll?, assignments]
  | cons item items ih =>
    have fresh : item.1 ∉ entries.map Prod.fst := by
      rw [List.map_append, List.map_cons, List.nodup_append] at h
      intro there
      exact h.2.2 _ there _ List.mem_cons_self rfl
    have put : entries.put? [] item.1 item.2 = some (entries ++ [item]) := add?_of_notMem fresh
    have distinct : ((entries ++ [item] ++ items).map Prod.fst).Nodup := by simpa using h
    have later := ih distinct
    rw [List.append_assoc] at later
    exact (congrArg (Option.bind · _) put).trans later

theorem putAll?_nil (h : (items.map Prod.fst).Nodup) : putAll? items.assignments [] = some items :=
  putAll?_assignments h

theorem addBlock?_top (fresh : key ∉ entries.map Prod.fst) (h : (items.map Prod.fst).Nodup) :
    entries.addBlock? ⟨⟨false, [], key⟩, items.assignments⟩ =
      some (entries ++ [(key, .table .header items)]) := by
  simp [addBlock?, within, openTable?, find?_of_notMem fresh, putAll?_nil h]

theorem addBlock?_inside (there : entries.find? outer = some (.table .header inner))
    (fresh : key ∉ inner.map Prod.fst) (h : (items.map Prod.fst).Nodup) :
    entries.addBlock? ⟨⟨false, [outer], key⟩, items.assignments⟩ =
      some (entries.replace outer (.table .header (inner ++ [(key, .table .header items)]))) := by
  simp [addBlock?, within, openTable?, there, find?_of_notMem fresh, putAll?_nil h]

end Entries

theorem groupLines_append (items : Entries) (found : List Scanner.Line) :
    groupLines (items.assignments.map .assignment ++ found) =
      (items.assignments ++ (groupLines found).1, (groupLines found).2) := by
  induction items with
  | nil => rfl
  | cons item items ih =>
    have cons : Entries.assignments (item :: items) =
        ⟨[], item.1, item.2⟩ :: Entries.assignments items := rfl
    rw [cons, List.map_cons, List.cons_append, groupLines, ih]
    rfl

theorem unifyLineEnds_eq {text : List Char} (h : '\r' ∉ text) : unifyLineEnds text = some text := by
  induction text with
  | nil => rfl
  | cons c text ih =>
    simp only [List.mem_cons, not_or] at h
    have plain : c ≠ '\r' := fun he => h.1 he.symm
    rw [unifyLineEnds]
    · rw [if_neg plain, ih h.2]
      rfl
    · intro rest he
      exact absurd he plain

/-- A text is read as the tables of its lines. -/
theorem read?_of_reads {text : String} {found : List Scanner.Line}
    (reads : Scanner.Reads text.toList found) (unmarked : text.toList.head? ≠ some '\uFEFF') :
    read? text = Entries.ofBlocks? (groupLines found).1 (groupLines found).2 := by
  have whole : withoutMark text.toList = text.toList := by
    unfold withoutMark
    split
    · rename_i he
      rw [he] at unmarked
      exact absurd rfl unmarked
    · rfl
  rw [read?, whole, unifyLineEnds_eq reads.unbroken]
  simp [reads.lines]

end TunnelServer.Toml
