/-! # Splitting at a separator

A text is cut at every occurrence of a separator. The pieces, with the separator put back between
them, are the text again; and pieces that hold no separator are found again.
-/

namespace TunnelServer.Text

/-- The pieces between the separators, at least one. -/
def splitOn (separator : Char) : List Char → List (List Char)
  | [] => [[]]
  | c :: rest =>
    if c = separator then [] :: splitOn separator rest
    else
      match splitOn separator rest with
      | [] => [[c]]
      | piece :: pieces => (c :: piece) :: pieces

def joinWith (separator : Char) : List (List Char) → List Char
  | [] => []
  | [piece] => piece
  | piece :: next :: pieces => piece ++ separator :: joinWith separator (next :: pieces)

theorem splitOn_ne_nil (separator : Char) (text : List Char) : splitOn separator text ≠ [] := by
  cases text with
  | nil => simp [splitOn]
  | cons c rest =>
    rw [splitOn]
    split
    · simp
    · split <;> simp

theorem joinWith_splitOn (separator : Char) (text : List Char) :
    joinWith separator (splitOn separator text) = text := by
  induction text with
  | nil => rfl
  | cons c rest ih =>
    rw [splitOn]
    split
    · next h =>
      subst h
      cases hs : splitOn c rest with
      | nil => exact absurd hs (splitOn_ne_nil c rest)
      | cons piece pieces => rw [joinWith, ← hs, ih]; rfl
    · cases hs : splitOn separator rest with
      | nil => exact absurd hs (splitOn_ne_nil separator rest)
      | cons piece pieces =>
        rw [hs] at ih
        cases pieces with
        | nil => simpa [joinWith] using ih
        | cons next pieces => simpa [joinWith] using ih

theorem splitOn_of_notMem {separator : Char} {text : List Char} (h : separator ∉ text) :
    splitOn separator text = [text] := by
  induction text with
  | nil => rfl
  | cons c rest ih =>
    simp only [List.mem_cons, not_or] at h
    rw [splitOn, if_neg (fun hc => h.1 hc.symm), ih h.2]

theorem splitOn_append {separator : Char} {piece : List Char} (h : separator ∉ piece)
    (rest : List Char) :
    splitOn separator (piece ++ separator :: rest) = piece :: splitOn separator rest := by
  induction piece with
  | nil => simp [splitOn]
  | cons c piece ih =>
    simp only [List.mem_cons, not_or] at h
    rw [List.cons_append, splitOn, if_neg (fun hc => h.1 hc.symm), ih h.2]

theorem splitOn_joinWith {separator : Char} {pieces : List (List Char)}
    (hne : pieces ≠ []) (h : ∀ piece ∈ pieces, separator ∉ piece) :
    splitOn separator (joinWith separator pieces) = pieces := by
  induction pieces with
  | nil => exact absurd rfl hne
  | cons piece pieces ih =>
    have hpiece := h piece (List.mem_cons_self ..)
    cases pieces with
    | nil => exact splitOn_of_notMem hpiece
    | cons next pieces =>
      rw [joinWith, splitOn_append hpiece, ih (by simp)
        (fun piece hp => h piece (List.mem_cons_of_mem _ hp))]

end TunnelServer.Text
