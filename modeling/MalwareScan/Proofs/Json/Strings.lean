import MalwareScan.Proofs.Json.Grammar

/-!
# Strings are read

A string is read from every text that spells it, piece by piece. Each character of a written
string is one piece, itself or an escape. A control character without a short escape is written as
a unit that belongs to no pair, so the unit alone is the character.
-/

namespace MalwareScan.Json

/-! ## Pieces -/

/-- A piece is read from a text that spells it. -/
theorem SpellsPiece.read {piece : Piece} {cs : List Char} (h : SpellsPiece piece cs)
    (pieces : List Piece) (rest : List Char) :
    readPieces pieces (cs ++ rest) = readPieces (piece :: pieces) rest := by
  cases h with
  | char hquote hbackslash hcontrol =>
      rw [List.singleton_append, readPieces, if_neg hcontrol]
      -- All other ways to go on begin with a quote or a backslash.
      · exact hquote
      · exact fun heq => absurd heq hbackslash
      · exact fun _ _ _ _ _ heq => absurd heq hbackslash
      · exact fun _ heq => absurd heq hbackslash
      · exact fun _ _ heq => absurd heq hbackslash
  | @escape e c hescape =>
      have hunit : e ≠ 'u' := by rintro rfl; cases hescape
      rw [List.cons_append, List.singleton_append, readPieces, hescape]
      · exact fun _ _ _ _ _ heq => absurd heq hunit
      · exact hunit
  | unit hunit =>
      simp only [List.cons_append, List.nil_append]
      rw [readPieces, hunit]

/-- The pieces of a string are read up to its closing quote. -/
theorem SpellsPieces.read {pieces : List Piece} {cs : List Char} (h : SpellsPieces pieces cs)
    (before : List Piece) (rest : List Char) :
    readPieces before (cs ++ '"' :: rest) = (pieces.reverse ++ before, .ok rest) := by
  induction h generalizing before with
  | nil => rfl
  | cons hpiece _ ih =>
      rw [List.append_assoc, hpiece.read, ih, List.reverse_cons, List.append_assoc,
        List.singleton_append]

/-- A string is read behind its opening quote. -/
theorem SpellsString.read {text : Except Breach String} {cs : List Char} (h : SpellsString text cs)
    (rest : List Char) :
    ∃ tail, cs = '"' :: tail ∧ readString (tail ++ rest) = .ok (text, rest) := by
  obtain @⟨pieces, cs, hpieces⟩ := h
  refine ⟨cs ++ ['"'], rfl, ?_⟩
  rw [List.append_assoc, List.singleton_append]
  simp only [readString, hpieces.read, List.append_nil, List.reverse_reverse]

/-! ## The texts of strings -/

/-- The piece stands for the character, wherever no pair is open. -/
def Piece.Denotes (piece : Piece) (c : Char) : Prop :=
  ∀ cs, Joined.add ⟨cs, none⟩ piece = some ⟨c :: cs, none⟩

/-- A character stands for itself. -/
theorem denotes_char (c : Char) : (Piece.char c).Denotes c :=
  fun _ => rfl

/-- The unit of a control character stands for it. -/
theorem denotes_unit {c : Char} (h : c.toNat < 32) : (Piece.unit c.toNat).Denotes c := by
  intro cs
  have hlead : isLead c.toNat = false := by
    rw [isLead, decide_eq_false (by omega), Bool.false_and]
  have htrail : isTrail c.toNat = false := by
    rw [isTrail, decide_eq_false (by omega), Bool.false_and]
  simp only [Joined.add, hlead, htrail, Char.ofNat_toNat, Bool.false_eq_true, if_false]

/-- The digits of a control character denote its unit. -/
theorem hexUnit?_control {n : Nat} (h : n < 32) :
    hexUnit? '0' '0' (Nat.digitChar (n / 16)) (Nat.digitChar (n % 16)) = some n := by
  have hall : ∀ n < 32,
      hexUnit? '0' '0' (Nat.digitChar (n / 16)) (Nat.digitChar (n % 16)) = some n := by decide
  exact hall n h

/-- The text of a character spells a piece that stands for it. -/
theorem spellsPiece_escape (c : Char) :
    ∃ piece : Piece, piece.Denotes c ∧ SpellsPiece piece (escape c) := by
  have hshort : ∀ e, simpleEscape? e = some c →
      ∃ piece : Piece, piece.Denotes c ∧ SpellsPiece piece ['\\', e] :=
    fun e he => ⟨.char c, denotes_char c, .escape he⟩
  rw [escape]
  split
  next h => exact hshort '"' (h.symm ▸ rfl)
  next hquote =>
    split
    next h => exact hshort '\\' (h.symm ▸ rfl)
    next hbackslash =>
      split
      next h => exact hshort 'b' (h ▸ rfl)
      split
      next h => exact hshort 't' (h ▸ rfl)
      split
      next h => exact hshort 'n' (h ▸ rfl)
      split
      next h => exact hshort 'f' (h ▸ rfl)
      split
      next h => exact hshort 'r' (h ▸ rfl)
      split
      next h => exact ⟨.unit c.toNat, denotes_unit h, .unit (hexUnit?_control h)⟩
      next h => exact ⟨.char c, denotes_char c, .char hquote hbackslash h⟩

/-- The text of characters spells pieces that join to them. -/
theorem spellsPieces_escape (cs : List Char) :
    ∃ pieces : List Piece, SpellsPieces pieces (cs.flatMap escape) ∧
      ∀ before, pieces.foldlM Joined.add ⟨before, none⟩ = some ⟨cs.reverse ++ before, none⟩ := by
  induction cs with
  | nil => exact ⟨[], .nil, fun _ => rfl⟩
  | cons c cs ih =>
      obtain ⟨piece, hdenotes, hpiece⟩ := spellsPiece_escape c
      obtain ⟨pieces, hpieces, hjoin⟩ := ih
      refine ⟨piece :: pieces, .cons hpiece hpieces, fun before => ?_⟩
      rw [List.foldlM_cons, hdenotes, Option.bind_eq_bind, Option.bind_some, hjoin,
        List.reverse_cons, List.append_assoc, List.singleton_append]

/-- A written string spells what was written. -/
theorem spellsString_quoted (s : String) : SpellsString (.ok s) (quoted s) := by
  obtain ⟨pieces, hpieces, hjoin⟩ := spellsPieces_escape s.toList
  have htext : joinPieces pieces none = .ok s := by
    rw [joinPieces, hjoin]
    simp
  exact htext ▸ .pieces hpieces

end MalwareScan.Json
