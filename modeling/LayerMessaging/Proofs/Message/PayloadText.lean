import LayerMessaging.Proofs.Message.PayloadGrammar

namespace LayerMessaging.Payload

open Text

inductive Element (word : Uint256) : List Char → Prop
  | plain {cs : List Char} (h : Numeral.Spells cs word.val) : Element word cs
  | quoted {cs : List Char} (h : Numeral.Spells cs word.val) : Element word ('"' :: cs ++ ['"'])

/-- Words with separators between them, and as many more as one likes anywhere but in a word. -/
inductive Lists : List Uint256 → List Char → Prop
  | nil : Lists [] []
  | separator {s : Char} {words : List Uint256} {cs : List Char} (hs : isSeparator s = true)
      (h : Lists words cs) : Lists words (s :: cs)
  | last {word : Uint256} {piece : List Char} (h : Element word piece) : Lists [word] piece
  | more {word : Uint256} {words : List Uint256} {s : Char} {piece cs : List Char}
      (h : Element word piece) (hs : isSeparator s = true) (hrest : Lists words cs) :
      Lists (word :: words) (piece ++ s :: cs)

inductive Writes (words : List Uint256) : List Char → Prop
  | bare {before cs behind : List Char} (hbefore : ∀ c ∈ before, isBlank c = true)
      (hbehind : ∀ c ∈ behind, isBlank c = true) (h : Lists words cs) :
      Writes words (before ++ cs ++ behind)
  | bracketed {before cs behind : List Char} (hbefore : ∀ c ∈ before, isBlank c = true)
      (hbehind : ∀ c ∈ behind, isBlank c = true) (h : Lists words cs) :
      Writes words (before ++ ('[' :: cs ++ [']']) ++ behind)

variable {cs piece : List Char} {word : Uint256} {words : List Uint256}

theorem Element.toPiece (h : Element word piece) : Piece Numeral.Spells [word] piece := by
  cases h with
  | plain h =>
    have hpiece := @Piece.numeral Numeral.Spells [] piece [] word nofun nofun h
    rwa [List.nil_append, List.append_nil] at hpiece
  | quoted h => exact @Piece.numeral _ ['"'] _ ['"'] _ (by simp [isQuote]) (by simp [isQuote]) h

theorem Lists.toPieces (h : Lists words cs) : Pieces Numeral.Spells words cs := by
  induction h with
  | nil => exact .last (.empty nofun)
  | separator hs h ih => exact @Pieces.more _ [] _ _ [] _ (.empty nofun) hs ih
  | last h => exact .last h.toPiece
  | more h hs hrest ih => exact .more h.toPiece hs ih

/-- Blanks are separators, so that there may be any of them around the pieces. -/
theorem Writes.layout (h : Writes words cs) : Layout Numeral.Spells words cs := by
  cases h with
  | bare hbefore hbehind h =>
    refine .bare (Pieces.of_forall₂ ?_)
    rw [pieces_append_blank hbehind, pieces_blank_append hbefore]
    exact h.toPieces.forall₂ standApart_spells
  | bracketed hbefore hbehind h => exact .bracketed hbefore hbehind h.toPieces

theorem Writes.ofText_eq {text : String} (h : Writes words text.toList) :
    ofText text = .ok ⟨words⟩ :=
  ofText_eq_ok_iff.mpr (layout_spells_iff.mp h.layout).1

/-- The decimal forms of words, with a comma between two, are a list of them. -/
theorem lists_decimal (words : List Uint256) :
    Lists words ([','].intercalate (words.map fun word => word.decimal.toList)) := by
  induction words with
  | nil => exact .nil
  | cons word words ih =>
    have helement : Element word word.decimal.toList := .plain (Numeral.spells_decimal word.val)
    cases words with
    | nil =>
      rw [List.map_singleton, List.intercalate_singleton]
      exact .last helement
    | cons next words =>
      rw [List.map_cons, List.map_cons, List.intercalate_cons_cons, List.append_assoc]
      exact .more helement (by decide) ih

theorem writes_text (payload : Payload) : Writes payload.words payload.text.toList := by
  have htext : payload.text.toList =
      [] ++ ('[' :: [','].intercalate (payload.words.map fun word => word.decimal.toList)
        ++ [']']) ++ [] := by
    unfold text
    simp [String.toList_append, String.toList_intercalate, Function.comp_def]
  rw [htext]
  exact .bracketed nofun nofun (lists_decimal payload.words)

/-- Every text that writes a payload is read as that payload, and its own text is one of them. -/
theorem every_layout_reads (payload : Payload) :
    (∀ text : String, Writes payload.words text.toList → ofText text = .ok payload) ∧
      ofText payload.text = .ok payload :=
  ⟨fun _ h => h.ofText_eq, (writes_text payload).ofText_eq⟩

theorem uneven_layout_reads :
    ofText " [ \"0x0A\",,12\t0003 ] " =
      .ok ⟨[⟨10, by decide⟩, ⟨12, by decide⟩, ⟨3, by decide⟩]⟩ := by
  have hten : Element ⟨10, by decide⟩ ('"' :: ['0', 'x', '0', 'A'] ++ ['"']) :=
    .quoted (@Numeral.Spells.hexadecimal ['0', 'A'] (by decide) (List.all_eq_true.mp (by decide)))
  have htwelve : Element ⟨12, by decide⟩ ['1', '2'] :=
    .plain (@Numeral.Spells.decimal ['1', '2'] (by decide) (List.all_eq_true.mp (by decide)))
  have hthree : Element ⟨3, by decide⟩ ['0', '0', '0', '3'] :=
    .plain (@Numeral.Spells.decimal ['0', '0', '0', '3'] (by decide)
      (List.all_eq_true.mp (by decide)))
  have hend : Lists _ ['0', '0', '0', '3', ' '] := .more hthree (by decide) .nil
  have hmiddle : Lists _ [',', '1', '2', '\t', '0', '0', '0', '3', ' '] :=
    .separator (by decide) (.more htwelve (by decide) hend)
  have hlists : Lists _ [' ', '"', '0', 'x', '0', 'A', '"', ',', ',', '1', '2', '\t', '0', '0',
      '0', '3', ' '] :=
    .separator (by decide) (.more hten (by decide) hmiddle)
  have htext : " [ \"0x0A\",,12\t0003 ] ".toList = [' ', '[', ' ', '"', '0', 'x', '0', 'A', '"',
    ',', ',', '1', '2', '\t', '0', '0', '0', '3', ' ', ']', ' '] := by decide
  have hblank : ∀ c ∈ [' '], isBlank c = true := List.all_eq_true.mp (by decide)
  apply (every_layout_reads _).1
  rw [htext]
  exact @Writes.bracketed _ [' '] _ [' '] hblank hblank hlists

end LayerMessaging.Payload
