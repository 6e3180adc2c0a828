import LayerMessaging.Proofs.EnvFile.Key
import LayerMessaging.Proofs.Text.Utf8

namespace LayerMessaging.EnvFile

open Text

variable {key key' : KeyDigits}

theorem physicalLines_ne_nil {bytes : Bytes} (h : bytes ≠ []) : physicalLines bytes ≠ [] := by
  cases bytes with
  | nil => exact (h rfl).elim
  | cons b rest =>
    rw [physicalLines]
    split
    · exact List.cons_ne_nil _ _
    · split <;> exact List.cons_ne_nil _ _

/-- Behind a line break the lines begin anew. -/
theorem physicalLines_append {before : Bytes} (h : before = [] ∨ before.getLast? = some 10)
    (rest : Bytes) :
    physicalLines (before ++ rest) = physicalLines before ++ physicalLines rest := by
  induction before with
  | nil => rfl
  | cons b before ih =>
    rcases h with h | h
    · cases h
    · by_cases hnil : before = []
      · subst hnil
        cases h
        rfl
      · obtain ⟨line, lines, hlines⟩ := List.exists_cons_of_ne_nil (physicalLines_ne_nil hnil)
        rw [List.getLast?_cons_of_ne_nil hnil] at h
        have htail := ih (.inr h)
        rw [hlines] at htail
        rw [List.cons_append, physicalLines, physicalLines, htail, hlines]
        split <;> rfl

/-- Bytes without a line break stand in front of the first line. -/
theorem physicalLines_of_no_break {first : Bytes} (hne : first ≠ []) (h : ∀ b ∈ first, b ≠ 10)
    (rest : Bytes) :
    physicalLines (first ++ rest) =
      (first ++ (physicalLines rest).headD []) :: (physicalLines rest).tail := by
  induction first with
  | nil => exact (hne rfl).elim
  | cons b first ih =>
    have hb := h b (List.mem_cons_self ..)
    rw [List.cons_append, physicalLines, if_neg hb]
    by_cases hnil : first = []
    · subst hnil
      rw [List.nil_append]
      cases physicalLines rest <;> rfl
    · rw [ih hnil fun d hd => h d (List.mem_cons_of_mem _ hd)]
      rfl

theorem scan_comment (cs : List Char) : scan .comment cs = (.comment, []) := by
  cases cs <;> rfl

theorem scan_cons_of_comment {state : LineState} {c : Char} (h : state.next c = .comment)
    (rest : List Char) : scan state (c :: rest) = (.comment, []) := by
  rw [scan, h]

theorem scan_cons {state : LineState} {c : Char} (h : state.next c ≠ .comment) (rest : List Char) :
    scan state (c :: rest) =
      ((scan (state.next c) rest).1, c :: (scan (state.next c) rest).2) := by
  rw [scan]
  split
  · rename_i heq
    exact (h heq).elim
  · rfl

/-- A comment hides what follows. -/
theorem scan_append_of_comment {state : LineState} {cs : List Char}
    (h : (scan state cs).1 = .comment) (rest : List Char) :
    scan state (cs ++ rest) = scan state cs := by
  induction cs generalizing state with
  | nil =>
    cases h
    exact scan_comment rest
  | cons c cs ih =>
    by_cases hc : state.next c = .comment
    · rw [List.cons_append, scan_cons_of_comment hc, scan_cons_of_comment hc]
    · rw [scan_cons hc] at h
      rw [List.cons_append, scan_cons hc, scan_cons hc, ih h]

theorem scan_append {state : LineState} {cs : List Char} (h : (scan state cs).1 ≠ .comment)
    (rest : List Char) :
    scan state (cs ++ rest) =
      ((scan (scan state cs).1 rest).1, cs ++ (scan (scan state cs).1 rest).2) := by
  induction cs generalizing state with
  | nil => rfl
  | cons c cs ih =>
    have hc : state.next c ≠ .comment := by
      intro hc
      rw [scan_cons_of_comment hc] at h
      exact h rfl
    rw [scan_cons hc] at h
    rw [List.cons_append, scan_cons hc, scan_cons hc, ih h]
    rfl

def LineState.behindDigit : LineState → LineState
  | .comment => .comment
  | .weak | .weakEscaped => .weak
  | .strong | .strongEscaped => .strong
  | .complete | .escaped | .blank => .complete

theorem LineState.behindDigit_ne_comment {state : LineState} (h : state ≠ .comment) :
    state.behindDigit ≠ .comment := by
  cases state with
  | comment => exact (h rfl).elim
  | _ => exact LineState.noConfusion

theorem next_digit {c : Char} (hc : Numeral.IsDigit 16 c) (state : LineState) :
    state.next c = state.behindDigit := by
  have hblank := hc.not_blank
  have hbackslash : c ≠ '\\' := hc.ne (by decide)
  have hdouble : c ≠ '"' := hc.ne (by decide)
  have hsingle : c ≠ '\'' := hc.ne (by decide)
  have hsign : c ≠ '#' := hc.ne (by decide)
  cases state <;>
    simp [LineState.next, LineState.behindDigit, hblank, hbackslash, hdouble, hsingle, hsign]

theorem scan_digits {cs : List Char} (hne : cs ≠ []) (h : ∀ c ∈ cs, Numeral.IsDigit 16 c)
    {state : LineState} (hstate : state ≠ .comment) :
    scan state cs = (state.behindDigit, cs) := by
  induction cs generalizing state with
  | nil => exact (hne rfl).elim
  | cons c cs ih =>
    obtain ⟨hc, hcs⟩ := List.forall_mem_cons.mp h
    have hbehind := LineState.behindDigit_ne_comment hstate
    rw [scan_cons (by rw [next_digit hc]; exact hbehind), next_digit hc]
    by_cases hnil : cs = []
    · subst hnil
      rfl
    · have hidem : state.behindDigit.behindDigit = state.behindDigit := by
        cases state <;> rfl
      rw [ih hnil hcs hbehind, hidem]

theorem scan_append_key (key : KeyDigits) {state : LineState} {front : List Char}
    (h : (scan state front).1 ≠ .comment) (back : List Char) :
    scan state (front ++ key.chars ++ back) =
      ((scan (scan state front).1.behindDigit back).1,
        front ++ key.chars ++ (scan (scan state front).1.behindDigit back).2) := by
  have hkey := scan_digits key.ne_nil key.isDigit h
  have hbehind : (scan (scan state front).1 key.chars).1 ≠ .comment := by
    rw [hkey]
    exact LineState.behindDigit_ne_comment h
  rw [List.append_assoc, scan_append h, scan_append hbehind, hkey]
  simp

/-- Two lines that differ in a key are scanned alike. -/
theorem scan_keyed (key key' : KeyDigits) (state : LineState) (front back : List Char) :
    (∃ kept, scan state (front ++ key.chars ++ back) = (.comment, kept) ∧
      scan state (front ++ key'.chars ++ back) = (.comment, kept)) ∨
    ∃ final kept, scan state (front ++ key.chars ++ back) = (final, front ++ key.chars ++ kept) ∧
      scan state (front ++ key'.chars ++ back) = (final, front ++ key'.chars ++ kept) := by
  by_cases h : (scan state front).1 = .comment
  · have hscan (key : KeyDigits) :
        scan state (front ++ key.chars ++ back) = (.comment, (scan state front).2) := by
      rw [List.append_assoc, scan_append_of_comment h, ← h]
    exact .inl ⟨_, hscan key, hscan key'⟩
  · have hscan (key : KeyDigits) := scan_append_key key h back
    exact .inr ⟨_, _, hscan key, hscan key'⟩

theorem dropBreak_append_cons {c : Char} (hn : c ≠ '\n') (hr : c ≠ '\r') (front back : List Char) :
    dropBreak (front ++ c :: back) = front ++ c :: dropBreak back := by
  have hreverse : (front ++ c :: back).reverse = back.reverse ++ c :: front.reverse := by simp
  unfold dropBreak
  rw [hreverse]
  rcases hback : back.reverse with _ | ⟨d, _ | ⟨d', rest⟩⟩
  · simp [hn]
  · by_cases hd : d = '\n' <;> simp [hd, hr]
  · by_cases hd : d = '\n' <;> by_cases hd' : d' = '\r' <;> simp [hd, hd']

theorem dropBreak_keyed (key : KeyDigits) (front back : List Char) :
    dropBreak (front ++ key.chars ++ back) = front ++ key.chars ++ dropBreak back := by
  obtain ⟨digits, last, hkey⟩ := key.exists_concat
  have hlast : Numeral.IsDigit 16 last := key.isDigit last (by simp [hkey])
  have hdrop := @dropBreak_append_cons last (hlast.ne (by decide)) (hlast.ne (by decide))
    (front ++ digits) back
  rw [hkey]
  simpa using hdrop

/-- Whether a line is a comment is settled by what stands up to the equals sign. -/
theorem head?_trimStartChars {front : List Char} (h : '=' ∈ front) (key : KeyDigits)
    (back : List Char) :
    (trimStartChars (front ++ key.chars ++ back)).head? = (trimStartChars front).head? := by
  have hstays : isBlank '=' = false := by decide
  have hne : trimStartChars front ≠ [] := by
    intro hnil
    rw [List.dropWhile_eq_nil_iff.mp hnil '=' h] at hstays
    cases hstays
  unfold trimStartChars at hne ⊢
  rw [List.append_assoc, dropWhile_append_of_mem h hstays, List.head?_append_of_ne_nil _ hne]

inductive NextPair (key key' : KeyDigits) :
    List Char × List Bytes → List Char × List Bytes → Prop
  | mk {line line' : List Char} {rest rest' : List Bytes} (hline : LinePair key key' line line')
      (hrest : Lines key key' rest rest') : NextPair key key' (line, rest) (line', rest')

theorem nextLine_keyed {front : List Char} (h : '=' ∈ front) (lines : List Bytes)
    (state : LineState) (back : List Char) :
    Agree key key' (NextPair key key') (nextLine lines state (front ++ key.chars ++ back))
      (nextLine lines state (front ++ key'.chars ++ back)) := by
  induction lines generalizing state back with
  | nil =>
    rw [nextLine, nextLine, key.length_utf8Chars_eq key']
    exact .error (.quoted front back _)
  | cons physical lines ih =>
    rw [nextLine, nextLine]
    cases ofUtf8? physical with
    | none => exact .error (.same _)
    | some text =>
      dsimp only
      rw [List.append_assoc _ back, List.append_assoc _ back, head?_trimStartChars h,
        head?_trimStartChars h]
      split
      · exact .ok ⟨.same _, .same _⟩
      · split
        · rw [dropBreak_keyed, dropBreak_keyed]
          exact .ok ⟨.keyed h _, .same _⟩
        · rw [List.append_assoc _ back, List.append_assoc _ back]
          exact .ok ⟨.keyed h _, .same _⟩
        · exact ih _ _

theorem Lines.nextLine {lines lines' : List Bytes} (h : Lines key key' lines lines')
    (state : LineState) (read : List Char) :
    Agree key key' (NextPair key key') (nextLine lines state read)
      (nextLine lines' state read) := by
  induction h generalizing state read with
  | same lines => exact .refl (fun _ => ⟨.same _, .same _⟩) _
  | @keyed front h back lines =>
    rw [EnvFile.nextLine, EnvFile.nextLine, ofUtf8?_append, ofUtf8?_append]
    cases ofUtf8? back with
    | none => exact .error (.same _)
    | some text =>
      have hread : '=' ∈ read ++ front := List.mem_append_right _ h
      rw [Option.map_some, Option.map_some]
      dsimp only
      rw [String.toList_append, String.toList_ofList, String.toList_append, String.toList_ofList]
      have hline (key : KeyDigits) (back : List Char) :
          read ++ (front ++ key.chars ++ back) = read ++ front ++ key.chars ++ back := by simp
      rw [hline, hline, head?_trimStartChars hread, head?_trimStartChars hread]
      split
      · exact .ok ⟨.same _, .same _⟩
      · -- A comment in front hides the key; otherwise the line keeps all of it.
        rcases scan_keyed key key' state front text.toList with
          ⟨kept, hscan, hscan'⟩ | ⟨final, kept, hscan, hscan'⟩
        · rw [hscan, hscan']
          exact .ok ⟨.same _, .same _⟩
        · rw [hscan, hscan']
          cases final with
          | complete =>
            dsimp only
            rw [dropBreak_keyed, dropBreak_keyed]
            exact .ok ⟨.keyed hread _, .same _⟩
          | comment =>
            dsimp only
            rw [hline, hline]
            exact .ok ⟨.keyed hread _, .same _⟩
          | _ => exact nextLine_keyed hread _ _ _
  | @later physical lines lines' h ih =>
    rw [EnvFile.nextLine, EnvFile.nextLine]
    cases ofUtf8? physical with
    | none => exact .error (.same _)
    | some text =>
      dsimp only
      split
      · exact .ok ⟨.same _, h⟩
      · split
        · exact .ok ⟨.same _, h⟩
        · exact .ok ⟨.same _, h⟩
        · exact ih _ _

end LayerMessaging.EnvFile
