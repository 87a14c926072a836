/-
# ReleaseHistory.Proofs.TextColumn -- a list column reads back as the list that was written

What `Json.TextList.encode` writes for a list of texts spells that list in JSON (`spellsList_encode`) and
holds no control character (`visible_encode`).  Since `Json.TextList.decode` reads every spelling of a
list as the list (`decodeLoose_of_spellsList`), it reads back what was written (`decode_encode`).
-/
import ReleaseHistory.Json.TextList
import ReleaseHistory.Proofs.TextListGrammar

namespace ReleaseHistory.Json

set_option autoImplicit false

open Text (LooseText hexDigits)

namespace TextList

/-! ## What is written -/

theorem hexValue?_digitChar : ∀ d, d < 16 → hexValue? (Nat.digitChar d) = some d := by
  decide

theorem writesUnit_hexDigits {n : Nat} (small : n < 65536) : WritesUnit n (hexDigits 4 n) := by
  have written := WritesUnit.intro (hexValue?_digitChar (n / 16 / 16 / 16 % 16) (by omega))
    (hexValue?_digitChar (n / 16 / 16 % 16) (by omega)) (hexValue?_digitChar (n / 16 % 16) (by omega))
    (hexValue?_digitChar (n % 16) (by omega))
  have sum : n / 16 / 16 / 16 % 16 * 4096 + n / 16 / 16 % 16 * 256 + n / 16 % 16 * 16 + n % 16 = n := by
    omega
  rw [sum] at written
  exact written

/-- A letter that is written behind a backslash is read as the character it stands for. -/
theorem escapedChar?_escapeLetter? {c e : Char} (escaped : escapeLetter? c = some e) :
    escapedChar? e = some c := by
  unfold escapeLetter? at escaped
  split at escaped <;> cases escaped <;> rfl

theorem spellsChar_writeChar (c : Char) : SpellsChar c (writeChar c) := by
  unfold writeChar
  cases escaped : escapeLetter? c with
  | some e => exact .letter (escapedChar?_escapeLetter? escaped)
  | none =>
      by_cases control : c.toNat < 32
      · simp only [control, if_true]
        exact .unit (writesUnit_hexDigits (by omega))
      · simp only [control, if_false]
        refine .plain (Nat.not_lt.1 control) ?_ ?_
        · rintro rfl
          simp [escapeLetter?] at escaped
        · rintro rfl
          simp [escapeLetter?] at escaped

theorem spellsText_writeChar (cs : List Char) : SpellsText cs (cs.flatMap writeChar) := by
  induction cs with
  | nil => exact .nil
  | cons c cs ih => exact .cons (spellsChar_writeChar c) ih

theorem spellsEntries_writeItems (s : String) (ss : List String) :
    SpellsEntries (s :: ss) (writeItems (s :: ss)) := by
  induction ss generalizing s with
  | nil =>
      have last : SpellsEntries [s] ('"' :: (s.toList.flatMap writeChar ++ '"' :: [])) :=
        .last (spellsText_writeChar s.toList) nofun
      simpa only [writeItems, writeText, List.cons_append] using last
  | cons s' ss ih =>
      have space : IsGap [' '] := by simp [IsGap, isSpace]
      have more : SpellsEntries (s :: s' :: ss)
          ('"' :: (s.toList.flatMap writeChar ++ '"' :: ([] ++ ',' :: ([' '] ++ writeItems (s' :: ss))))) :=
        .more (spellsText_writeChar s.toList) nofun space (ih s')
      simpa only [writeItems, writeText, List.cons_append, List.append_assoc, List.nil_append] using more

/-- What is written for a list spells it. -/
theorem spellsList_encode (ss : List String) : SpellsList ss (encode ss).toList := by
  have nothing : IsGap [] := nofun
  rw [encode, String.toList_ofList]
  cases ss with
  | nil => exact .empty nothing nothing nothing
  | cons s ss =>
      have entries := SpellsList.entries nothing nothing (spellsEntries_writeItems s ss) nothing
      simpa only [List.nil_append, List.cons_append] using entries

theorem visible_writeText (s : String) : ∀ c ∈ writeText s, 32 ≤ c.toNat := by
  have quote : ∀ c ∈ ['"'], 32 ≤ c.toNat := by simp
  have inside := (spellsText_writeChar s.toList).visible
  exact List.forall_mem_append.2 ⟨List.forall_mem_append.2 ⟨quote, inside⟩, quote⟩

theorem visible_writeItems (ss : List String) : ∀ c ∈ writeItems ss, 32 ≤ c.toNat := by
  induction ss with
  | nil => nofun
  | cons s ss ih =>
      cases ss with
      | nil => exact visible_writeText s
      | cons s' ss =>
          have comma : ∀ c ∈ [',', ' '], 32 ≤ c.toNat := by simp
          exact List.forall_mem_append.2 ⟨visible_writeText s, List.forall_mem_append.2 ⟨comma, ih⟩⟩

/-- What is written holds no control character. -/
theorem visible_encode (ss : List String) : ∀ c ∈ (encode ss).toList, 32 ≤ c.toNat := by
  have opening : ∀ c ∈ ['['], 32 ≤ c.toNat := by simp
  have closing : ∀ c ∈ [']'], 32 ≤ c.toNat := by simp
  rw [encode, String.toList_ofList]
  exact List.forall_mem_append.2 ⟨List.forall_mem_append.2 ⟨opening, visible_writeItems ss⟩, closing⟩

/-! ## Columns -/

theorem displayLoose_values (ss : List String) :
    (values ss).map Datum.displayLoose = ss.map LooseText.ofString := by
  rw [values, List.map_map]
  rfl

/-- A column that spells a list of texts holds these texts, symbol by symbol. -/
theorem decodeLoose_of_spellsList {ss : List String} {column : String} (spelt : SpellsList ss column.toList) :
    decodeLoose column = .ok (ss.map LooseText.ofString) := by
  have nonempty : column ≠ "" := by
    intro empty
    exact spelt.ne_nil (empty ▸ rfl)
  rw [decodeLoose, if_neg nonempty, read_eq_list_iff.2 spelt]
  exact congrArg Except.ok (displayLoose_values ss)

theorem decode_of_spellsList {ss : List String} {column : String} (spelt : SpellsList ss column.toList) :
    decode column = .ok ss := by
  have shown : LooseText.toString ∘ LooseText.ofString = id := funext LooseText.toString_ofString
  rw [decode, decodeLoose_of_spellsList spelt]
  show Except.ok ((ss.map LooseText.ofString).map LooseText.toString) = _
  rw [List.map_map, shown, List.map_id]

/-- Another spelling: blanks, a slash behind a backslash, and a surrogate pair. -/
example : (decode " [ \"\\/\\uD83d\\uDE00\" ,\n\"\"]").toOption = some ["/😀", ""] := by decide +kernel

/-- A column reads back as the list that was written. -/
theorem decode_encode (ss : List String) : decode (encode ss) = .ok ss :=
  decode_of_spellsList (spellsList_encode ss)

/-- The column of a list of texts spells this list and no other, without control characters, and reads
back as the list, symbol by symbol. -/
theorem column_reads_back (texts : List String) :
    (∀ others, SpellsList others (encode texts).toList ↔ others = texts) ∧
      (∀ c ∈ (encode texts).toList, 32 ≤ c.toNat) ∧
      decodeLoose (encode texts) = .ok (texts.map LooseText.ofString) ∧
      decode (encode texts) = .ok texts := by
  have spelt := spellsList_encode texts
  refine ⟨fun others => ⟨fun other => other.unique spelt, ?_⟩, visible_encode texts,
    decodeLoose_of_spellsList spelt, decode_encode texts⟩
  rintro rfl
  exact spelt

/-- Characters that are written behind a backslash, others that look as if they were, and the empty text
twice. -/
def oddTexts : List String := ["\"\\\n\x01", "", "/\x7f\u2028😀", ""]

theorem column_reads_back_oddTexts :
    encode oddTexts = "[\"\\\"\\\\\\n\\u0001\", \"\", \"/\x7f\u2028😀\", \"\"]" ∧
      decode "[\"\\\"\\\\\\n\\u0001\", \"\", \"/\x7f\u2028😀\", \"\"]" = .ok oddTexts := by
  have column : encode oddTexts = "[\"\\\"\\\\\\n\\u0001\", \"\", \"/\x7f\u2028😀\", \"\"]" := by
    decide +kernel
  obtain ⟨-, -, -, back⟩ := column_reads_back oddTexts
  exact ⟨column, column ▸ back⟩

end TextList

end ReleaseHistory.Json
