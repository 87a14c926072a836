/-
# ReleaseHistory.Proofs.EditionFlags -- the words after the title decide the edition

A report that mentions an edition marker does not tell which one.  The flags are those of the
folded words of the name without the leading words that spell the title (`editionFlags_by_words`):
`proper` says that a release was corrected, `repack` with at most one digit and `rerip` that it was
packed again, and where neither is among the words the release is a corrected one.

The markers are looked for in these words joined by spaces.  A folded word is made up of small
letters and digits, so that it is a keyword exactly if it is spelt as one
(`proper_iff`, `repack_iff`), and the words of letters and digits of the joined text are the words
that were joined (`mentions_join_iff`).

Where a character of ASCII that is neither a letter nor a digit parts the title from the rest of
the name, the words are those of the rest.
-/
import ReleaseHistory.Proofs.CanonicalWords
import ReleaseHistory.Proofs.Recognition

namespace ReleaseHistory

set_option autoImplicit false

namespace Text

/-! ## The words after the title -/

theorem stripWords_eq_some_iff {ts ws rest : List (List Char)} :
    stripWords ts ws = some rest ↔ ws = ts ++ rest := by
  induction ts generalizing ws with
  | nil => rw [stripWords, Option.some_inj, List.nil_append]
  | cons t ts ih =>
      cases ws with
      | nil => simp [stripWords]
      | cons w ws =>
          rw [stripWords, List.cons_append, List.cons.injEq]
          split
          · rename_i same
            rw [ih]
            simp [same]
          · rename_i other
            simp [Ne.symm other]

/-- The words of a name without the leading words that spell the title, if the title has words and
the name starts with them. -/
def wordsBehind (name title : String) : List (List Char) :=
  let ws := words (canonical name).toList
  let ts := words (canonical title).toList
  if ts ≠ [] ∧ ts <+: ws then ws.drop ts.length else ws

theorem wordsAfterTitle_eq (name title : String) :
    wordsAfterTitle name.toList title.toList = wordsBehind name title := by
  rw [wordsAfterTitle, wordsBehind, words_canonical, words_canonical]
  generalize canonicalWords name.toList = ws
  generalize canonicalWords title.toList = ts
  by_cases opens : ts <+: ws
  · obtain ⟨rest, rfl⟩ := opens
    rw [stripWords_eq_some_iff.2 rfl, Option.getD_some, List.drop_left]
    split
    · rfl
    · rename_i other
      have none : ts = [] := by simpa using other
      rw [none, List.nil_append]
  · have refused : stripWords ts ws = none := by
      rw [Option.eq_none_iff_forall_ne_some]
      rintro rest stripped
      exact opens ⟨rest, (stripWords_eq_some_iff.1 stripped).symm⟩
    rw [refused, Option.getD_none, if_neg fun both => opens both.2]

theorem of_mem_wordsBehind {name title : String} {w : List Char} (held : w ∈ wordsBehind name title) :
    w ≠ [] ∧ ∀ c ∈ w, isWordChar c = true := by
  have whole : w ∈ canonicalWords name.toList := by
    simp only [wordsBehind, words_canonical] at held
    split at held
    · exact List.mem_of_mem_drop held
    · exact held
  exact of_mem_runs whole

/-- Behind a title with a word and a character that ends words come the words of the rest. -/
theorem wordsBehind_append {title rest : String} {c : Char} (some_ : words (canonical title).toList ≠ [])
    (ends : EndsWords c) :
    wordsBehind (title ++ c.toString ++ rest) title = words (canonical rest).toList := by
  have whole : words (canonical (title ++ c.toString ++ rest)).toList =
      words (canonical title).toList ++ words (canonical rest).toList := by
    rw [words_canonical, words_canonical, words_canonical, ← cutsAt_canonicalWords.apart ends]
    simp
  rw [wordsBehind, whole, if_pos ⟨some_, List.prefix_append ..⟩, List.drop_left]

end Text

namespace Edition

open Text

/-! ## Folded keywords -/

/-- The word says that a release was packed again. -/
def SaysRepack (w : List Char) : Prop :=
  w = repackWord ∨ w ∈ "0123456789".toList.map (repackWord ++ [·]) ∨ w = reripWord

instance : DecidablePred SaysRepack := fun _ => inferInstanceAs (Decidable (_ ∨ _ ∨ _))

variable {w word : List Char}

theorem sameLetter_iff_of_isWordChar {k c : Char} (marks : k ∈ markerWords.flatten)
    (letter : isWordChar c = true) : sameLetter k c = true ↔ c = k := by
  have all : ∀ n < 128, isWordChar (Char.ofNat n) = true →
      markerWords.flatten.all (fun k => sameLetter k (Char.ofNat n) == (Char.ofNat n == k)) = true := by
    decide +kernel
  have here := of_ascii (P := fun c => isWordChar c = true →
    markerWords.flatten.all (fun k => sameLetter k c == (c == k)) = true) all (ascii_of_isWordChar letter) letter
  rw [eq_of_beq (List.all_eq_true.1 here k marks), beq_iff_eq]

theorem spells_iff_eq (marks : word ∈ markerWords) (letters : ∀ c ∈ w, isWordChar c = true) :
    Spells word w ↔ w = word := by
  have each : ∀ k ∈ word, k ∈ markerWords.flatten := fun k held => List.mem_flatten_of_mem marks held
  clear marks
  constructor
  · intro spelt
    induction spelt with
    | nil => rfl
    | cons same _ ih =>
        rw [(sameLetter_iff_of_isWordChar (each _ List.mem_cons_self)
            (letters _ List.mem_cons_self)).1 same,
          ih (fun c later => letters c (List.mem_cons_of_mem _ later))
            fun k later => each k (List.mem_cons_of_mem _ later)]
  · rintro rfl
    exact List.forall₂_same.2 fun k inside =>
      (sameLetter_iff_of_isWordChar (each k inside) (letters k inside)).2 rfl

theorem isDecimal_iff_of_isWordChar {d : Char} (letter : isWordChar d = true) :
    isDecimal d = true ↔ d ∈ "0123456789".toList :=
  of_ascii (P := fun d => isWordChar d = true → (isDecimal d = true ↔ d ∈ "0123456789".toList))
    (by decide +kernel) (ascii_of_isWordChar letter) letter

theorem proper_iff (letters : ∀ c ∈ w, isWordChar c = true) : Keyword .proper w ↔ w = properWord := by
  rw [← spells_iff_eq (by decide) letters]
  constructor
  · rintro ⟨spelt⟩
    exact spelt
  · exact .proper

theorem repack_iff (letters : ∀ c ∈ w, isWordChar c = true) : Keyword .repack w ↔ SaysRepack w := by
  constructor
  · intro keyword
    cases keyword with
    | repack spelt => exact .inl ((spells_iff_eq (by decide) letters).1 spelt)
    | @numbered v d spelt digit =>
        have inner : ∀ c ∈ v, isWordChar c = true := fun c inside => letters c (List.mem_append_left _ inside)
        have last : isWordChar d = true := letters d (by simp)
        rw [(spells_iff_eq (by decide) inner).1 spelt]
        exact .inr (.inl (List.mem_map.2 ⟨d, (isDecimal_iff_of_isWordChar last).1 digit, rfl⟩))
    | rerip spelt => exact .inr (.inr ((spells_iff_eq (by decide) letters).1 spelt))
  · rintro (rfl | numbered | rfl)
    · exact .repack ((spells_iff_eq (by decide) letters).2 rfl)
    · obtain ⟨d, digit, rfl⟩ := List.mem_map.1 numbered
      have inner : ∀ c ∈ repackWord, isWordChar c = true := fun c inside => letters c (List.mem_append_left _ inside)
      have last : isWordChar d = true := letters d (by simp)
      exact .numbered ((spells_iff_eq (by decide) inner).2 rfl) ((isDecimal_iff_of_isWordChar last).2 digit)
    · exact .rerip ((spells_iff_eq (by decide) letters).2 rfl)

theorem isNameChar_of_isWordChar {c : Char} (letter : isWordChar c = true) : isNameChar c = true :=
  of_ascii (P := fun c => isWordChar c = true → isNameChar c = true) (by decide +kernel)
    (ascii_of_isWordChar letter) letter

/-- Folded words joined by spaces mention the editions of the keywords among them. -/
theorem mentions_join_iff {e : Edition} {ws : List (List Char)}
    (folded : ∀ w ∈ ws, w ≠ [] ∧ ∀ c ∈ w, isWordChar c = true) :
    mentions e ([' '].intercalate ws) = true ↔ ∃ w ∈ ws, Keyword e w := by
  rw [mentions_iff, runs_intercalate (by decide) fun w held =>
    ⟨(folded w held).1, fun c inside => isNameChar_of_isWordChar ((folded w held).2 c inside)⟩]

end Edition

namespace Recognition

open Text Edition

/-! ## The flags -/

/-- The flags that words set: `proper` for a corrected release, which it is as well if nothing else
is said. -/
def flagsOfWords (ws : List (List Char)) : Bool × Bool :=
  if properWord ∈ ws ∨ ∃ w ∈ ws, SaysRepack w then
    (decide (properWord ∈ ws), decide (∃ w ∈ ws, SaysRepack w))
  else (true, false)

/-- A release that is not packed again is a corrected one. -/
theorem flagsOfWords_eq (ws : List (List Char)) :
    flagsOfWords ws =
      (decide (properWord ∈ ws) || !decide (∃ w ∈ ws, SaysRepack w), decide (∃ w ∈ ws, SaysRepack w)) := by
  rw [flagsOfWords]
  split
  · rename_i either
    by_cases packed : ∃ w ∈ ws, SaysRepack w
    · rw [decide_eq_true packed, Bool.not_true, Bool.or_false]
    · rw [decide_eq_false packed, decide_eq_true (either.resolve_right packed), Bool.true_or]
  · rename_i neither
    rw [not_or] at neither
    rw [decide_eq_false neither.1, decide_eq_false neither.2]
    rfl

theorem flagsOfWords_set (ws : List (List Char)) :
    (flagsOfWords ws).1 = true ∨ (flagsOfWords ws).2 = true := by
  rw [flagsOfWords]
  split
  · rename_i either
    exact either.imp decide_eq_true decide_eq_true
  · exact .inl rfl

variable {report : Value}

/-- A report that mentions an edition marker leaves the flags to the words behind the title. -/
theorem editionFlags_eq (marked : mentionsEdition report = true) (name title : String) :
    editionFlags name title report = flagsOfWords (wordsBehind name title) := by
  have folded : ∀ w ∈ wordsBehind name title, w ≠ [] ∧ ∀ c ∈ w, isWordChar c = true :=
    fun w => of_mem_wordsBehind
  have joined : (withoutLeadingTitle name title).toList = [' '].intercalate (wordsBehind name title) := by
    rw [withoutLeadingTitle, String.toList_ofList, wordsAfterTitle_eq]
  have proper : mentions .proper ([' '].intercalate (wordsBehind name title)) =
      decide (properWord ∈ wordsBehind name title) := by
    rw [Bool.eq_iff_iff, mentions_join_iff folded, decide_eq_true_iff]
    constructor
    · rintro ⟨w, held, keyword⟩
      rwa [← (proper_iff (folded w held).2).1 keyword]
    · intro held
      exact ⟨properWord, held, (proper_iff (folded _ held).2).2 rfl⟩
  have repack : mentions .repack ([' '].intercalate (wordsBehind name title)) =
      decide (∃ w ∈ wordsBehind name title, SaysRepack w) := by
    rw [Bool.eq_iff_iff, mentions_join_iff folded, decide_eq_true_iff]
    exact exists_congr fun w => and_congr_right fun held => repack_iff (folded w held).2
  rw [editionFlags, if_pos marked, joined]
  simp only [proper, repack, flagsOfWords_eq]

/-- The flags of a report that mentions an edition marker are those of the words behind the title,
and at least one is set on every release that is read from it.  Behind a title with a word and a
character of ASCII that is neither a letter nor a digit, they are those of the rest of the name,
whatever the title. -/
theorem editionFlags_by_words (report : Value)
    (marked : (report.field "other").entries.any (Datum.isText "Proper") = true ∨
      (report.field "proper_count").isTruthy = true) :
    (∀ name title, editionFlags name title report = flagsOfWords (wordsBehind name title)) ∧
      (∀ name indexer protocol,
        ((∃ r, Release.ofReport name report indexer protocol = .ok r) ↔ IsLegible report) ∧
          ∀ r, Release.ofReport name report indexer protocol = .ok r → r.proper = true ∨ r.repack = true) ∧
      ∀ (title rest : String) (c : Char), words (canonical title).toList ≠ [] → c.toNat < 128 →
        c.isAlphanum = false →
        editionFlags (title ++ c.toString ++ rest) title report =
          flagsOfWords (words (canonical rest).toList) := by
  have marked : mentionsEdition report = true := by rw [mentionsEdition, Bool.or_eq_true]; exact marked
  refine ⟨editionFlags_eq marked, fun name indexer protocol => ⟨Release.exists_ofReport_iff, ?_⟩, ?_⟩
  · intro r read
    obtain ⟨proper, repack⟩ := Release.flags_of_ofReport read
    rw [proper, repack, editionFlags_eq marked]
    rcases flagsOfWords_set (wordsBehind name (textOf (report.field "title"))) with set | set
    · exact .inl (by rw [set, Bool.true_or])
    · exact .inr (by rw [set, Bool.true_or])
  · intro title rest c some_ ascii other
    rw [editionFlags_eq marked, wordsBehind_append some_ (endsWords_of_ascii ascii other)]

/-- The `proper` of the title does not count, the `repack` with a digit after it does. -/
theorem editionFlags_properWay :
    let report : Value := .record [("title", .text "Proper Way"), ("other", .text "Proper")]
    ((report.field "other").entries.any (Datum.isText "Proper") = true ∨
        (report.field "proper_count").isTruthy = true) ∧
      words (canonical "Proper Way").toList ≠ [] ∧ '.'.toNat < 128 ∧ '.'.isAlphanum = false ∧
      editionFlags ("Proper Way" ++ '.'.toString ++ "REAL REPACK2.2020") "Proper Way" report = (false, true) ∧
      ∃ r, Release.ofReport "Proper.Way.REAL.REPACK2.2020" report {} .torrent = .ok r ∧
        (r.proper = true ∨ r.repack = true) := by
  intro report
  have marked : (report.field "other").entries.any (Datum.isText "Proper") = true := by decide +kernel
  obtain ⟨-, parsed, behind⟩ := editionFlags_by_words report (.inl marked)
  have some_ : words (canonical "Proper Way").toList ≠ [] := by decide +kernel
  obtain ⟨reads, set⟩ := parsed "Proper.Way.REAL.REPACK2.2020" {} .torrent
  have legible : IsLegible report := by decide +kernel
  obtain ⟨r, read⟩ := reads.2 legible
  refine ⟨.inl marked, some_, by decide, by decide, ?_, r, read, set r read⟩
  rw [behind "Proper Way" "REAL REPACK2.2020" '.' some_ (by decide) (by decide)]
  decide +kernel

end Recognition

end ReleaseHistory
