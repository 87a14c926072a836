/-
# ReleaseHistory.Proofs.CanonicalWords -- the folded words of a text

The canonical form of a text tells its folded words and nothing else (`words_canonical`).

A character that folding keeps and that is in no word ends the words on both of its sides
(`cutsAt_canonicalWords`), although folding may turn one character into several.  Every separator
of a release name is such a character, and so is every character of ASCII but letters and digits.

Cutting a title in front of the run of markers that ends it therefore takes no word apart, and
tidying what is left joins none: the words of a title are those of the stripped title and those of
the run (`stripText_keeps_words`).
-/
import ReleaseHistory.Proofs.EditionMarkers
import ReleaseHistory.Release.Projection

namespace ReleaseHistory

set_option autoImplicit false

namespace Text

variable {c : Char} {cs : List Char}

/-- Folding keeps the character, and no word has it. -/
def EndsWords (c : Char) : Prop := foldChar c = [c] ∧ isWordChar c = false

instance (c : Char) : Decidable (EndsWords c) := inferInstanceAs (Decidable (_ ∧ _))

/-- Folded words are read apart at characters that end words. -/
theorem cutsAt_canonicalWords : CutsAt canonicalWords EndsWords where
  nil := rfl
  apart := by
    rintro c ⟨kept, other⟩ x y
    have folded : foldCase (x ++ c :: y) = foldCase x ++ c :: foldCase y := by
      rw [foldCase, List.flatMap_append, List.flatMap_cons, kept]
      rfl
    rw [canonicalWords, folded, runs_append_cons other]
    rfl

/-- What holds of ASCII number by number holds of each of its characters. -/
theorem of_ascii {P : Char → Prop} (all : ∀ n < 128, P (Char.ofNat n)) (ascii : c.toNat < 128) : P c := by
  have here := all c.toNat ascii
  rwa [Char.ofNat_toNat] at here

/-- A character of ASCII that is neither a letter nor a digit ends words. -/
theorem endsWords_of_ascii (ascii : c.toNat < 128) (other : c.isAlphanum = false) : EndsWords c :=
  of_ascii (P := fun c => c.isAlphanum = false → EndsWords c) (by decide +kernel) ascii other

theorem ascii_of_isWordChar (letter : isWordChar c = true) : c.toNat < 128 := by
  simp only [isWordChar, Bool.or_eq_true, Bool.and_eq_true, decide_eq_true_eq, Char.le_def,
    UInt32.le_iff_toNat_le] at letter
  have digit : '9'.val.toNat = 57 := rfl
  have last : 'z'.val.toNat = 122 := rfl
  have number : c.toNat = c.val.toNat := rfl
  omega

theorem endsWords_of_isSeparator (separates : Edition.isSeparator c = true) : EndsWords c :=
  Edition.of_isSeparator (by decide +kernel) separates

theorem isBlank_of_isWordChar (letter : isWordChar c = true) : isBlank c = false := by
  by_contra blank
  have separates := Edition.isSeparator_of_isBlank (Bool.not_eq_false _ ▸ blank)
  rw [(endsWords_of_isSeparator separates).2] at letter
  cases letter

/-- The words of the canonical form are the folded words. -/
theorem words_canonical (s : String) : words (canonical s).toList = canonicalWords s.toList := by
  rw [canonical, String.toList_ofList]
  refine runs_intercalate rfl fun w held => ?_
  obtain ⟨some_, letters⟩ := of_mem_runs held
  exact ⟨some_, fun c inside => by rw [isBlank_of_isWordChar (letters c inside)]; rfl⟩

end Text

namespace Edition

open Text

/-- Cutting a text in front of the run that ends it takes no word apart. -/
theorem canonicalWords_splitRun (cs : List Char) :
    canonicalWords cs = canonicalWords (splitRun cs).1 ++ canonicalWords (trailingRun cs) := by
  conv_lhs => rw [← splitRun_append cs]
  by_cases found : trailingRun cs = []
  · rw [found, List.append_nil, cutsAt_canonicalWords.nil, List.append_nil]
  · exact cutsAt_canonicalWords.append_of_getLast?
      (fun c last => endsWords_of_isSeparator ((endsApart_splitRun found).last c last)) _

/-- Tidying what is left of a text joins no words. -/
theorem canonicalWords_withoutRun (cs : List Char) :
    canonicalWords (withoutRun cs) = canonicalWords (splitRun cs).1 :=
  read_withoutRun (cutsAt_canonicalWords.mono fun _ => endsWords_of_isSeparator) cs

/-- The words of a text are the words of the text stripped and those of the run that is taken.
What is compared of a title has the words in front of the run that ends it, or all words if
nothing is left of the title stripped. -/
theorem stripText_keeps_words :
    (∀ s : String, words (canonical s).toList =
      words (canonical (stripText s)).toList ++ words (canonical (trailingText s)).toList) ∧
    ∀ r : Release, ∃ before : String, before ++ trailingText r.title = r.title ∧
      words r.projection.title.toList =
        words (canonical (if stripText r.title = "" then r.title else before)).toList := by
  refine ⟨fun s => ?_, fun r => ⟨String.ofList (splitRun r.title.toList).1, ?_, ?_⟩⟩
  · rw [words_canonical, words_canonical, words_canonical, stripText, trailingText, String.toList_ofList,
      String.toList_ofList, canonicalWords_withoutRun]
    exact canonicalWords_splitRun s.toList
  · rw [trailingText, ← String.ofList_append, splitRun_append, String.ofList_toList]
  · show words (canonical (titleText r.title)).toList = _
    rw [titleText]
    split
    · rfl
    · rw [words_canonical, words_canonical, stripText, String.toList_ofList, String.toList_ofList,
        canonicalWords_withoutRun]

end Edition

end ReleaseHistory
