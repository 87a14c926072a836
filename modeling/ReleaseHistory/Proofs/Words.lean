/-
# ReleaseHistory.Proofs.Words -- texts, their words, and what leaves the words alone

Trimming a text twice trims it once, and collapsed blanks stay collapsed (`trim_trim`,
`collapseBlanks_of_isCollapsed`).

A way of reading words is *cut* at a character if it reads what comes before it and what comes
after it apart (`CutsAt`).  Such characters are nothing to the reading but ends of words: it does
not see how many of them there are, nor whether they stand at the ends of the text
(`CutsAt.read_collapseBlanks`, `CutsAt.read_trim`).  The runs of a text are cut at the characters
that are in none of them.

The words of words joined by a character that is in none of them are these words
(`runs_intercalate`), and the first word of a text stands between characters that are in no word
(`of_runs_eq_cons`).
-/
import ReleaseHistory.Text.Blank
import Mathlib.Data.List.DropRight

namespace ReleaseHistory

set_option autoImplicit false

namespace Text

/-! ## Trimming twice -/

variable {p : Char → Bool}

theorem trimEnd_eq_rdropWhile (p : Char → Bool) (cs : List Char) : trimEnd p cs = cs.rdropWhile p := rfl

/-- Nothing that was to be trimmed opens a trimmed text: what is trimmed at its end is still
trimmed at its front. -/
theorem head?_trim (p : Char → Bool) (cs : List Char) : (trim p cs).head?.any p = false := by
  have kept : trim p cs <+: cs.dropWhile p := List.rdropWhile_prefix p _
  cases trimmed : trim p cs with
  | nil => rfl
  | cons c r =>
      obtain ⟨after, split⟩ := trimmed ▸ kept
      have first := List.head?_dropWhile_not p cs
      rwa [← split] at first

/-- Nothing that was to be trimmed ends a trimmed text. -/
theorem getLast?_trim (p : Char → Bool) (cs : List Char) : (trim p cs).getLast?.any p = false := by
  cases last : (trim p cs).getLast? with
  | none => rfl
  | some c =>
      have nonempty : trim p cs ≠ [] := by
        intro empty
        rw [empty] at last
        cases last
      have stays : ¬ p ((trim p cs).getLast nonempty) = true := List.rdropWhile_last_not p _ nonempty
      have same : (trim p cs).getLast nonempty = c := List.getLast_of_getLast?_eq_some last
      rw [same] at stays
      exact Bool.eq_false_iff.2 stays

theorem dropWhile_trim (p : Char → Bool) (cs : List Char) : (trim p cs).dropWhile p = trim p cs := by
  have front := head?_trim p cs
  cases trimmed : trim p cs with
  | nil => rfl
  | cons c r =>
      have stays : p c = false := by rwa [trimmed] at front
      rw [List.dropWhile_cons_of_neg (by simp [stays])]

theorem trim_trim (p : Char → Bool) (cs : List Char) : trim p (trim p cs) = trim p cs := by
  rw [trim, dropWhile_trim, trim]
  exact List.rdropWhile_idempotent p _

/-- A trimmed text stands in the text, between characters that were dropped. -/
theorem exists_trim (p : Char → Bool) (cs : List Char) :
    ∃ before after, cs = before ++ (trim p cs ++ after) ∧ (∀ c ∈ before, p c = true) ∧
      ∀ c ∈ after, p c = true := by
  refine ⟨cs.takeWhile p, (cs.dropWhile p).rtakeWhile p, ?_, ?_, ?_⟩
  · rw [trim, trimEnd_eq_rdropWhile, List.rdropWhile_append_rtakeWhile, List.takeWhile_append_dropWhile]
  · exact fun c held => List.mem_takeWhile_imp held
  · exact fun c held => List.mem_rtakeWhile_imp held

/-! ## Collapsing blanks twice -/

/-- The blanks of the text are single spaces. -/
def IsCollapsed : List Char → Prop
  | [] => True
  | c :: r => (isBlank c = true → c = ' ' ∧ r.head?.any isBlank = false) ∧ IsCollapsed r

theorem collapseBlanks_of_isCollapsed {cs : List Char} (collapsed : IsCollapsed cs) :
    collapseBlanks cs = cs := by
  induction cs with
  | nil => rfl
  | cons c r ih =>
      obtain ⟨single, rest⟩ := collapsed
      rw [collapseBlanks, ih rest]
      split
      · rename_i blank
        obtain ⟨rfl, alone⟩ := single blank
        rw [if_neg (by simp [alone])]
      · rfl

theorem head?_collapseBlanks {cs : List Char} (other : cs.head?.any isBlank = false) :
    (collapseBlanks cs).head?.any isBlank = false := by
  cases cs with
  | nil => rfl
  | cons c r =>
      have letter : isBlank c = false := other
      rw [collapseBlanks, letter, if_neg Bool.false_ne_true]
      exact letter

theorem isCollapsed_collapseBlanks (cs : List Char) : IsCollapsed (collapseBlanks cs) := by
  induction cs with
  | nil => trivial
  | cons c r ih =>
      rw [collapseBlanks]
      split
      · split
        · exact ih
        · rename_i alone
          exact ⟨fun _ => ⟨rfl, head?_collapseBlanks (Bool.eq_false_iff.2 alone)⟩, ih⟩
      · rename_i letter
        exact ⟨fun blank => absurd blank letter, ih⟩

/-- A part of a text has single spaces if the text has. -/
theorem IsCollapsed.of_append {before part after : List Char}
    (collapsed : IsCollapsed (before ++ (part ++ after))) : IsCollapsed part := by
  induction before with
  | cons c r ih => exact ih collapsed.2
  | nil =>
      induction part with
      | nil => trivial
      | cons c r ih =>
          refine ⟨fun blank => ?_, ih collapsed.2⟩
          obtain ⟨space, alone⟩ := collapsed.1 blank
          refine ⟨space, ?_⟩
          cases r with
          | nil => rfl
          | cons d r => exact alone

/-! ## Readings that are cut -/

/-- The reading takes what comes before and what comes after a character of the kind apart. -/
structure CutsAt (read : List Char → List (List Char)) (cut : Char → Prop) : Prop where
  nil : read [] = []
  apart {c : Char} (here : cut c) (x y : List Char) : read (x ++ c :: y) = read x ++ read y

namespace CutsAt

variable {read : List Char → List (List Char)} {cut : Char → Prop}

theorem mono (cuts : CutsAt read cut) {cut' : Char → Prop} (fewer : ∀ c, cut' c → cut c) : CutsAt read cut' :=
  ⟨cuts.nil, fun here => cuts.apart (fewer _ here)⟩

theorem cons (cuts : CutsAt read cut) {c : Char} (here : cut c) (cs : List Char) :
    read (c :: cs) = read cs := by
  have split := cuts.apart here [] cs
  rwa [cuts.nil] at split

theorem append_left (cuts : CutsAt read cut) {before : List Char} (all : ∀ c ∈ before, cut c)
    (cs : List Char) : read (before ++ cs) = read cs := by
  induction before with
  | nil => rfl
  | cons c r ih =>
      rw [List.cons_append, cuts.cons (all c List.mem_cons_self),
        ih fun d inside => all d (List.mem_cons_of_mem _ inside)]

theorem of_all (cuts : CutsAt read cut) {cs : List Char} (all : ∀ c ∈ cs, cut c) : read cs = [] := by
  have alone := cuts.append_left all []
  rwa [List.append_nil, cuts.nil] at alone

/-- What a text ends with is read apart if it is nothing or starts with a cut. -/
theorem append_of_head? (cuts : CutsAt read cut) {after : List Char}
    (first : ∀ c ∈ after.head?, cut c) (cs : List Char) : read (cs ++ after) = read cs ++ read after := by
  cases after with
  | nil => rw [List.append_nil, cuts.nil, List.append_nil]
  | cons c r =>
      have here : cut c := first c rfl
      rw [cuts.apart here, cuts.cons here]

/-- What a text starts with is read apart if it is nothing or ends with a cut. -/
theorem append_of_getLast? (cuts : CutsAt read cut) {before : List Char}
    (last : ∀ c ∈ before.getLast?, cut c) (cs : List Char) :
    read (before ++ cs) = read before ++ read cs := by
  rcases List.eq_nil_or_concat before with rfl | ⟨x, c, rfl⟩
  · rw [cuts.nil]
    rfl
  · have here : cut c := last c (by simp)
    rw [List.concat_eq_append, List.append_assoc, List.singleton_append, cuts.apart here x cs,
      cuts.apart here x [], cuts.nil, List.append_nil]

theorem append_right (cuts : CutsAt read cut) {after : List Char} (all : ∀ c ∈ after, cut c)
    (cs : List Char) : read (cs ++ after) = read cs := by
  rw [cuts.append_of_head? fun c first => all c (List.mem_of_mem_head? first), cuts.of_all all,
    List.append_nil]

/-- Where blanks cut, a reading does not see that they are collapsed. -/
theorem read_append_collapseBlanks (cuts : CutsAt read cut) (blanks : ∀ c, isBlank c = true → cut c)
    (cs : List Char) : ∀ before, read (before ++ collapseBlanks cs) = read (before ++ cs) := by
  induction cs with
  | nil => exact fun _ => rfl
  | cons c r ih =>
      intro before
      rw [collapseBlanks]
      split
      · rename_i blank
        rw [cuts.apart (blanks c blank)]
        split
        · rename_i more
          obtain ⟨d, rest, rfl⟩ : ∃ d rest, r = d :: rest := by
            cases r with
            | nil => exact absurd more Bool.false_ne_true
            | cons d rest => exact ⟨d, rest, rfl⟩
          have here : cut d := blanks d more
          rw [ih, cuts.apart here, cuts.cons here]
        · have same := ih []
          rw [List.nil_append, List.nil_append] at same
          rw [cuts.apart (blanks ' ' rfl), same]
      · have same := ih (before ++ [c])
        rwa [List.append_assoc, List.append_assoc] at same

theorem read_collapseBlanks (cuts : CutsAt read cut) (blanks : ∀ c, isBlank c = true → cut c)
    (cs : List Char) : read (collapseBlanks cs) = read cs :=
  cuts.read_append_collapseBlanks blanks cs []

/-- Where the characters that are trimmed cut, a reading does not see that they are gone. -/
theorem read_trim (cuts : CutsAt read cut) {q : Char → Bool} (edges : ∀ c, q c = true → cut c)
    (cs : List Char) : read (trim q cs) = read cs := by
  obtain ⟨before, after, split, front, back⟩ := exists_trim q cs
  conv_rhs => rw [split]
  rw [cuts.append_left fun c inside => edges c (front c inside),
    cuts.append_right fun c inside => edges c (back c inside)]

end CutsAt

/-! ## Words -/

variable {cs : List Char}

theorem cutsAt_runs (p : Char → Bool) : CutsAt (runs p) (fun c => p c = false) :=
  ⟨rfl, fun here x y => runs_append_cons here x y⟩

theorem pieces_of_all (held : ∀ c ∈ cs, p c = true) : pieces p cs = [cs] := by
  induction cs with
  | nil => rfl
  | cons c r ih =>
      have rest := ih fun d inside => held d (List.mem_cons_of_mem _ inside)
      rw [pieces, if_pos (held c List.mem_cons_self), rest]

theorem runs_of_all (nonempty : cs ≠ []) (held : ∀ c ∈ cs, p c = true) : runs p cs = [cs] := by
  rw [runs, pieces_of_all held]
  simpa using nonempty

theorem runs_cons_ne_nil {c : Char} (held : p c = true) (r : List Char) : runs p (c :: r) ≠ [] := by
  obtain ⟨w, ws, first⟩ := List.exists_cons_of_ne_nil (pieces_ne_nil p r)
  simp [runs, pieces, held, first]

/-- A text without words has no character that could be in one. -/
theorem runs_eq_nil_iff : runs p cs = [] ↔ ∀ c ∈ cs, p c = false := by
  refine ⟨fun none => ?_, (cutsAt_runs p).of_all⟩
  induction cs with
  | nil => simp
  | cons d r ih =>
      have cut : p d = false := by
        by_contra held
        exact runs_cons_ne_nil (Bool.not_eq_false _ ▸ held) r none
      rw [(cutsAt_runs p).cons cut] at none
      rintro c (_ | inside)
      · exact cut
      · exact ih none c ‹_›

/-- Words joined by a character that is in none of them. -/
theorem runs_intercalate {c : Char} (cut : p c = false) {ws : List (List Char)}
    (held : ∀ w ∈ ws, w ≠ [] ∧ ∀ d ∈ w, p d = true) : runs p ([c].intercalate ws) = ws := by
  induction ws with
  | nil => rfl
  | cons w ws ih =>
      obtain ⟨nonempty, letters⟩ := held w List.mem_cons_self
      cases ws with
      | nil => rw [List.intercalate_singleton, runs_of_all nonempty letters]
      | cons v ws =>
          rw [List.intercalate_cons_cons, List.append_assoc, List.singleton_append,
            runs_append_cons cut, runs_of_all nonempty letters,
            ih fun u inside => held u (List.mem_cons_of_mem _ inside)]
          rfl

/-- The first piece ends the text, or a character that separates follows it. -/
theorem of_pieces_eq_cons {w : List Char} {ws : List (List Char)} (cutAs : pieces p cs = w :: ws) :
    (cs = w ∧ ws = []) ∨ ∃ c r, cs = w ++ c :: r ∧ p c = false ∧ pieces p r = ws := by
  induction cs generalizing w with
  | nil =>
      obtain ⟨rfl, rfl⟩ := List.cons.inj cutAs
      exact .inl ⟨rfl, rfl⟩
  | cons d r ih =>
      rw [pieces] at cutAs
      split at cutAs
      · split at cutAs
        · rename_i none
          exact absurd none (pieces_ne_nil p r)
        · rename_i v vs first
          obtain ⟨rfl, rfl⟩ := List.cons.inj cutAs
          rcases ih first with ⟨rfl, rfl⟩ | ⟨c, rest, rfl, cut, same⟩
          · exact .inl ⟨rfl, rfl⟩
          · exact .inr ⟨c, rest, rfl, cut, same⟩
      · rename_i held
        obtain ⟨rfl, rfl⟩ := List.cons.inj cutAs
        exact .inr ⟨d, r, rfl, Bool.eq_false_iff.2 held, rfl⟩

/-- The first word of a text, what stands before it and what follows it. -/
theorem of_runs_eq_cons {w : List Char} {ws : List (List Char)} (wordsAre : runs p cs = w :: ws) :
    ∃ before after, cs = before ++ (w ++ after) ∧ (∀ c ∈ before, p c = false) ∧
      runs p after = ws ∧ ∀ c ∈ after.head?, p c = false := by
  induction cs with
  | nil => cases wordsAre
  | cons d r ih =>
      by_cases held : p d = true
      · obtain ⟨v, vs, first⟩ := List.exists_cons_of_ne_nil (pieces_ne_nil p r)
        have both : (d :: v) :: vs.filter (fun w => !w.isEmpty) = w :: ws := by
          rw [← wordsAre, runs, pieces, if_pos held, first]
          rfl
        obtain ⟨rfl, rfl⟩ := List.cons.inj both
        rcases of_pieces_eq_cons first with ⟨rfl, rfl⟩ | ⟨c, rest, rfl, cut, rfl⟩
        · exact ⟨[], [], by simp, by simp, rfl, by simp⟩
        · exact ⟨[], c :: rest, by simp, by simp, (cutsAt_runs p).cons cut rest, by simpa using cut⟩
      · have cut : p d = false := Bool.eq_false_iff.2 held
        rw [(cutsAt_runs p).cons cut] at wordsAre
        obtain ⟨before, after, rfl, front, rest, next⟩ := ih wordsAre
        refine ⟨d :: before, after, rfl, ?_, rest, next⟩
        rintro c (_ | inside)
        · exact cut
        · exact front c ‹_›

/-- The last words of a text stand in a part of it that starts with the first of them. -/
theorem exists_suffix_of_runs {vs ws : List (List Char)} (some_ : ws ≠ [])
    (wordsAre : runs p cs = vs ++ ws) :
    ∃ before after, cs = before ++ after ∧ runs p after = ws ∧ after.head?.any p = true ∧
      before.getLast?.all (fun c => !p c) = true := by
  induction vs generalizing cs with
  | nil =>
      obtain ⟨w, more, rfl⟩ := List.exists_cons_of_ne_nil some_
      obtain ⟨before, after, rfl, front, -, -⟩ := of_runs_eq_cons wordsAre
      rw [List.nil_append, (cutsAt_runs p).append_left front] at wordsAre
      obtain ⟨nonempty, held⟩ := of_mem_runs (wordsAre ▸ List.mem_cons_self : w ∈ runs p (w ++ after))
      obtain ⟨c, r, rfl⟩ := List.exists_cons_of_ne_nil nonempty
      refine ⟨before, _, rfl, wordsAre, held c List.mem_cons_self, ?_⟩
      cases last : before.getLast? with
      | none => rfl
      | some d => simp [front d (List.mem_of_getLast? last)]
  | cons v vs ih =>
      obtain ⟨before, rest, rfl, front, later, next⟩ := of_runs_eq_cons wordsAre
      obtain ⟨mid, after, rfl, same, start, last⟩ := ih later
      refine ⟨before ++ (v ++ mid), after, by simp, same, start, ?_⟩
      rcases List.eq_nil_or_concat mid with rfl | ⟨x, c, rfl⟩
      · cases after with
        | nil => cases start
        | cons c r => exact absurd ((next c rfl).symm.trans start) Bool.false_ne_true
      · simpa using last

/-- A word has no characters but those of the text. -/
theorem mem_of_mem_runs {w : List Char} (held : w ∈ runs p cs) : ∀ c ∈ w, c ∈ cs := by
  obtain ⟨vs, ws, split⟩ := List.append_of_mem held
  obtain ⟨before, after, rfl, wordsAre, -, -⟩ := exists_suffix_of_runs (List.cons_ne_nil w ws) split
  obtain ⟨skipped, rest, rfl, -, -, -⟩ := of_runs_eq_cons wordsAre
  intro c inside
  simp [inside]

end Text

end ReleaseHistory
