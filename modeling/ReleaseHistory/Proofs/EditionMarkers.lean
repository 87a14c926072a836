/-
# ReleaseHistory.Proofs.EditionMarkers -- a title is stripped once and for all

A text without the run of markers that ended it ends with no run (`trailingRun_withoutRun`), so
that stripping it again changes nothing (`withoutRun_withoutRun`) and it announces no edition.

What a run is depends on the words of a text alone, its maximal runs of characters that are no
separators (`isRun_iff`).  Trimming a text and collapsing its blanks keep its words.  A run that
ended what is left would stand in front of the one that was cut off, with a separator between
them: both together are a run, and `splitRun` cuts in front of the longest (`length_splitRunFrom_le`).
-/
import ReleaseHistory.Edition
import ReleaseHistory.Proofs.Words

namespace ReleaseHistory

set_option autoImplicit false

namespace Edition

open Text

/-! ## Separators -/

/-- The code points of the separators. -/
def separatorNumbers : List Nat :=
  List.range' 9 5 ++ List.range' 28 5 ++ List.range' 0x2000 11 ++
    [0x2D, 0x2E, 0x5F, 0x85, 0xA0, 0x1680, 0x2028, 0x2029, 0x202F, 0x205F, 0x3000]

theorem mem_separatorNumbers {c : Char} (separates : isSeparator c = true) :
    c.toNat ∈ separatorNumbers := by
  have number (d : Char) : c = d ↔ c.toNat = d.toNat := by
    rw [← Char.val_inj, ← UInt32.toNat_inj]
    rfl
  simp only [isSeparator, isBlank, Bool.or_eq_true, Bool.and_eq_true, decide_eq_true_eq, beq_iff_eq,
    number, Char.reduceToNat] at separates
  simp only [separatorNumbers, List.mem_append, List.mem_range'_1, List.mem_cons, List.not_mem_nil, or_false]
  omega

/-- What holds of the separators number by number holds of each of them. -/
theorem of_isSeparator {P : Char → Prop} (all : ∀ n ∈ separatorNumbers, P (Char.ofNat n)) {c : Char}
    (separates : isSeparator c = true) : P c := by
  have here := all c.toNat (mem_separatorNumbers separates)
  rwa [Char.ofNat_toNat] at here

/-- No letter or digit is a separator. -/
theorem isNameChar_of_isSeparator {c : Char} (separates : isSeparator c = true) : isNameChar c = false :=
  of_isSeparator (P := fun c => isNameChar c = false) (by decide) separates

theorem isSeparator_of_isBlank {c : Char} (blank : isBlank c = true) : isSeparator c = true := by
  rw [isSeparator, blank, Bool.true_or, Bool.true_or, Bool.true_or]

theorem isSeparator_of_isEdge {c : Char} (edge : isEdge c = true) : isSeparator c = true := by
  rcases (by simpa [isEdge] using edge : ((c = ' ' ∨ c = '.') ∨ c = '_') ∨ c = '-') with
    ((rfl | rfl) | rfl) | rfl <;> rfl

/-! ## A run is a matter of words -/

/-- The words of a release name. -/
def nameWords (cs : List Char) : List (List Char) := runs (fun c => !isSeparator c) cs

/-- The words of a release name are read apart at separators. -/
theorem cutsAt_nameWords : CutsAt nameWords (fun c => isSeparator c = true) :=
  ⟨rfl, fun here x y => runs_append_cons (by rw [here]; rfl) x y⟩

/-- The text is empty or ends in a separator, so that a word can start after it. -/
def EndsApart (cs : List Char) : Prop := cs.getLast?.all isSeparator = true

theorem endsApart_cons {c : Char} {cs : List Char} :
    EndsApart (c :: cs) ↔ EndsApart cs ∧ (cs = [] → isSeparator c = true) := by
  cases cs with
  | nil => simp [EndsApart]
  | cons d r => simp [EndsApart, List.getLast?_cons_cons]

theorem EndsApart.of_append {before after : List Char} (last : EndsApart (before ++ after))
    (nonempty : after ≠ []) : EndsApart after := by
  rwa [EndsApart, List.getLast?_append_of_ne_nil _ nonempty] at last

theorem EndsApart.last {cs : List Char} (apart : EndsApart cs) : ∀ c ∈ cs.getLast?, isSeparator c = true := by
  intro c last
  rw [EndsApart, Option.mem_def.1 last] at apart
  exact apart

theorem EndsApart.nameWords_append {before : List Char} (last : EndsApart before) (cs : List Char) :
    nameWords (before ++ cs) = nameWords before ++ nameWords cs :=
  cutsAt_nameWords.append_of_getLast? last.last cs

/-- The words make up a run, if `pending` tells whether a `real` came before them. -/
def areMarkers : Bool → List (List Char) → Bool
  | pending, [] => !pending
  | pending, w :: ws =>
      match nextPending? pending w with
      | none => false
      | some pending => areMarkers pending ws

theorem areMarkers_cons_iff {pending : Bool} {w : List Char} {ws : List (List Char)} :
    areMarkers pending (w :: ws) = true ↔
      ∃ next, nextPending? pending w = some next ∧ areMarkers next ws = true := by
  rw [areMarkers]
  cases nextPending? pending w with
  | none => simp
  | some next => simp

/-- Words after a run make up a run with it if they make up one of their own. -/
theorem areMarkers_append {pending : Bool} {vs : List (List Char)} (ws : List (List Char))
    (first : areMarkers pending vs = true) : areMarkers pending (vs ++ ws) = areMarkers false ws := by
  induction vs generalizing pending with
  | nil =>
      have open_ : pending = false := by simpa [areMarkers] using first
      rw [open_, List.nil_append]
  | cons w vs ih =>
      obtain ⟨next, found, later⟩ := areMarkers_cons_iff.1 first
      rw [List.cons_append, areMarkers, found]
      exact ih later

/-- The words that `onlyMarkers` reads, the one it is in the middle of included. -/
theorem onlyMarkers_eq (pending : Bool) (word cs : List Char) (letters : ∀ c ∈ word, isSeparator c = false) :
    onlyMarkers pending word cs = areMarkers pending (nameWords (word.reverse ++ cs)) := by
  have whole (nonempty : word ≠ []) : nameWords word.reverse = [word.reverse] :=
    runs_of_all (by simpa using nonempty) fun c inside => by simp [letters c (List.mem_reverse.1 inside)]
  induction cs generalizing pending word with
  | nil =>
      rw [onlyMarkers, List.append_nil]
      cases word with
      | nil => rfl
      | cons d word =>
          rw [whole (List.cons_ne_nil d word), areMarkers, if_neg (by simp)]
          cases nextPending? pending (d :: word).reverse with
          | none => rfl
          | some next => cases next <;> rfl
  | cons c r ih =>
      rw [onlyMarkers]
      by_cases separates : isSeparator c = true
      · have apart : nameWords (word.reverse ++ c :: r) = nameWords word.reverse ++ nameWords r :=
          runs_append_cons (by simp [separates]) _ _
        have fresh (next : Bool) : onlyMarkers next [] r = areMarkers next (nameWords r) :=
          ih next [] (by simp) (by simp)
        rw [apart, if_neg (by simp [separates])]
        cases word with
        | nil => exact fresh pending
        | cons d word =>
            rw [whole (List.cons_ne_nil d word), if_neg (by simp), List.singleton_append, areMarkers]
            cases nextPending? pending (d :: word).reverse with
            | none => rfl
            | some next => exact fresh next
      · have letter : isSeparator c = false := Bool.eq_false_iff.2 separates
        have longer : ∀ d ∈ c :: word, isSeparator d = false := by
          rintro d (_ | inside)
          · exact letter
          · exact letters d ‹_›
        rw [if_pos (by simp [letter]), ih pending (c :: word) longer fun _ =>
          runs_of_all (by simp) fun d inside => by simp [longer d (List.mem_reverse.1 inside)]]
        simp

/-- A run starts with a word and is made up of markers. -/
theorem isRun_iff (cs : List Char) :
    isRun cs = true ↔
      cs.head?.any (fun c => !isSeparator c) = true ∧ areMarkers false (nameWords cs) = true := by
  cases cs with
  | nil => simp [isRun]
  | cons c r =>
      rw [isRun, onlyMarkers_eq false [] (c :: r) (by simp), Bool.and_eq_true]
      rfl

/-! ## The longest run that ends a text -/

/-- A cut is made where a word can start. -/
theorem splitRunFrom_endsApart {free : Bool} {cs : List Char} (found : (splitRunFrom free cs).2 ≠ []) :
    EndsApart (splitRunFrom free cs).1 ∧ ((splitRunFrom free cs).1 = [] → free = true) := by
  induction cs generalizing free with
  | nil => exact absurd rfl found
  | cons c r ih =>
      rw [splitRunFrom] at found ⊢
      split
      · rename_i here
        exact ⟨rfl, fun _ => (Bool.and_eq_true_iff.1 here).1⟩
      · rename_i later
        rw [if_neg later] at found
        exact ⟨endsApart_cons.2 (ih found), fun empty => absurd empty (by simp)⟩

/-- No run that ends the text and starts where a word can is longer than the one cut off. -/
theorem length_splitRunFrom_le {free : Bool} {before run : List Char} (marks : isRun run = true)
    (last : EndsApart before) (first : before = [] → free = true) :
    (splitRunFrom free (before ++ run)).1.length ≤ before.length := by
  induction before generalizing free with
  | nil =>
      cases run with
      | nil => cases marks
      | cons c r => rw [List.nil_append, splitRunFrom, if_pos (by simp [first rfl, marks])]
  | cons c r ih =>
      rw [List.cons_append, splitRunFrom]
      split
      · exact Nat.zero_le _
      · obtain ⟨last, first⟩ := endsApart_cons.1 last
        exact Nat.succ_le_succ (ih last first)

theorem splitRun_append (cs : List Char) : (splitRun cs).1 ++ trailingRun cs = cs :=
  splitRunFrom_append true cs

theorem endsApart_splitRun {cs : List Char} (found : trailingRun cs ≠ []) : EndsApart (splitRun cs).1 :=
  (splitRunFrom_endsApart found).1

theorem isRun_trailingRun {cs : List Char} (found : trailingRun cs ≠ []) : isRun (trailingRun cs) = true :=
  (isRun_splitRunFrom true cs).resolve_left found

/-- A reading that separators cut does not see whether a text is tidied: what is left in front of
the run that ends a text has the words of the text stripped. -/
theorem read_withoutRun {read : List Char → List (List Char)}
    (cuts : CutsAt read (fun c => isSeparator c = true)) (cs : List Char) :
    read (withoutRun cs) = read (splitRun cs).1 := by
  rw [withoutRun, cuts.read_trim fun c => isSeparator_of_isEdge,
    cuts.read_collapseBlanks fun c => isSeparator_of_isBlank]

/-- A run with the words that end the text in front of it is a run if those words make up one. -/
theorem isRun_append {before run : List Char} (starts : before.head?.any (fun c => !isSeparator c) = true)
    (marks : areMarkers false (nameWords before) = true)
    (more : run ≠ [] → EndsApart before ∧ isRun run = true) : isRun (before ++ run) = true := by
  obtain ⟨c, r, rfl⟩ : ∃ c r, before = c :: r := by
    cases before with
    | nil => cases starts
    | cons c r => exact ⟨c, r, rfl⟩
  refine (isRun_iff _).2 ⟨starts, ?_⟩
  by_cases alone : run = []
  · rwa [alone, List.append_nil]
  · obtain ⟨last, marksToo⟩ := more alone
    rw [last.nameWords_append, areMarkers_append _ marks]
    exact ((isRun_iff run).1 marksToo).2

/-- No run ends a text from which the run was taken: it would have been taken with it. -/
theorem trailingRun_withoutRun (cs : List Char) : trailingRun (withoutRun cs) = [] := by
  by_contra found
  obtain ⟨starts, marks⟩ := (isRun_iff _).1 (isRun_trailingRun found)
  have nonempty : nameWords (trailingRun (withoutRun cs)) ≠ [] := by
    obtain ⟨c, r, second⟩ := List.exists_cons_of_ne_nil found
    rw [second] at starts ⊢
    exact runs_cons_ne_nil starts r
  -- the words of that run end what was left in front of the run that was taken
  have wordsAre : nameWords (splitRun cs).1 =
      nameWords (splitRun (withoutRun cs)).1 ++ nameWords (trailingRun (withoutRun cs)) := by
    rw [← (endsApart_splitRun found).nameWords_append, splitRun_append, read_withoutRun cutsAt_nameWords]
  obtain ⟨front, back, split, same, start, last⟩ := exists_suffix_of_runs nonempty wordsAre
  have taken : isRun (back ++ trailingRun cs) = true := by
    refine isRun_append start (by rwa [nameWords, same]) fun more => ?_
    refine ⟨EndsApart.of_append (split ▸ endsApart_splitRun more) ?_, isRun_trailingRun more⟩
    rintro rfl
    cases start
  have whole : front ++ (back ++ trailingRun cs) = cs := by
    rw [← List.append_assoc, ← split, splitRun_append]
  have shorter : (splitRun cs).1.length ≤ front.length := by
    have cut : (splitRun (front ++ (back ++ trailingRun cs))).1.length ≤ front.length :=
      length_splitRunFrom_le taken (by simpa [EndsApart] using last) fun _ => rfl
    rwa [whole] at cut
  rw [split, List.length_append] at shorter
  have gone : back = [] := List.eq_nil_of_length_eq_zero (by omega)
  rw [gone] at start
  cases start

/-- Stripping a text twice strips it once. -/
theorem withoutRun_withoutRun (cs : List Char) : withoutRun (withoutRun cs) = withoutRun cs := by
  have whole : (splitRun (withoutRun cs)).1 = withoutRun cs := by
    have append := splitRun_append (withoutRun cs)
    rwa [trailingRun_withoutRun, List.append_nil] at append
  have collapsed : IsCollapsed (withoutRun cs) := by
    obtain ⟨before, after, split, -, -⟩ := exists_trim isEdge (collapseBlanks (splitRun cs).1)
    exact IsCollapsed.of_append (split ▸ isCollapsed_collapseBlanks _)
  rw [withoutRun, whole, collapseBlanks_of_isCollapsed collapsed]
  exact trim_trim isEdge _

/-! ## On strings -/

theorem stripText_stripText (s : String) : stripText (stripText s) = stripText s := by
  rw [stripText, stripText, String.toList_ofList, withoutRun_withoutRun]

/-- No run of markers ends a stripped text. -/
theorem trailingText_stripText (s : String) : trailingText (stripText s) = "" := by
  rw [trailingText, stripText, String.toList_ofList, trailingRun_withoutRun]

/-- Neither a space nor a full stop, an underscore or a dash opens a stripped text. -/
theorem head?_stripText (s : String) : (stripText s).toList.head?.any isEdge = false := by
  rw [stripText, String.toList_ofList]
  exact head?_trim isEdge _

/-- Neither a space nor a full stop, an underscore or a dash ends a stripped text. -/
theorem getLast?_stripText (s : String) : (stripText s).toList.getLast?.any isEdge = false := by
  rw [stripText, String.toList_ofList]
  exact getLast?_trim isEdge _

/-- A stripped text announces no edition. -/
theorem announcedBy_stripText (e : Edition) (s : String) : announcedBy e (stripText s) = false := by
  rw [announcedBy, stripText, String.toList_ofList, announces, trailingRun_withoutRun]
  rfl

/-- A title keeps its markers if it is made up of them alone, and has none otherwise. -/
theorem titleText_cases (s : String) : titleText s = s ∨ titleText s = stripText s := by
  rw [titleText]
  split
  · exact .inl rfl
  · exact .inr rfl

theorem stripText_titleText (s : String) : stripText (titleText s) = stripText s := by
  rcases titleText_cases s with same | same <;> rw [same]
  exact stripText_stripText s

theorem titleText_titleText (s : String) : titleText (titleText s) = titleText s := by
  by_cases empty : stripText s = ""
  · have same : titleText s = s := if_pos empty
    rw [same, same]
  · rw [titleText, stripText_titleText, if_neg empty]
    exact (if_neg empty).symm

/-- A title announces no edition that its name does not. -/
theorem announcedBy_of_titleText {e : Edition} {s : String} (still : announcedBy e (titleText s) = true) :
    announcedBy e s = true := by
  rcases titleText_cases s with same | same <;> rw [same] at still
  · exact still
  · rw [announcedBy_stripText] at still
    exact absurd still Bool.false_ne_true

end Edition

end ReleaseHistory
