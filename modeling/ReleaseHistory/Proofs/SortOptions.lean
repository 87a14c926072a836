/-
# ReleaseHistory.Proofs.SortOptions -- what a list of written sort options asks for

Entries that are set one after another are named in the order of their first mention and have the value
of their last (`Entries.map_fst_ofList`, `Entries.mem_ofList_iff`).

A written option is parted at its first colon (`SortOrder.Spells`).  Reading a list of options gives
every key once; writing the result out and reading it again gives the same (`ofOptions_map_writeOption`).

A sort order asks for the clauses of its entries (`SortOrder.AsksFor`) if each of them names a key and a
direction, and is refused for the first that does not (`resolve_eq_ok_iff`, `resolve_eq_error_iff`).
-/
import ReleaseHistory.CommandLine.Run
import ReleaseHistory.Proofs.Reading
import ReleaseHistory.Proofs.Words

namespace ReleaseHistory

set_option autoImplicit false

/-! ## Entries -/

namespace Entries

variable {κ α : Type} [DecidableEq κ] {es : List (κ × α)}

theorem map_fst_set (name : κ) (v : α) (es : List (κ × α)) :
    (set name v es).map Prod.fst =
      if name ∈ es.map Prod.fst then es.map Prod.fst else es.map Prod.fst ++ [name] := by
  induction es with
  | nil => rfl
  | cons e es ih =>
      obtain ⟨n, w⟩ := e
      rw [set]
      by_cases same : n = name
      · rw [if_pos same, if_pos (by simp [same])]
        rfl
      · have behind : name ∈ ((n, w) :: es).map Prod.fst ↔ name ∈ es.map Prod.fst := by
          rw [List.map_cons, List.mem_cons, or_iff_right (Ne.symm same)]
        rw [if_neg same, List.map_cons, ih]
        simp only [behind]
        split <;> rfl

theorem set_of_not_mem {name : κ} (v : α) (new : name ∉ es.map Prod.fst) :
    set name v es = es ++ [(name, v)] := by
  induction es with
  | nil => rfl
  | cons e es ih =>
      rw [List.map_cons, List.mem_cons, not_or] at new
      rw [set, if_neg (Ne.symm new.1), ih new.2]
      rfl

theorem ofList_append_singleton (es : List (κ × α)) (e : κ × α) :
    ofList (es ++ [e]) = set e.1 e.2 (ofList es) := by
  rw [ofList, List.foldl_append]
  rfl

/-- Names stand in the order of their first mention. -/
theorem map_fst_ofList (es : List (κ × α)) : (ofList es).map Prod.fst = (es.map Prod.fst).eraseDups := by
  induction es using List.reverseRecOn with
  | nil => rfl
  | append_singleton es e ih =>
      rw [ofList_append_singleton, map_fst_set, ih, List.map_append, List.eraseDups_append]
      by_cases named : e.1 ∈ es.map Prod.fst
      · rw [if_pos (List.mem_eraseDups.2 named)]
        simp [List.removeAll, named]
      · rw [if_neg fun before => named (List.mem_eraseDups.1 before)]
        simp [List.removeAll, named, List.eraseDups_cons]

theorem nodup_ofList (es : List (κ × α)) : ((ofList es).map Prod.fst).Nodup := by
  induction es using List.reverseRecOn with
  | nil => exact List.nodup_nil
  | append_singleton es e ih =>
      rw [ofList_append_singleton, map_fst_set]
      split
      · exact ih
      · rename_i new
        refine List.nodup_append.2 ⟨ih, List.pairwise_singleton _ _, ?_⟩
        rintro n named m single rfl
        exact new (List.mem_singleton.1 single ▸ named)

theorem forall_bne_iff {name : κ} : (∀ e ∈ es, (name != e.1) = true) ↔ name ∉ es.map Prod.fst := by
  rw [List.mem_map, not_exists]
  exact forall_congr' fun e => by rw [not_and, bne_iff_ne, ne_comm]

/-- An entry is found under its name if no two entries have one name. -/
theorem mem_iff_lookup (distinct : (es.map Prod.fst).Nodup) {e : κ × α} :
    e ∈ es ↔ es.lookup e.1 = some e.2 := by
  constructor
  · intro held
    obtain ⟨before, after, rfl⟩ := List.append_of_mem held
    rw [List.map_append, List.nodup_append] at distinct
    refine List.lookup_eq_some_iff.2 ⟨before, after, rfl, fun d earlier => ?_⟩
    have apart : d.1 ≠ e.1 := distinct.2.2 _ (List.mem_map_of_mem earlier) _ List.mem_cons_self
    simpa using apart.symm
  · intro found
    obtain ⟨before, after, rfl, -⟩ := List.lookup_eq_some_iff.1 found
    exact List.mem_append_right _ List.mem_cons_self

theorem lookup_ofList (name : κ) (es : List (κ × α)) :
    (ofList es).lookup name = es.reverse.lookup name := by
  induction es using List.reverseRecOn with
  | nil => rfl
  | append_singleton es e ih =>
      rw [ofList_append_singleton, lookup_set, ih, List.reverse_append, List.reverse_singleton,
        List.singleton_append, List.lookup_cons]
      by_cases same : name = e.1
      · simp [same]
      · rw [if_neg same, beq_false_of_ne same]

/-- A name has the value of its last mention. -/
theorem mem_ofList_iff {e : κ × α} :
    e ∈ ofList es ↔ ∃ earlier later, es = earlier ++ e :: later ∧ e.1 ∉ later.map Prod.fst := by
  rw [mem_iff_lookup (nodup_ofList es), lookup_ofList, List.lookup_eq_some_iff]
  constructor
  · rintro ⟨later, earlier, split, apart⟩
    refine ⟨earlier.reverse, later.reverse, by simpa using congrArg List.reverse split, ?_⟩
    rwa [List.map_reverse, List.mem_reverse, ← forall_bne_iff]
  · rintro ⟨earlier, later, rfl, apart⟩
    refine ⟨later.reverse, earlier.reverse, by simp, ?_⟩
    rwa [forall_bne_iff, List.map_reverse, List.mem_reverse]

/-- Entries with different names stay as they are. -/
theorem ofList_of_nodup (distinct : (es.map Prod.fst).Nodup) : ofList es = es := by
  induction es using List.reverseRecOn with
  | nil => rfl
  | append_singleton es e ih =>
      rw [List.map_append, List.nodup_append] at distinct
      obtain ⟨before, -, apart⟩ := distinct
      rw [ofList_append_singleton, ih before, set_of_not_mem]
      exact fun named => apart _ named _ (List.mem_singleton_self _) rfl

end Entries

/-! ## Texts without blanks around them -/

namespace Text

theorem strip_strip (s : String) : strip (strip s) = strip s := by
  rw [strip, strip, String.toList_ofList, trim_trim]

theorem mem_of_mem_strip {s : String} {c : Char} (held : c ∈ (strip s).toList) : c ∈ s.toList := by
  obtain ⟨before, after, split, -⟩ := exists_trim isBlank s.toList
  rw [strip, String.toList_ofList] at held
  rw [split]
  exact List.mem_append_right _ (List.mem_append_left _ held)

end Text

namespace SortOrder

open CommandLine (Listing)

/-! ## Written options -/

variable {option : String} {e : String × String}

/-- The option stands for the key and the direction: the texts before and behind its first colon
without blanks around them.  The direction is rising where there is no colon, or only blanks are behind
it. -/
def Spells (option : String) (e : String × String) : Prop :=
  ∃ key direction, ':' ∉ key.toList ∧
    (option = key ++ ":" ++ direction ∨ option = key ∧ direction = "") ∧
    e = (Text.strip key, if Text.strip direction = "" then "asc" else Text.strip direction)

theorem ne_of_not_mem (whole : ':' ∉ option.toList) : ∀ c ∈ option.toList, decide (c ≠ ':') = true :=
  fun _ inside => decide_eq_true fun same => whole (same ▸ inside)

theorem splitOption_of_not_mem (whole : ':' ∉ option.toList) : splitOption option = (option, "") := by
  have kept := ne_of_not_mem whole
  rw [splitOption, List.takeWhile_eq_self_iff.2 kept, List.dropWhile_eq_nil_iff.2 kept,
    String.ofList_toList]
  rfl

theorem splitOption_colon {key : String} (whole : ':' ∉ key.toList) (direction : String) :
    splitOption (key ++ ":" ++ direction) = (key, direction) := by
  have kept := ne_of_not_mem whole
  have written : (key ++ ":" ++ direction).toList = key.toList ++ ':' :: direction.toList := by simp
  rw [splitOption, written, List.takeWhile_append_of_pos kept, List.dropWhile_append_of_pos kept]
  simp

theorem Spells.readOption_eq (spells : Spells option e) : readOption option = e := by
  obtain ⟨key, direction, whole, rfl | ⟨rfl, rfl⟩, rfl⟩ := spells
  · rw [readOption, splitOption_colon whole]
  · rw [readOption, splitOption_of_not_mem whole]

theorem spells_readOption (option : String) : Spells option (readOption option) := by
  by_cases colon : ':' ∈ option.toList
  · obtain ⟨before, after, split, first⟩ := List.eq_append_cons_of_mem colon
    have parted : option = String.ofList before ++ ":" ++ String.ofList after :=
      String.toList_injective (by simpa using split)
    have whole : ':' ∉ (String.ofList before).toList := by rwa [String.toList_ofList]
    refine ⟨_, _, whole, .inl parted, ?_⟩
    rw [parted, readOption, splitOption_colon whole]
  · refine ⟨option, "", colon, .inr ⟨rfl, rfl⟩, ?_⟩
    rw [readOption, splitOption_of_not_mem colon]

/-- An entry written as an option. -/
def writeOption (e : String × String) : String := e.1 ++ ":" ++ e.2

theorem Spells.direction_ne (spells : Spells option e) : e.2 ≠ "" := by
  obtain ⟨key, direction, -, -, rfl⟩ := spells
  by_cases empty : Text.strip direction = "" <;> simp [empty]

/-- What is read from an option can be written as one. -/
theorem Spells.written (spells : Spells option e) : Spells (writeOption e) e := by
  have named := spells.direction_ne
  obtain ⟨key, direction, whole, -, rfl⟩ := spells
  refine ⟨_, _, fun colon => whole (Text.mem_of_mem_strip colon), .inl rfl, ?_⟩
  have again : Text.strip (if Text.strip direction = "" then "asc" else Text.strip direction) =
      if Text.strip direction = "" then "asc" else Text.strip direction := by
    split
    · decide
    · exact Text.strip_strip direction
  rw [again, if_neg named, Text.strip_strip]

theorem exists_spells {options : List String} (held : e ∈ ofOptions options) :
    ∃ option ∈ options, Spells option e := by
  obtain ⟨earlier, later, split, -⟩ := Entries.mem_ofList_iff.1 held
  have read : e ∈ options.map readOption := split ▸ List.mem_append_right _ List.mem_cons_self
  obtain ⟨option, listed, rfl⟩ := List.mem_map.1 read
  exact ⟨option, listed, spells_readOption option⟩

/-- Writing out what options ask for and reading it again changes nothing. -/
theorem ofOptions_map_writeOption (options : List String) :
    ofOptions ((ofOptions options).map writeOption) = ofOptions options := by
  have back : ((ofOptions options).map writeOption).map readOption = ofOptions options := by
    rw [List.map_map]
    refine (List.map_congr_left fun e held => ?_).trans (List.map_id _)
    obtain ⟨option, -, spells⟩ := exists_spells held
    exact spells.written.readOption_eq
  rw [ofOptions, back]
  exact Entries.ofList_of_nodup (Entries.nodup_ofList _)

/-! ## Resolving entries -/

/-- The entry has a key and a direction, in any case.  The lower case of no character beyond ASCII is one of
their letters. -/
def IsAllowed (e : String × String) : Prop :=
  fold e.1 ∈ SortColumn.keys.map Prod.fst ∧ (fold e.2 = "asc" ∨ fold e.2 = "desc")

/-- The entry asks for the clause: its key names the column and its direction is that of the clause. -/
structure AsksFor (e : String × String) (clause : SortClause) : Prop where
  key : (fold e.1, clause.column) ∈ SortColumn.keys
  direction : fold e.2 = if clause.descending then "desc" else "asc"

/-- What is wrong with an entry; its key is looked at first. -/
inductive IsRefusedAs (e : String × String) : ArgumentFault → Prop
  | key (unknown : fold e.1 ∉ SortColumn.keys.map Prod.fst) : IsRefusedAs e (.unknownSortKey e.1)
  | direction (known : fold e.1 ∈ SortColumn.keys.map Prod.fst) (rising : fold e.2 ≠ "asc")
      (falling : fold e.2 ≠ "desc") : IsRefusedAs e (.unknownDirection e.1 e.2)

theorem ofKey?_eq_some_iff {key : String} {column : SortColumn} :
    SortColumn.ofKey? key = some column ↔ (key, column) ∈ SortColumn.keys :=
  (Entries.mem_iff_lookup (e := (key, column)) (by decide)).symm

theorem mem_map_fst_keys {key : String} {column : SortColumn} (listed : (key, column) ∈ SortColumn.keys) :
    key ∈ SortColumn.keys.map Prod.fst :=
  List.mem_map_of_mem (f := Prod.fst) listed

theorem ofKey?_eq_none_iff {key : String} :
    SortColumn.ofKey? key = none ↔ key ∉ SortColumn.keys.map Prod.fst := by
  rw [SortColumn.ofKey?, List.lookup_eq_none_iff, Entries.forall_bne_iff]

theorem isDescending?_eq_some_iff {direction : String} (named : direction ≠ "") {descending : Bool} :
    isDescending? (some direction) = some descending ↔
      fold direction = if descending then "desc" else "asc" := by
  rw [isDescending?, Option.getD_some, if_neg named]
  split
  · rename_i rising
    cases descending <;> simp [rising]
  · rename_i falling
    cases descending <;> simp [falling]
  · rename_i rising falling
    cases descending
    · exact iff_of_false nofun rising
    · exact iff_of_false nofun falling

theorem isDescending?_eq_none_iff {direction : String} (named : direction ≠ "") :
    isDescending? (some direction) = none ↔ fold direction ≠ "asc" ∧ fold direction ≠ "desc" := by
  rw [Option.eq_none_iff_forall_ne_some, Bool.forall_bool]
  simp only [ne_eq, isDescending?_eq_some_iff named]
  rfl

theorem resolveEntry_eq_ok_iff (named : e.2 ≠ "") {clause : SortClause} :
    resolveEntry (e.1, some e.2) = .ok clause ↔ AsksFor e clause := by
  obtain ⟨column, descending⟩ := clause
  rw [resolveEntry]
  cases found : SortColumn.ofKey? (fold e.1) with
  | none =>
      simp only [reduceCtorEq, false_iff]
      intro asks
      cases found.symm.trans (ofKey?_eq_some_iff.2 asks.key)
  | some column' =>
      have known := ofKey?_eq_some_iff.1 found
      cases towards : isDescending? (some e.2) with
      | none =>
          simp only [reduceCtorEq, false_iff]
          intro asks
          cases towards.symm.trans ((isDescending?_eq_some_iff named).2 asks.direction)
      | some descending' =>
          simp only [Except.ok.injEq, SortClause.mk.injEq]
          constructor
          · rintro ⟨rfl, rfl⟩
            exact ⟨known, (isDescending?_eq_some_iff named).1 towards⟩
          · intro asks
            exact ⟨Option.some.inj (found.symm.trans (ofKey?_eq_some_iff.2 asks.key)),
              Option.some.inj (towards.symm.trans ((isDescending?_eq_some_iff named).2 asks.direction))⟩

theorem resolveEntry_eq_error_iff (named : e.2 ≠ "") {f : ArgumentFault} :
    resolveEntry (e.1, some e.2) = .error f ↔ IsRefusedAs e f := by
  rw [resolveEntry]
  cases found : SortColumn.ofKey? (fold e.1) with
  | none =>
      have unknown := ofKey?_eq_none_iff.1 found
      simp only [Except.error.injEq]
      constructor
      · rintro rfl
        exact .key unknown
      · rintro (_ | known)
        · rfl
        · exact absurd known unknown
  | some column =>
      have known := mem_map_fst_keys (ofKey?_eq_some_iff.1 found)
      cases towards : isDescending? (some e.2) with
      | none =>
          obtain ⟨rising, falling⟩ := (isDescending?_eq_none_iff named).1 towards
          simp only [Except.error.injEq, Option.getD_some]
          constructor
          · rintro rfl
            exact .direction known rising falling
          · rintro (unknown | _)
            · exact absurd known unknown
            · rfl
      | some descending =>
          simp only [reduceCtorEq, false_iff]
          rintro (unknown | ⟨-, rising, falling⟩)
          · exact unknown known
          · cases towards.symm.trans ((isDescending?_eq_none_iff named).2 ⟨rising, falling⟩)

theorem IsRefusedAs.not_isAllowed {f : ArgumentFault} (refused : IsRefusedAs e f) : ¬ IsAllowed e := by
  rintro ⟨known, direction⟩
  cases refused with
  | key unknown => exact unknown known
  | direction _ rising falling => exact direction.elim rising falling

theorem exists_asksFor_iff : (∃ clause, AsksFor e clause) ↔ IsAllowed e := by
  constructor
  · rintro ⟨clause, key, direction⟩
    refine ⟨mem_map_fst_keys key, ?_⟩
    cases towards : clause.descending <;> rw [towards] at direction
    · exact .inl direction
    · exact .inr direction
  · rintro ⟨known, direction⟩
    obtain ⟨⟨key, column⟩, listed, same⟩ := List.mem_map.1 known
    obtain rfl : key = fold e.1 := same
    rcases direction with rising | falling
    · exact ⟨⟨column, false⟩, listed, rising⟩
    · exact ⟨⟨column, true⟩, listed, falling⟩

/-! ## Resolving orders -/

variable {es : List (String × String)} {f : ArgumentFault}

/-- The entries with their directions, as a sort order. -/
def given (es : List (String × String)) : List (String × Option String) :=
  es.map fun e => (e.1, some e.2)

theorem mapM_given (es : List (String × String)) :
    (given es).mapM resolveEntry = es.mapM fun e => resolveEntry (e.1, some e.2) := by
  rw [given, List.mapM_map, Function.comp_def]

theorem mapM_given_eq_ok_iff (named : ∀ e ∈ es, e.2 ≠ "") {asked : List SortClause} :
    (given es).mapM resolveEntry = .ok asked ↔ List.Forall₂ AsksFor es asked := by
  rw [mapM_given, mapM_eq_ok_iff]
  constructor
  · intro read
    apply ((List.forall₂_and_left _ _).2 ⟨named, read⟩).imp
    exact fun e clause both => (resolveEntry_eq_ok_iff both.1).1 both.2
  · intro asks
    apply ((List.forall₂_and_left _ _).2 ⟨named, asks⟩).imp
    exact fun e clause both => (resolveEntry_eq_ok_iff both.1).2 both.2

/-- An order has one clause for each of its entries; newest first is the order of none.  The falling id
closes it. -/
theorem resolve_eq_ok_iff (named : ∀ e ∈ es, e.2 ≠ "") {clauses : List SortClause} :
    resolve (given es) = .ok clauses ↔ ∃ asked, List.Forall₂ AsksFor es asked ∧
      clauses = (if es = [] then [⟨.timestamp, true⟩] else asked) ++ [⟨.id, true⟩] := by
  rw [resolve]
  cases read : (given es).mapM resolveEntry with
  | error f =>
      refine iff_of_false nofun ?_
      rintro ⟨asked, asks, -⟩
      cases read.symm.trans ((mapM_given_eq_ok_iff named).2 asks)
  | ok asked =>
      have asks := (mapM_given_eq_ok_iff named).1 read
      have none : asked.isEmpty = true ↔ es = [] := by
        rw [List.isEmpty_iff, ← List.length_eq_zero_iff, ← asks.length_eq, List.length_eq_zero_iff]
      simp only [bind, Except.bind, pure, Except.pure, none, Except.ok.injEq]
      constructor
      · rintro rfl
        exact ⟨asked, asks, rfl⟩
      · rintro ⟨asked', asks', rfl⟩
        obtain rfl := Except.ok.inj (read.symm.trans ((mapM_given_eq_ok_iff named).2 asks'))
        rfl

/-- An order is refused for its first entry that asks for no clause. -/
theorem resolve_eq_error_iff (named : ∀ e ∈ es, e.2 ≠ "") :
    resolve (given es) = .error f ↔ ∃ before e after, es = before ++ e :: after ∧
      (∀ d ∈ before, IsAllowed d) ∧ IsRefusedAs e f := by
  have stops : resolve (given es) = .error f ↔ (given es).mapM resolveEntry = .error f := by
    rw [resolve]
    cases (given es).mapM resolveEntry <;> simp [bind, Except.bind, pure, Except.pure]
  rw [stops, mapM_given, mapM_eq_error_iff]
  apply exists_congr; intro before
  apply exists_congr; intro e
  apply exists_congr; intro after
  apply and_congr_right
  rintro rfl
  obtain ⟨earlier, later⟩ := List.forall_mem_append.1 named
  rw [resolveEntry_eq_error_iff (later e List.mem_cons_self)]
  apply and_congr_left'
  refine forall₂_congr fun d inside => ?_
  simp only [resolveEntry_eq_ok_iff (earlier d inside)]
  exact exists_asksFor_iff

/-- The message names the entry. -/
theorem IsRefusedAs.message (refused : IsRefusedAs e f) :
    ∃ before after, f.message = before ++ Text.quoted e.1 ++ after := by
  have together : ∀ a b c d e : String, a ++ b ++ c ++ d ++ e = a ++ b ++ (c ++ d ++ e) := by
    intro a b c d e
    simp only [String.append_assoc]
  cases refused with
  | key => exact ⟨_, _, together _ _ _ _ _⟩
  | direction => exact ⟨_, _, together _ _ _ _ _⟩

/-! ## Options of a listing -/

theorem sort_query (l : Listing) : l.query.sort = given (ofOptions l.sort) := rfl

/-- A listing whose sort order is refused does not look at the history. -/
theorem find_of_resolve_eq_error {q : Query} (refused : resolve q.sort = .error f) (db : Database)
    (s : PageSettings) (c : Call) (start : 0 ≤ q.offset) :
    db.find s c q = (.error (.invalidArgument f), db) := by
  rw [Database.find, Query.page, if_neg (Int.not_lt.2 start), refused]

/-- A list of options has one reading: every key that is written, in the order of first mention, with
its last direction.  Written out and read again it is the same.  It is resolved exactly if every key and
every direction is allowed, to one clause for each entry and the falling id; otherwise it is refused for
its first entry that is not allowed, before the listing looks at the history. -/
theorem options_have_one_reading (options : List String) :
    (∃ read, List.Forall₂ Spells options read ∧
      (ofOptions options).map Prod.fst = (read.map Prod.fst).eraseDups ∧
      ∀ e, e ∈ ofOptions options ↔
        ∃ earlier later, read = earlier ++ e :: later ∧ e.1 ∉ later.map Prod.fst) ∧
    ofOptions ((ofOptions options).map writeOption) = ofOptions options ∧
    ((∃ clauses, resolve (given (ofOptions options)) = .ok clauses) ↔
      ∀ e ∈ ofOptions options, IsAllowed e) ∧
    (∀ clauses, resolve (given (ofOptions options)) = .ok clauses ↔
      ∃ asked, List.Forall₂ AsksFor (ofOptions options) asked ∧
        clauses = (if ofOptions options = [] then [⟨.timestamp, true⟩] else asked) ++ [⟨.id, true⟩]) ∧
    (∀ f, resolve (given (ofOptions options)) = .error f ↔
      ∃ before e after, ofOptions options = before ++ e :: after ∧ (∀ d ∈ before, IsAllowed d) ∧
        IsRefusedAs e f ∧ ∃ front back, f.message = front ++ Text.quoted e.1 ++ back) ∧
    ∀ f, resolve (given (ofOptions options)) = .error f →
      ∀ (l : Listing) (db : Database) (s : PageSettings) (c : Call), l.sort = options → 0 ≤ l.offset →
        db.find s c l.query = (.error (.invalidArgument f), db) := by
  have named : ∀ e ∈ ofOptions options, e.2 ≠ "" := by
    intro e held
    obtain ⟨option, -, spells⟩ := exists_spells held
    exact spells.direction_ne
  refine ⟨?_, ofOptions_map_writeOption options, ?_, fun clauses => resolve_eq_ok_iff named, ?_, ?_⟩
  · refine ⟨options.map readOption, ?_, Entries.map_fst_ofList _, fun e => Entries.mem_ofList_iff⟩
    rw [List.forall₂_map_right_iff, List.forall₂_same]
    exact fun option _ => spells_readOption option
  · constructor
    · rintro ⟨clauses, resolved⟩ e held
      obtain ⟨asked, asks, -⟩ := (resolve_eq_ok_iff named).1 resolved
      obtain ⟨clause, -, its⟩ := Ledger.Faithful.exists_related asks held
      exact exists_asksFor_iff.1 ⟨clause, its⟩
    · intro allowed
      cases outcome : resolve (given (ofOptions options)) with
      | ok clauses => exact ⟨clauses, rfl⟩
      | error f =>
          obtain ⟨before, e, after, split, -, refused⟩ := (resolve_eq_error_iff named).1 outcome
          exact absurd (allowed e (split ▸ by simp)) refused.not_isAllowed
  · intro f
    rw [resolve_eq_error_iff named]
    constructor
    · rintro ⟨before, e, after, split, allowed, refused⟩
      exact ⟨before, e, after, split, allowed, refused, refused.message⟩
    · rintro ⟨before, e, after, split, allowed, refused, -⟩
      exact ⟨before, e, after, split, allowed, refused⟩
  · rintro f refused l db s c rfl start
    rw [← sort_query] at refused
    exact find_of_resolve_eq_error refused db s c start

/-- A listing by title and size; the title is asked for twice, with a colon too many at last. -/
def twiceByTitle : Listing where
  limit := 0
  offset := 0
  search := ""
  sort := [" Title : desc", "size", "Title:DESC:", ":", "size: Desc"]
  indexers := []
  pushStatus := none
  filterStatus := none

/-- The title keeps its first place and takes its last direction, for which the listing is refused, and
not for the option behind it that names no key. -/
theorem options_have_one_reading_twiceByTitle :
    ofOptions twiceByTitle.sort = [("Title", "DESC:"), ("size", "Desc"), ("", "asc")] ∧
      resolve (given (ofOptions twiceByTitle.sort)) = .error (.unknownDirection "Title" "DESC:") ∧
      0 ≤ twiceByTitle.offset ∧
      Database.initialised.find {} .inMay twiceByTitle.query =
        (.error (.invalidArgument (.unknownDirection "Title" "DESC:")), .initialised) := by
  obtain ⟨-, -, -, -, refused, unread⟩ := options_have_one_reading twiceByTitle.sort
  have read : ofOptions twiceByTitle.sort = [("Title", "DESC:"), ("size", "Desc"), ("", "asc")] := by
    decide +kernel
  have known : fold "Title" ∈ SortColumn.keys.map Prod.fst := by decide +kernel
  have outcome : resolve (given (ofOptions twiceByTitle.sort)) = .error (.unknownDirection "Title" "DESC:") := by
    have here : IsRefusedAs ("Title", "DESC:") (.unknownDirection "Title" "DESC:") :=
      .direction known (by decide +kernel) (by decide +kernel)
    exact (refused _).2 ⟨[], _, _, read, by simp, here, here.message⟩
  exact ⟨read, outcome, by decide, unread _ outcome twiceByTitle .initialised {} .inMay rfl (by decide)⟩

end SortOrder

end ReleaseHistory
