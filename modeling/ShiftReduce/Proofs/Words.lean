import Mathlib.Tactic.Common
import ShiftReduce.CommandLine.Commands

/-!
# Words and the gaps between them

A text is laid out in words with gaps of blanks around them. The gaps in front of the first word and
behind the last one may be empty, those between two words may not. Splitting a text at its blanks
gives the words of its layout, whatever blanks the gaps are made of.

* `IsWord`, `IsGap`: what words and gaps are.
* `layOut`, `WellSpaced`: the text of a layout, and the layouts in which no two words touch.

Results:
* `words_append_blank`: a blank ends one word and lets another begin.
* `words_layOut`: the words of a layout are found again.
* `exists_layOut`: every text has a layout.
* `tokenize_reads_layouts`: the tokens of an input are the words of its layout and the end marker.
-/

namespace ShiftReduce

/-! ## Layouts -/

/-- A text that is not empty and has no blank in it. -/
structure IsWord (text : String) : Prop where
  /-- There is a character. -/
  nonempty : text ≠ ""
  /-- No character is a blank. -/
  letters : ∀ c ∈ text.toList, isBlank c = false

theorem isWord_iff {text : String} :
    IsWord text ↔ text ≠ "" ∧ ∀ c ∈ text.toList, isBlank c = false :=
  ⟨fun h => ⟨h.nonempty, h.letters⟩, fun h => ⟨h.1, h.2⟩⟩

-- By name, since the search may find the instance that tries all characters there are.
instance (text : String) : Decidable (IsWord text) :=
  have : Decidable (∀ c ∈ text.toList, isBlank c = false) := List.decidableBAll _ text.toList
  decidable_of_iff _ isWord_iff.symm

/-- A text of blanks only, which may be empty. -/
def IsGap (text : String) : Prop := ∀ c ∈ text.toList, isBlank c = true

instance (text : String) : Decidable (IsGap text) :=
  List.decidableBAll (fun c => isBlank c = true) text.toList

/-- The text that begins with the gap `front` and goes on with the words of `pieces`, each with the
    gap behind it. -/
def layOut (front : String) : (pieces : List (String × String)) → String
  | [] => front
  | (word, gap) :: pieces => front ++ word ++ layOut gap pieces

/-- The pieces are words with gaps behind them, and only the gaps at both ends may be empty. -/
inductive WellSpaced : (front : String) → (pieces : List (String × String)) → Prop
  | nil {front : String} (hfront : IsGap front) : WellSpaced front []
  | cons {front word gap : String} {pieces : List (String × String)} (hfront : IsGap front)
      (hword : IsWord word) (hapart : pieces ≠ [] → gap ≠ "") (hrest : WellSpaced gap pieces) :
      WellSpaced front ((word, gap) :: pieces)

theorem WellSpaced.isGap {front : String} {pieces : List (String × String)}
    (h : WellSpaced front pieces) : IsGap front := by
  cases h <;> assumption

theorem wellSpaced_cons_iff {front word gap : String} {pieces : List (String × String)} :
    WellSpaced front ((word, gap) :: pieces) ↔
      IsGap front ∧ IsWord word ∧ (pieces ≠ [] → gap ≠ "") ∧ WellSpaced gap pieces := by
  constructor
  · rintro (_ | ⟨hfront, hword, hapart, hrest⟩)
    exact ⟨hfront, hword, hapart, hrest⟩
  · rintro ⟨hfront, hword, hapart, hrest⟩
    exact .cons hfront hword hapart hrest

instance decidableWellSpaced :
    (front : String) → (pieces : List (String × String)) → Decidable (WellSpaced front pieces)
  | front, [] => decidable_of_iff (IsGap front) ⟨.nil, WellSpaced.isGap⟩
  | _, (_, gap) :: pieces =>
    have := decidableWellSpaced gap pieces
    decidable_of_iff _ wellSpaced_cons_iff.symm

theorem WellSpaced.isWord {front word : String} {pieces : List (String × String)}
    (h : WellSpaced front pieces) (hword : word ∈ pieces.map Prod.fst) : IsWord word := by
  induction h with
  | nil => cases hword
  | cons hfront hfirst hapart hrest ih =>
    rcases List.mem_cons.1 hword with rfl | hword
    · exact hfirst
    · exact ih hword

theorem WellSpaced.append {blanks front : String} {pieces : List (String × String)}
    (h : WellSpaced front pieces) (hblanks : IsGap blanks) :
    WellSpaced (blanks ++ front) pieces := by
  have hgap : IsGap (blanks ++ front) := by
    intro c hc
    rw [String.toList_append, List.mem_append] at hc
    exact hc.elim (hblanks c) (h.isGap c)
  cases h with
  | nil => exact .nil hgap
  | cons _ hword hapart hrest => exact .cons hgap hword hapart hrest

theorem layOut_append (blanks front : String) (pieces : List (String × String)) :
    layOut (blanks ++ front) pieces = blanks ++ layOut front pieces := by
  cases pieces with
  | nil => rfl
  | cons piece pieces => simp only [layOut, String.append_assoc]

/-- What comes behind a word of a layout is nothing or begins with a blank. -/
theorem WellSpaced.head?_layOut {gap : String} {pieces : List (String × String)}
    (h : WellSpaced gap pieces) (hapart : pieces ≠ [] → gap ≠ "") {c : Char}
    (hc : (layOut gap pieces).toList.head? = some c) : isBlank c = true := by
  have hgap : gap.toList.head? = some c := by
    cases pieces with
    | nil => exact hc
    | cons piece pieces =>
      have hne : gap.toList ≠ [] := by
        rw [Ne, String.toList_eq_nil_iff]
        exact hapart (List.cons_ne_nil piece pieces)
      rw [layOut, String.append_assoc, String.toList_append, List.head?_append] at hc
      obtain ⟨d, rest, hd⟩ := List.exists_cons_of_ne_nil hne
      rw [hd] at hc ⊢
      exact hc
  exact h.isGap c (List.mem_of_mem_head? hgap)

/-! ## Splitting -/

/-- A blank ends the word that is being read. -/
theorem wordsFrom_append_blank {c : Char} (hc : isBlank c = true) (before text rest : List Char) :
    wordsFrom before (text ++ c :: rest) = wordsFrom before text ++ wordsFrom [] rest := by
  induction text generalizing before with
  | nil =>
    show (if isBlank c then wordOf before.reverse ++ wordsFrom [] rest
      else wordsFrom (c :: before) rest) = wordOf before.reverse ++ wordsFrom [] rest
    rw [if_pos hc]
  | cons x text ih =>
    rw [List.cons_append, wordsFrom, wordsFrom]
    split_ifs
    · rw [ih, List.append_assoc]
    · exact ih (x :: before)

/-- Letters are added to the word that is being read. -/
theorem wordsFrom_append_of_letters {letters : List Char} (h : ∀ c ∈ letters, isBlank c = false)
    (before rest : List Char) :
    wordsFrom before (letters ++ rest) = wordsFrom (letters.reverse ++ before) rest := by
  induction letters generalizing before with
  | nil => rfl
  | cons x letters ih =>
    have hx : ¬isBlank x = true := by simp [h x List.mem_cons_self]
    rw [List.cons_append, wordsFrom, if_neg hx, ih fun c hc => h c (List.mem_cons_of_mem x hc),
      List.reverse_cons, List.append_assoc, List.singleton_append]

/-- Blanks between words are passed over. -/
theorem wordsFrom_append_of_blanks {blanks : List Char} (h : ∀ c ∈ blanks, isBlank c = true)
    (rest : List Char) : wordsFrom [] (blanks ++ rest) = wordsFrom [] rest := by
  induction blanks with
  | nil => rfl
  | cons c blanks ih =>
    rw [List.cons_append, wordsFrom, if_pos (h c List.mem_cons_self)]
    exact ih fun d hd => h d (List.mem_cons_of_mem c hd)

/-- Splitting at a blank splits both sides. -/
theorem words_append_blank {c : Char} (hc : isBlank c = true) (a b : String) :
    words (a ++ String.singleton c ++ b) = words a ++ words b := by
  rw [words, String.toList_append, String.toList_append, String.toList_singleton, List.append_assoc]
  exact wordsFrom_append_blank hc [] a.toList b.toList

theorem words_gap_append {gap : String} (hgap : IsGap gap) (rest : String) :
    words (gap ++ rest) = words rest := by
  rw [words, String.toList_append]
  exact wordsFrom_append_of_blanks hgap rest.toList

/-- A word with nothing or a blank behind it is found as it is. -/
theorem words_word_append {word rest : String} (hword : IsWord word)
    (hrest : ∀ c, rest.toList.head? = some c → isBlank c = true) :
    words (word ++ rest) = word :: words rest := by
  have hwordOf : wordOf (word.toList.reverse ++ []).reverse = [word] := by
    have hne : word.toList ≠ [] := fun h => hword.nonempty (String.toList_eq_nil_iff.1 h)
    rw [List.append_nil, List.reverse_reverse, wordOf.eq_2 _ hne, String.ofList_toList]
  rw [words, String.toList_append, wordsFrom_append_of_letters hword.letters, words]
  cases htext : rest.toList with
  | nil =>
    rw [wordsFrom, hwordOf]
    rfl
  | cons c text =>
    have hc : isBlank c = true := hrest c (by rw [htext]; rfl)
    rw [wordsFrom, if_pos hc, hwordOf, wordsFrom, if_pos hc]
    rfl

theorem words_of_isWord {word : String} (hword : IsWord word) : words word = [word] := by
  have h : words (word ++ "") = word :: words "" := words_word_append hword (by simp)
  rw [String.append_empty] at h
  exact h

/-! ## Layouts are found again -/

/-- The words of a layout are found again, whatever its gaps are. -/
theorem words_layOut {front : String} {pieces : List (String × String)}
    (h : WellSpaced front pieces) : words (layOut front pieces) = pieces.map Prod.fst := by
  induction h with
  | @nil front hfront =>
    have hempty := words_gap_append hfront ""
    rw [String.append_empty] at hempty
    rw [layOut, hempty]
    rfl
  | cons hfront hword hapart hrest ih =>
    rw [layOut, String.append_assoc, words_gap_append hfront,
      words_word_append hword fun c => hrest.head?_layOut hapart, ih, List.map_cons]

/-- A character in front of a layout makes the first gap or the first word longer, or is a word of
    its own. -/
theorem WellSpaced.exists_cons {front : String} {pieces : List (String × String)}
    (h : WellSpaced front pieces) (c : Char) :
    ∃ front' pieces', WellSpaced front' pieces' ∧
      layOut front' pieces' = String.singleton c ++ layOut front pieces := by
  have hempty : IsGap "" := by simp [IsGap]
  by_cases hc : isBlank c = true
  · have hblank : IsGap (String.singleton c) := by simpa [IsGap] using hc
    exact ⟨String.singleton c ++ front, pieces, h.append hblank, layOut_append _ front pieces⟩
  · have hletter : IsWord (String.singleton c) := ⟨by simp, by simpa using hc⟩
    cases h with
    | nil hfront =>
      exact ⟨"", [(String.singleton c, front)], .cons hempty hletter (absurd rfl) (.nil hfront),
        by simp [layOut]⟩
    | @cons _ word gap pieces hfront hword hapart hrest =>
      by_cases hjoin : front = ""
      · subst hjoin
        have hlonger : IsWord (String.singleton c ++ word) := by
          refine ⟨by simp, fun d hd => ?_⟩
          rw [String.toList_append, List.mem_append] at hd
          exact hd.elim (hletter.letters d) (hword.letters d)
        exact ⟨"", (String.singleton c ++ word, gap) :: pieces,
          .cons hempty hlonger hapart hrest, by simp [layOut, String.append_assoc]⟩
      · exact ⟨"", (String.singleton c, front) :: (word, gap) :: pieces,
          .cons hempty hletter (fun _ => hjoin) (.cons hfront hword hapart hrest),
          by simp [layOut]⟩

/-- Every text has a layout. -/
theorem exists_layOut (text : String) :
    ∃ front pieces, WellSpaced front pieces ∧ layOut front pieces = text := by
  suffices h : ∀ letters : List Char, ∃ front pieces, WellSpaced front pieces ∧
      layOut front pieces = String.ofList letters by
    obtain ⟨front, pieces, hspaced, htext⟩ := h text.toList
    exact ⟨front, pieces, hspaced, htext.trans String.ofList_toList⟩
  intro letters
  induction letters with
  | nil => exact ⟨"", [], .nil (by simp [IsGap]), rfl⟩
  | cons c letters ih =>
    obtain ⟨front, pieces, hspaced, htext⟩ := ih
    obtain ⟨front', pieces', hspaced', htext'⟩ := hspaced.exists_cons c
    refine ⟨front', pieces', hspaced', ?_⟩
    rw [htext', htext, ← String.toList_inj]
    simp

/-! ## Words alone -/

theorem isWord_of_mem_words {text word : String} (h : word ∈ words text) : IsWord word := by
  obtain ⟨front, pieces, hspaced, rfl⟩ := exists_layOut text
  rw [words_layOut hspaced] at h
  exact hspaced.isWord h

/-- Words with a blank between any two of them are found again. -/
theorem words_intercalate {ws : List String} (h : ∀ w ∈ ws, IsWord w) :
    words (" ".intercalate ws) = ws := by
  induction ws with
  | nil => rfl
  | cons w ws ih =>
    have hw := h w List.mem_cons_self
    have hrest := ih fun v hv => h v (List.mem_cons_of_mem w hv)
    cases ws with
    | nil => rw [String.intercalate_singleton, words_of_isWord hw]
    | cons v ws =>
      have hblank : isBlank ' ' = true := by decide
      rw [String.intercalate_cons_cons]
      show words (w ++ String.singleton ' ' ++ _) = _
      rw [words_append_blank hblank, words_of_isWord hw, hrest]
      rfl

theorem dropLast_tokenize (input : String) (endMarker : Symbol) :
    (tokenize input endMarker).dropLast = words input :=
  List.dropLast_concat

/-- **Tokens are read off layouts.** The last token of an input is the end marker. The others are
    the words of every layout that the input has, and it has one. With single blanks between them
    they give the same tokens again, and an input that is cut at a blank has the tokens of both its
    parts. -/
theorem tokenize_reads_layouts (endMarker : Symbol) :
    (∀ front pieces, WellSpaced front pieces →
      tokenize (layOut front pieces) endMarker = pieces.map Prod.fst ++ [endMarker]) ∧
    (∀ input, ∃ front pieces, WellSpaced front pieces ∧ layOut front pieces = input ∧
      pieces.map Prod.fst = (tokenize input endMarker).dropLast) ∧
    (∀ input, tokenize (" ".intercalate (tokenize input endMarker).dropLast) endMarker =
      tokenize input endMarker) ∧
    ∀ a b c, isBlank c = true → tokenize (a ++ String.singleton c ++ b) endMarker =
      (tokenize a endMarker).dropLast ++ tokenize b endMarker := by
  refine ⟨?_, ?_, ?_, ?_⟩
  · intro front pieces hspaced
    rw [tokenize, words_layOut hspaced]
  · intro input
    obtain ⟨front, pieces, hspaced, hinput⟩ := exists_layOut input
    refine ⟨front, pieces, hspaced, hinput, ?_⟩
    rw [dropLast_tokenize, ← hinput, words_layOut hspaced]
  · intro input
    rw [dropLast_tokenize, tokenize, words_intercalate fun w => isWord_of_mem_words, tokenize]
  · intro a b c hc
    rw [dropLast_tokenize, tokenize, words_append_blank hc, List.append_assoc, tokenize]

/-- Blanks of all sorts between the words id, + and id are no part of them, and the line separator
    is as good a blank as any other. -/
theorem tokenize_reads_layouts_wideBlanks :
    WellSpaced " \t" [("id", "\u3000\n"), ("+", "\u00a0"), ("id", "")] ∧
    tokenize " \tid\u3000\n+\u00a0id" "$" = ["id", "+", "id", "$"] ∧
    isBlank '\u2028' = true ∧
    tokenize ("$ id" ++ String.singleton '\u2028' ++ "") "$" = ["$", "id", "$"] := by
  have hspaced : WellSpaced " \t" [("id", "\u3000\n"), ("+", "\u00a0"), ("id", "")] := by decide
  have hblank : isBlank '\u2028' = true := by decide
  obtain ⟨hlayout, -, -, hcut⟩ := tokenize_reads_layouts "$"
  refine ⟨hspaced, hlayout _ _ hspaced, hblank, ?_⟩
  rw [hcut "$ id" "" '\u2028' hblank]
  decide

end ShiftReduce
