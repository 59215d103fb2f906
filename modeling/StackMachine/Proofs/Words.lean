import Mathlib.Data.List.TakeWhile
import StackMachine.Text.Blank

/-! The words of a text. A text consists of words that blanks keep apart in exactly one way, and these
words are the ones that are listed. -/
namespace StackMachine.Text

def AllBlank (cs : List Char) : Prop := ∀ c ∈ cs, isBlank c = true

/-- A non-empty run of characters that are not blank. -/
structure IsWord (w : List Char) : Prop where
  nonempty : w ≠ []
  solid : ∀ c ∈ w, isBlank c = false

/-- Where a word ends: the text ends too, or goes on with a blank. -/
def Breaks (cs : List Char) : Prop := ∀ c ∈ cs.head?, isBlank c = true

/-- The text consists of these words, in order, with blanks between any two of them and perhaps at its
ends. -/
inductive Consists : List Char → List (List Char) → Prop
  | blank {cs : List Char} (blank : AllBlank cs) : Consists cs []
  | word {before w rest : List Char} {ws : List (List Char)} (blank : AllBlank before) (word : IsWord w)
      (breaks : Breaks rest) (more : Consists rest ws) : Consists (before ++ w ++ rest) (w :: ws)

lemma splitWhere_eq_splitOnP (p : Char → Bool) (cs : List Char) : splitWhere p cs = cs.splitOnP p := by
  induction cs with
  | nil => rw [splitWhere_nil, List.splitOnP_nil]
  | cons c cs ih =>
    rw [List.splitOnP_cons_eq_if_modifyHead, ← ih]
    simp only [splitWhere, List.foldr_cons]
    split
    · rfl
    · split
      next h => exact absurd h (splitWhere_ne_nil p cs)
      next piece rest h => rw [h, List.modifyHead_cons]

/-- Pieces with a separator behind each are found again, if none holds a separator itself. -/
lemma splitOn_flatMap {α : Type} [BEq α] [LawfulBEq α] {sep : α} {pieces : List (List α)}
    (h : ∀ piece ∈ pieces, sep ∉ piece) :
    (pieces.flatMap (· ++ [sep])).splitOn sep = pieces ++ [[]] := by
  induction pieces with
  | nil => rfl
  | cons piece pieces ih =>
    rw [List.forall_mem_cons] at h
    have hpiece := List.splitOn_eq_singleton h.1
    have hrest := ih h.2
    unfold List.splitOn at hpiece hrest ⊢
    rw [List.flatMap_cons, List.append_assoc, List.singleton_append,
      List.splitOnP_append_cons _ _ (by simp), hpiece]
    exact congrArg (piece :: ·) hrest

/-- What holds inside the separator and inside every piece holds throughout. -/
lemma forall_mem_intercalate {α : Type} {P : α → Prop} {sep : List α} {pieces : List (List α)}
    (hsep : ∀ a ∈ sep, P a) (h : ∀ piece ∈ pieces, ∀ a ∈ piece, P a) :
    ∀ a ∈ List.intercalate sep pieces, P a := by
  induction pieces with
  | nil => simp
  | cons piece pieces ih =>
    rw [List.forall_mem_cons] at h
    cases pieces with
    | nil => simpa using h.1
    | cons next pieces =>
      rw [List.intercalate_cons_cons, List.append_assoc, List.forall_mem_append, List.forall_mem_append]
      exact ⟨h.1,hsep,ih h.2⟩

lemma AllBlank.breaks {cs : List Char} (h : AllBlank cs) : Breaks cs :=
  fun c hc => h c (List.mem_of_mem_head? hc)

/-! ### Listing the words -/

lemma words_append_blank {c : Char} (hc : isBlank c = true) (cs ds : List Char) :
    words (cs ++ c :: ds) = words cs ++ words ds := by
  simp only [words, splitWhere_eq_splitOnP]
  rw [List.splitOnP_append_cons cs ds hc, List.filter_append]

lemma words_allBlank_append {before : List Char} (h : AllBlank before) (cs : List Char) :
    words (before ++ cs) = words cs := by
  induction before with
  | nil => rfl
  | cons c before ih =>
    rw [AllBlank, List.forall_mem_cons] at h
    have hc := words_append_blank h.1 [] (before ++ cs)
    rw [List.cons_append, ← List.nil_append (c :: (before ++ cs)), hc, ih h.2]
    rfl

lemma words_of_allBlank {cs : List Char} (h : AllBlank cs) : words cs = [] := by
  rw [← List.append_nil cs, words_allBlank_append h]
  rfl

lemma words_append_allBlank {after : List Char} (h : AllBlank after) (cs : List Char) :
    words (cs ++ after) = words cs := by
  cases after with
  | nil => rw [List.append_nil]
  | cons c after =>
    rw [AllBlank, List.forall_mem_cons] at h
    rw [words_append_blank h.1, words_of_allBlank h.2, List.append_nil]

lemma words_of_isWord {w : List Char} (h : IsWord w) : words w = [w] := by
  rw [words, splitWhere_eq_splitOnP, List.splitOnP_eq_singleton h.solid]
  simp [h.nonempty]

lemma words_isWord_append {w rest : List Char} (h : IsWord w) (hb : Breaks rest) :
    words (w ++ rest) = w :: words rest := by
  cases rest with
  | nil =>
    rw [List.append_nil, words_of_isWord h]
    rfl
  | cons c rest =>
    have hc : isBlank c = true := hb c rfl
    have hr := words_append_blank hc [] rest
    rw [words_append_blank hc, words_of_isWord h]
    rw [List.nil_append] at hr
    rw [hr]
    rfl

/-- The words that a text consists of are the ones listed. -/
theorem Consists.words_eq {cs : List Char} {ws : List (List Char)} (h : Consists cs ws) : words cs = ws := by
  induction h with
  | blank blank => exact words_of_allBlank blank
  | word blank word breaks more ih =>
    rw [List.append_assoc, words_allBlank_append blank, words_isWord_append word breaks, ih]

/-- A text is blank, or a first word can be cut off it. -/
lemma allBlank_or_exists_word (cs : List Char) :
    AllBlank cs ∨ ∃ before w rest, AllBlank before ∧ IsWord w ∧ Breaks rest ∧ cs = before ++ w ++ rest := by
  have hcs : cs.takeWhile isBlank ++ cs.dropWhile isBlank = cs := List.takeWhile_append_dropWhile
  have hbefore : AllBlank (cs.takeWhile isBlank) := fun c hc => List.mem_takeWhile_imp hc
  cases hd : cs.dropWhile isBlank with
  | nil => exact .inl (List.dropWhile_eq_nil_iff.mp hd)
  | cons c ds =>
    have hc : isBlank c = false := by
      have h := List.head?_dropWhile_not isBlank cs
      rwa [hd] at h
    rw [hd, ← List.takeWhile_append_dropWhile (p := fun c => !isBlank c) (l := c :: ds),
      ← List.append_assoc] at hcs
    refine .inr ⟨_,_,_,hbefore,⟨?_,?_⟩,?_,hcs.symm⟩
    · simp [hc]
    · intro d hd
      simpa using List.mem_takeWhile_imp hd
    · intro d hd
      have h := List.head?_dropWhile_not (fun c => !isBlank c) (c :: ds)
      rw [Option.mem_def.mp hd] at h
      simpa using h

/-- Every text consists of the words that are listed. -/
theorem consists_words (cs : List Char) : Consists cs (words cs) := by
  obtain h | ⟨before,w,rest,hbefore,hw,hrest,rfl⟩ := allBlank_or_exists_word cs
  · rw [words_of_allBlank h]
    exact .blank h
  · have hlt : rest.length < (before ++ w ++ rest).length := by
      have hpos := List.length_pos_iff.mpr hw.nonempty
      simp only [List.length_append]
      omega
    rw [List.append_assoc, words_allBlank_append hbefore, words_isWord_append hw hrest,
      ← List.append_assoc]
    exact .word hbefore hw hrest (consists_words rest)
termination_by cs.length

theorem words_eq_iff {cs : List Char} {ws : List (List Char)} : words cs = ws ↔ Consists cs ws := by
  constructor
  · rintro rfl
    exact consists_words cs
  · exact Consists.words_eq

@[simp] theorem consists_nil_iff {cs : List Char} : Consists cs [] ↔ AllBlank cs := by
  constructor
  · rintro ⟨h⟩
    exact h
  · exact .blank

end StackMachine.Text
